import PolicyHost.Proofs.Encodings

set_option autoImplicit false

namespace PolicyHost.Trace.Term

inductive WritesPart : Json → List Char → Prop where
  | field (part : Json) (name : String) (tagged : Tagged part "string" (.str name))
      (identifier : Source.isIdentifier name.toList = true) : WritesPart part ('.' :: name.toList)
  | index (part : Json) (name : String) (tagged : Tagged part "var" (.str name)) :
      WritesPart part ('[' :: name.toList ++ [']'])
  | item (part : Json) (unnamed : ∀ name, Tagged part "string" (.str name) → Source.isIdentifier name.toList = false)
      (unbound : ∀ name, ¬ Tagged part "var" (.str name)) : WritesPart part ('[' :: (plain part).chars ++ [']'])

inductive Writes : List Json → List Char → Prop where
  | empty : Writes [] []
  | named (head : Json) (name : String) (parts : List Json) (texts : List (List Char))
      (given : head.get? "value" = some (.str name)) (each : List.Forall₂ WritesPart parts texts) :
      Writes (head :: parts) (name.toList ++ texts.flatten)
  | bare (head : Json) (parts : List Json) (texts : List (List Char))
      (unnamed : ∀ name, head.get? "value" ≠ some (.str name)) (each : List.Forall₂ WritesPart parts texts) :
      Writes (head :: parts) ('[' :: (plain head).chars ++ [']'] ++ texts.flatten)

inductive Names : Json → String → Prop where
  | var (term : Json) (name : String) (tagged : Tagged term "var" (.str name)) : Names term name
  | rule (term head last : Json) (rest : List Json) (name : String) (tagged : Tagged term "ref" (.arr (head :: rest)))
      (rooted : head.get? "value" = some (.str "data")) (final : (head :: rest).getLast? = some last)
      (named : last.get? "value" = some (.str name)) : Names term name
  | reference (term : Json) (parts : List Json) (text : List Char) (tagged : Tagged term "ref" (.arr parts))
      (elsewhere : ∀ head rest, parts = head :: rest → head.get? "value" ≠ some (.str "data"))
      (writes : Writes parts text) : Names term (String.ofList text)
  | call (term function : Json) (arguments : List Json) (name : String)
      (tagged : Tagged term "call" (.arr (function :: arguments))) (named : Names function name) : Names term name

-- The term that a node goes by, where it has no head with a name.
inductive GoesBy : Json → Json → Prop where
  | head (node head term : Json) (rest : List Json) (headed : node.get? "head" = some head)
      (unnamed : ∀ name, head.get? "name" = some (.str name) → name = "")
      (listed : head.get? "ref" = some (.arr (term :: rest))) : GoesBy node term
  | expression (node term : Json) (rest : List Json) (headless : node.get? "head" = none)
      (listed : node.get? "terms" = some (.arr (term :: rest))) : GoesBy node term
  | single (node term : Json) (headless : node.get? "head" = none) (given : node.get? "terms" = some term)
      (lone : ∀ items, term ≠ .arr items) : GoesBy node term
  | body (first term : Json) (rest : List Json) (goes : GoesBy first term) : GoesBy (.arr (first :: rest)) term
  | term (node : Json) (headless : node.get? "head" = none) (termless : node.get? "terms" = none)
      (lone : ∀ items, node ≠ .arr items) : GoesBy node node

inductive NamesRule : Json → String → Prop where
  | head (node head : Json) (name : String) (headed : node.get? "head" = some head)
      (given : head.get? "name" = some (.str name)) (filled : name ≠ "") : NamesRule node name
  | body (first : Json) (rest : List Json) (name : String) (named : NamesRule first name) :
      NamesRule (.arr (first :: rest)) name
  | term (node term : Json) (name : String) (goes : GoesBy node term) (named : Names term name) : NamesRule node name

section Writing

variable (part head : Json) (parts : List Json)

theorem value_string (name : String) :
    (value? part).bind Json.str? = some name ↔ part.get? "value" = some (.str name) := by
  unfold value?
  cases part.get? "value" with
  | none => simp
  | some given => cases given <;> simp [Json.str?]

theorem tagged_string (kind name : String) :
    Tagged part kind (.str name) ↔ kind? part = some kind ∧ (value? part).bind Json.str? = some name := by
  rw [kind_some, value_string]
  exact ⟨fun tagged => ⟨tagged.typed, tagged.valued⟩, fun both => ⟨both.1, both.2⟩⟩

theorem part_written (cs : List Char) (writes : WritesPart part cs) :
    partChars (part :: parts) = cs ++ partChars parts := by
  rw [partChars]
  refine congrArg (· ++ partChars parts) ?_
  cases writes with
  | field name tagged identifier =>
      obtain ⟨kind, value⟩ := (tagged_string part _ name).mp tagged
      simp only [kind, value, if_pos identifier]
  | index name tagged =>
      obtain ⟨kind, value⟩ := (tagged_string part _ name).mp tagged
      simp only [kind, value, bracketed]
  | item unnamed unbound =>
      split
      · next name kind value =>
          have other := unnamed name ((tagged_string part _ name).mpr ⟨kind, value⟩)
          rw [other]
          rfl
      · next name kind value => exact absurd ((tagged_string part _ name).mpr ⟨kind, value⟩) (unbound name)
      · rfl

theorem part_writes : ∃ cs, WritesPart part cs := by
  by_cases bound : ∃ name, Tagged part "var" (.str name)
  · obtain ⟨name, tagged⟩ := bound
    exact ⟨_, .index part name tagged⟩
  · by_cases named : ∃ name, Tagged part "string" (.str name) ∧ Source.isIdentifier name.toList = true
    · obtain ⟨name, tagged, identifier⟩ := named
      exact ⟨_, .field part name tagged identifier⟩
    · refine ⟨_, .item part (fun name tagged => ?_) fun name tagged => bound ⟨name, tagged⟩⟩
      exact Bool.eq_false_iff.mpr fun identifier => named ⟨name, tagged, identifier⟩

theorem parts_written (texts : List (List Char)) (each : List.Forall₂ WritesPart parts texts) :
    partChars parts = texts.flatten := by
  induction each with
  | nil => rw [partChars, List.flatten_nil]
  | cons first rest ih => rw [part_written _ _ _ first, ih, List.flatten_cons]

theorem parts_write : ∃ texts, List.Forall₂ WritesPart parts texts := by
  induction parts with
  | nil => exact ⟨[], .nil⟩
  | cons part rest ih =>
      obtain ⟨cs, first⟩ := part_writes part
      obtain ⟨texts, others⟩ := ih
      exact ⟨cs :: texts, .cons first others⟩

theorem reference_written (cs : List Char) (writes : Writes parts cs) : refChars parts = cs := by
  cases writes with
  | empty => rw [refChars]
  | named head name parts texts given each =>
      rw [refChars, (value_string head name).mpr given, parts_written parts texts each]
  | bare head parts texts unnamed each =>
      have none : (value? head).bind Json.str? = none :=
        Option.eq_none_iff_forall_ne_some.mpr fun name given => unnamed name ((value_string head name).mp given)
      rw [refChars, none, parts_written parts texts each, bracketed]

theorem reference_writes : Writes parts (refChars parts) := by
  cases parts with
  | nil =>
      rw [refChars]
      exact .empty
  | cons head parts =>
      obtain ⟨texts, each⟩ := parts_write parts
      cases given : (value? head).bind Json.str? with
      | none =>
          have writes : Writes (head :: parts) _ := .bare head parts texts (fun name there => by
            rw [(value_string head name).mpr there] at given
            cases given) each
          rwa [reference_written _ _ writes]
      | some name =>
          have writes : Writes (head :: parts) _ := .named head name parts texts ((value_string head name).mp given) each
          rwa [reference_written _ _ writes]

end Writing

section Names

variable (term value : Json) (parts arguments : List Json) (name : String)

theorem name_var (tagged : Tagged term "var" value) : name? term = value.str? := by
  rw [name?]
  split
  · next none => cases none.symm.trans tagged.value
  · next held =>
      cases held.symm.trans tagged.value
      simp only [tagged.kind]

theorem name_ref (tagged : Tagged term "ref" (.arr parts)) :
    name? term =
      if (parts.head?.bind value?).bind Json.str? = some "data" then (parts.getLast?.bind value?).bind Json.str?
      else some (String.ofList (refChars parts)) := by
  rw [name?]
  split
  · next none => cases none.symm.trans tagged.value
  · next value held =>
      cases held.symm.trans tagged.value
      simp only [tagged.kind]

theorem name_call (function : Json) (tagged : Tagged term "call" (.arr (function :: arguments))) :
    name? term = name? function := by
  rw [name?]
  split
  · next none => cases none.symm.trans tagged.value
  · next value held =>
      cases held.symm.trans tagged.value
      simp only [tagged.kind]

theorem rooted_iff :
    (parts.head?.bind value?).bind Json.str? = some "data" ↔
      ∃ head rest, parts = head :: rest ∧ head.get? "value" = some (.str "data") := by
  cases parts with
  | nil => simp
  | cons head rest => simp [← value_string]

theorem name_named (named : Names term name) : name? term = some name := by
  induction named with
  | var term name tagged => exact name_var term _ tagged
  | rule term head last rest name tagged rooted final named =>
      rw [name_ref term _ tagged, if_pos ((rooted_iff _).mpr ⟨head, rest, rfl, rooted⟩), final, Option.bind_some,
        value_string, named]
  | reference term parts text tagged elsewhere writes =>
      have other : ¬ (parts.head?.bind value?).bind Json.str? = some "data" := fun data =>
        have ⟨head, rest, same, rooted⟩ := (rooted_iff parts).mp data
        elsewhere head rest same rooted
      rw [name_ref term parts tagged, if_neg other, reference_written parts text writes]
  | call term function arguments name tagged named ih => rw [name_call term arguments function tagged, ih]

theorem referred_named (tagged : Tagged term "ref" (.arr parts)) (found : name? term = some name) :
    Names term name := by
  rw [name_ref term parts tagged] at found
  by_cases data : (parts.head?.bind value?).bind Json.str? = some "data"
  · rw [if_pos data] at found
    obtain ⟨head, rest, rfl, rooted⟩ := (rooted_iff parts).mp data
    cases final : (head :: rest).getLast? with
    | none => cases List.getLast?_eq_none_iff.mp final
    | some last =>
        rw [final, Option.bind_some, value_string] at found
        exact .rule term head last rest name tagged rooted final found
  · rw [if_neg data] at found
    cases found
    refine .reference term parts _ tagged (fun head rest same rooted => ?_) (reference_writes parts)
    exact data ((rooted_iff parts).mpr ⟨head, rest, same, rooted⟩)

theorem name_tagged (found : name? term = some name) :
    Tagged term "var" (.str name) ∨ (∃ parts, Tagged term "ref" (.arr parts)) ∨
      ∃ function arguments, Tagged term "call" (.arr (function :: arguments)) := by
  rw [name?] at found
  split at found
  · cases found
  · next value held =>
      have tagged (kind : String) (given : kind? term = some kind) : Tagged term kind value :=
        ⟨(kind_some term kind).mp given, held⟩
      split at found
      · next kind =>
          cases value with
          | str s =>
              cases found
              exact .inl (tagged "var" kind)
          | _ => cases found
      · next kind =>
          cases value with
          | arr parts => exact .inr (.inl ⟨parts, tagged "ref" kind⟩)
          | _ => cases found
      · next kind =>
          cases value with
          | arr parts =>
              cases parts with
              | nil => cases found
              | cons function arguments => exact .inr (.inr ⟨function, arguments, tagged "call" kind⟩)
          | _ => cases found
      · cases found

theorem named_of_name (term : Json) (name : String) (found : name? term = some name) : Names term name := by
  rcases name_tagged term name found with tagged | ⟨parts, tagged⟩ | ⟨function, arguments, tagged⟩
  · exact .var term name tagged
  · exact referred_named term parts name tagged found
  · have smaller : sizeOf function < sizeOf term := by
      have below := sizeOf_value?_lt tagged.value
      simp only [Json.arr.sizeOf_spec, List.cons.sizeOf_spec] at below
      omega
    rw [name_call term arguments function tagged] at found
    exact .call term function arguments name tagged (named_of_name function name found)
termination_by sizeOf term

theorem names_iff : Names term name ↔ name? term = some name :=
  ⟨name_named term name, named_of_name term name⟩

end Names

section Rules

variable (node head term : Json) (name : String)

theorem rule_name_headed (headed : node.get? "head" = some head)
    (unnamed : ∀ name, head.get? "name" = some (.str name) → name = "") :
    ruleName? node = ((head.get? "ref").bind (·.item? 0)).bind name? := by
  cases node with
  | obj members =>
      simp only [ruleName?, headed]
      split
      · next name given =>
          obtain ⟨found, there, text⟩ := Option.bind_eq_some_iff.mp given
          cases found <;> cases text
          rw [unnamed name there]
          rfl
      · rfl
  | _ => cases headed

theorem rule_name_goes (goes : GoesBy node term) : ruleName? node = name? term := by
  induction goes with
  | head node head term rest headed unnamed listed =>
      rw [rule_name_headed node head headed unnamed, listed]
      rfl
  | expression node term rest headless listed =>
      cases node with
      | obj members => simp only [ruleName?, headless, listed, List.head?_cons, Option.bind_some]
      | _ => cases listed
  | single node term headless given lone =>
      cases node with
      | obj members =>
          cases term with
          | arr items => exact absurd rfl (lone items)
          | _ => simp only [ruleName?, headless, given]
      | _ => cases given
  | body first term rest goes ih => rw [ruleName?, ih]
  | term node headless termless lone =>
      cases node with
      | arr items => exact absurd rfl (lone items)
      | _ => simp only [ruleName?, headless, termless]

theorem rule_named (named : NamesRule node name) : ruleName? node = some name := by
  induction named with
  | head node head name headed given filled =>
      cases node with
      | obj members => simp [ruleName?, headed, given, Json.str?, filled]
      | _ => cases headed
  | body first rest name named ih => rw [ruleName?, ih]
  | term node term name goes named => rw [rule_name_goes node term goes, (names_iff term name).mp named]

theorem named_of_head (headed : node.get? "head" = some head) (found : ruleName? node = some name) :
    NamesRule node name := by
  by_cases given : ∃ title, head.get? "name" = some (.str title) ∧ title ≠ ""
  · obtain ⟨title, given, filled⟩ := given
    have named : NamesRule node title := .head node head title headed given filled
    cases (rule_named node title named).symm.trans found
    exact named
  · have unnamed : ∀ title, head.get? "name" = some (.str title) → title = "" := fun title there =>
      by_contra fun filled => given ⟨title, there, filled⟩
    rw [rule_name_headed node head headed unnamed] at found
    obtain ⟨term, first, known⟩ := Option.bind_eq_some_iff.mp found
    obtain ⟨parts, listed, first⟩ := Option.bind_eq_some_iff.mp first
    cases parts with
    | arr items =>
        cases items with
        | nil => cases first
        | cons first rest =>
            cases first
            exact .term node term name (.head node head term rest headed unnamed listed) ((names_iff term name).mpr known)
    | _ => cases first

theorem named_of_terms (members : List (String × Json)) (headless : (Json.obj members).get? "head" = none)
    (found : ruleName? (.obj members) = some name) : NamesRule (.obj members) name := by
  have known {term : Json} (given : name? term = some name) : Names term name := (names_iff term name).mpr given
  cases listed : (Json.obj members).get? "terms" with
  | none =>
      simp only [ruleName?, headless, listed] at found
      exact .term _ _ name (.term _ headless listed fun _ same => nomatch same) (known found)
  | some given =>
      cases given with
      | arr items =>
          simp only [ruleName?, headless, listed] at found
          obtain ⟨first, there, found⟩ := Option.bind_eq_some_iff.mp found
          obtain ⟨rest, rfl⟩ := List.head?_eq_some_iff.mp there
          exact .term _ first name (.expression _ first rest headless listed) (known found)
      | _ =>
          simp only [ruleName?, headless, listed] at found
          exact .term _ _ name (.single _ _ headless listed fun _ same => nomatch same) (known found)

theorem named_of_rule_name (node : Json) (name : String) (found : ruleName? node = some name) :
    NamesRule node name := by
  cases node with
  | arr items =>
      cases items with
      | nil => cases found
      | cons first rest => exact .body first rest name (named_of_rule_name first name found)
  | obj members =>
      cases headed : (Json.obj members).get? "head" with
      | some head => exact named_of_head _ head name headed found
      | none => exact named_of_terms name members headed found
  | _ => exact .term _ _ name (.term _ rfl rfl fun _ same => nomatch same) ((names_iff _ name).mpr found)

theorem names_rule_iff : NamesRule node name ↔ ruleName? node = some name :=
  ⟨rule_named node name, named_of_rule_name node name⟩

end Rules

end PolicyHost.Trace.Term
