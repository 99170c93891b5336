import PolicyHost.Proofs.Encodings
import PolicyHost.Proofs.Entrypoints
import PolicyHost.Proofs.Heads
import PolicyHost.Proofs.Scalars

set_option autoImplicit false

namespace PolicyHost

namespace Source

theorem identifier_next (name other rest more : List Char) (named : isIdentifier name = true)
    (also : isIdentifier other = true) (ends : Ends continuesIdentifier rest) (stops : Ends continuesIdentifier more)
    (same : name ++ rest = other ++ more) : name = other ∧ rest = more :=
  run_next continuesIdentifier name other rest more (identifier_continues name named) (identifier_continues other also)
    ends stops same

theorem digit_unstarted (c : Char) (digit : Text.isDigit c = true) : startsIdentifier c = false := by
  have bounds : 48 ≤ c.toNat ∧ c.toNat ≤ 57 := by simpa [Text.isDigit, Char.le_def, UInt32.le_iff_toNat_le] using digit
  rw [← Bool.not_eq_true]
  intro starts
  have written : (97 ≤ c.toNat ∧ c.toNat ≤ 122) ∨ (65 ≤ c.toNat ∧ c.toNat ≤ 90) ∨ c = '_' := by
    simpa [startsIdentifier, Text.isLetter, Char.le_def, UInt32.le_iff_toNat_le, or_assoc] using starts
  rcases written with low | high | rfl
  · omega
  · omega
  · revert bounds
    decide

end Source

namespace Trace

open Source (Ends continuesIdentifier isIdentifier)

namespace Reference

structure Variable where
  name : String
  identifier : isIdentifier name.toList = true
  unreserved : name ∉ ["true", "false", "null"]
  deriving DecidableEq

inductive Part where
  | text (value : String)
  | int (value : Int)
  | bool (value : Bool)
  | null
  | var (name : Variable)
  deriving DecidableEq

def Part.chars : Part → List Char
  | text value => if isIdentifier value.toList then '.' :: value.toList else Term.bracketed (Json.quote value)
  | int value => Term.bracketed (signed value)
  | bool value => Term.bracketed (Json.bool value).chars
  | null => Term.bracketed Json.null.chars
  | var name => Term.bracketed name.name.toList

end Reference

structure Reference where
  head : Reference.Variable
  parts : List Reference.Part
  deriving DecidableEq

namespace Reference

def chars (r : Reference) : List Char := r.head.name.toList ++ r.parts.flatMap Part.chars

def text (r : Reference) : String := String.ofList r.chars

def literals : List (Part × String) := [(.bool true, "true"), (.bool false, "false"), (.null, "null")]

inductive Worded : Part → List Char → Prop where
  | number (value : Int) : Worded (.int value) (signed value)
  | literal (part : Part) (word : String) (among : (part, word) ∈ literals) : Worded part word.toList
  | name (name : Variable) : Worded (.var name) name.name.toList

inductive Form : Part → List Char → Prop where
  | pointed (name : String) (identifier : isIdentifier name.toList = true) : Form (.text name) ('.' :: name.toList)
  | quoted (value : String) : Form (.text value) (Term.bracketed (Json.quote value))
  | bare (part : Part) (word : List Char) (worded : Worded part word) : Form part (Term.bracketed word)

theorem part_form (part : Part) : Form part part.chars := by
  cases part with
  | text value =>
      by_cases identifier : isIdentifier value.toList = true
      · rw [Part.chars, if_pos identifier]
        exact .pointed value identifier
      · rw [Part.chars, if_neg identifier]
        exact .quoted value
  | int value => exact .bare _ _ (.number value)
  | bool value =>
      cases value with
      | true => exact .bare _ _ (.literal _ "true" (by decide))
      | false => exact .bare _ _ (.literal _ "false" (by decide))
  | null => exact .bare _ _ (.literal _ "null" (by decide))
  | var name => exact .bare _ _ (.name name)

theorem literal_identifier (part : Part) (word : String) (among : (part, word) ∈ literals) :
    isIdentifier word.toList = true ∧ word ∈ ["true", "false", "null"] := by
  have each : ∀ pair ∈ literals, isIdentifier pair.2.toList = true ∧ pair.2 ∈ ["true", "false", "null"] := by decide
  exact each (part, word) among

theorem literal_unique (p q : Part) (word : String) (first : (p, word) ∈ literals) (second : (q, word) ∈ literals) :
    p = q := by
  have each : ∀ pair ∈ literals, ∀ other ∈ literals, pair.2 = other.2 → pair.1 = other.1 := by decide
  exact each (p, word) first (q, word) second rfl

theorem number_unnamed (value : Int) : isIdentifier (signed value) = false := by
  cases digits : signed value with
  | nil => rfl
  | cons c rest =>
      have first : c = '-' ∨ Text.isDigit c = true := signed_chars value c (digits ▸ List.mem_cons_self)
      have unstarted : Source.startsIdentifier c = false := by
        rcases first with rfl | digit
        · rfl
        · exact Source.digit_unstarted c digit
      rw [isIdentifier, unstarted, Bool.false_and]

theorem worded_kind (part : Part) (word : List Char) (worded : Worded part word) :
    isIdentifier word = true ∨ ∃ value, part = .int value ∧ word = signed value := by
  cases worded with
  | number value => exact .inr ⟨value, rfl, rfl⟩
  | literal _ word among => exact .inl (literal_identifier part word among).1
  | name name => exact .inl name.identifier

theorem worded_free (part : Part) (word : List Char) (worded : Worded part word) (odd : Char) (sign : odd ≠ '-')
    (stops : continuesIdentifier odd = false) : odd ∉ word := by
  rcases worded_kind part word worded with named | ⟨value, _, rfl⟩
  · exact Source.identifier_free word odd named stops
  · intro inside
    rcases signed_chars value odd inside with minus | digit
    · exact sign minus
    · rw [continuesIdentifier, digit, Bool.or_true] at stops
      cases stops

theorem variable_unique (a b : Variable) (same : a.name.toList = b.name.toList) : a = b := by
  cases a
  cases b
  cases String.toList_inj.mp same
  rfl

theorem worded_unique (p q : Part) (word : List Char) (first : Worded p word) (second : Worded q word) : p = q := by
  have apart (name : Variable) (part : Part) (literal : String) (among : (part, literal) ∈ literals)
      (same : name.name.toList = literal.toList) : False :=
    name.unreserved (String.toList_inj.mp same ▸ (literal_identifier part literal among).2)
  have unnamed (value : Int) (named : isIdentifier (signed value) = true) : False := by
    rw [number_unnamed] at named
    cases named
  cases first with
  | number value =>
      rcases worded_kind q _ second with named | ⟨other, rfl, same⟩
      · exact (unnamed value named).elim
      · rw [signed_injective value other same]
  | literal _ literal among =>
      generalize same : literal.toList = word at second
      cases second with
      | number value => exact (unnamed value (same ▸ (literal_identifier p literal among).1)).elim
      | literal _ other also => exact literal_unique p q literal among (String.toList_inj.mp same ▸ also)
      | name name => exact (apart name p literal among same.symm).elim
  | name name =>
      generalize same : name.name.toList = word at second
      cases second with
      | number value => exact (unnamed value (same ▸ name.identifier)).elim
      | literal _ literal among => exact (apart name q literal among same).elim
      | name other => rw [variable_unique name other same]

theorem bracketed_append (cs rest : List Char) : Term.bracketed cs ++ rest = '[' :: (cs ++ ']' :: rest) := by
  rw [Term.bracketed, List.cons_append, List.cons_append, List.append_assoc, List.singleton_append]

theorem bracketed_next (cs ds rest more : List Char) (same : Term.bracketed cs ++ rest = Term.bracketed ds ++ more) :
    cs ++ ']' :: rest = ds ++ ']' :: more := by
  rw [bracketed_append, bracketed_append] at same
  exact (List.cons.inj same).2

-- A word runs up to the first closing bracket, which no word has.
theorem word_next (word other rest more : List Char) (closed : ']' ∉ word) (also : ']' ∉ other)
    (same : word ++ ']' :: rest = other ++ ']' :: more) : word = other ∧ rest = more := by
  have inner (cs : List Char) (free : ']' ∉ cs) : ∀ c ∈ cs, (c != ']') = true :=
    fun c inside => bne_iff_ne.mpr fun bracket => free (bracket ▸ inside)
  have stops (cs : List Char) : Ends (· != ']') (']' :: cs) := Source.ends_cons _ _ cs (bne_self_eq_false _)
  obtain ⟨words, rests⟩ := Source.run_next (· != ']') word other _ _ (inner word closed) (inner other also) (stops rest)
    (stops more) same
  exact ⟨words, (List.cons.inj rests).2⟩

theorem word_unquoted (word rest : List Char) (value : String) (more : List Char) (unquoted : '"' ∉ word)
    (same : word ++ ']' :: rest = Json.quote value ++ more) : False := by
  rw [Json.quote_append] at same
  cases word with
  | nil => exact absurd (List.cons.inj same).1 (by decide)
  | cons c word => exact unquoted ((List.cons.inj same).1 ▸ List.mem_cons_self)

theorem part_next (p q : Part) (rest more : List Char) (ends : Ends continuesIdentifier rest)
    (stops : Ends continuesIdentifier more) (same : p.chars ++ rest = q.chars ++ more) : p = q ∧ rest = more := by
  have first := part_form p
  have second := part_form q
  generalize p.chars = cs at first same
  generalize q.chars = ds at second same
  cases first with
  | pointed name identifier =>
      cases second with
      | pointed other also =>
          obtain ⟨names, rests⟩ := Source.identifier_next _ _ rest more identifier also ends stops
            (List.cons.inj same).2
          exact ⟨congrArg Part.text (String.toList_inj.mp names), rests⟩
      | quoted value => exact absurd (List.cons.inj same).1 (by decide)
      | bare _ word worded => exact absurd (List.cons.inj same).1 (by decide)
  | quoted value =>
      cases second with
      | pointed other also => exact absurd (List.cons.inj same).1 (by decide)
      | quoted other =>
          obtain ⟨values, rests⟩ := Json.quote_next value other _ _ (bracketed_next _ _ rest more same)
          exact ⟨congrArg Part.text values, (List.cons.inj rests).2⟩
      | bare _ word worded =>
          have unquoted := worded_free q word worded '"' (by decide) rfl
          exact (word_unquoted word more value _ unquoted (bracketed_next _ _ rest more same).symm).elim
  | bare _ word worded =>
      cases second with
      | pointed other also => exact absurd (List.cons.inj same).1 (by decide)
      | quoted other =>
          have unquoted := worded_free p word worded '"' (by decide) rfl
          exact (word_unquoted word rest other _ unquoted (bracketed_next _ _ rest more same)).elim
      | bare _ other also =>
          have closed := worded_free p word worded ']' (by decide) rfl
          have alsoClosed := worded_free q other also ']' (by decide) rfl
          obtain ⟨rfl, rests⟩ := word_next word other rest more closed alsoClosed (bracketed_next _ _ rest more same)
          exact ⟨worded_unique p q word worded also, rests⟩

theorem parts_end (parts : List Part) : Ends continuesIdentifier (parts.flatMap Part.chars) := by
  cases parts with
  | nil => nofun
  | cons part rest =>
      rw [List.flatMap_cons]
      have form := part_form part
      generalize part.chars = cs at form
      cases form with
      | pointed name identifier => exact Source.ends_cons _ '.' _ rfl
      | quoted value => exact Source.ends_cons _ '[' _ rfl
      | bare _ word worded => exact Source.ends_cons _ '[' _ rfl

theorem part_filled (part : Part) : part.chars ≠ [] := by
  have form := part_form part
  generalize part.chars = cs at form
  cases form with
  | _ => exact List.cons_ne_nil _ _

theorem parts_unique (ps qs : List Part) (same : ps.flatMap Part.chars = qs.flatMap Part.chars) : ps = qs := by
  induction ps generalizing qs with
  | nil =>
      cases qs with
      | nil => rfl
      | cons q qs => exact absurd (List.append_eq_nil_iff.mp same.symm).1 (part_filled q)
  | cons p ps ih =>
      cases qs with
      | nil => exact absurd (List.append_eq_nil_iff.mp same).1 (part_filled p)
      | cons q qs =>
          obtain ⟨rfl, rests⟩ := part_next p q _ _ (parts_end ps) (parts_end qs) same
          rw [ih qs rests]

theorem chars_unique (r s : Reference) (same : r.chars = s.chars) : r = s := by
  obtain ⟨heads, rests⟩ := Source.identifier_next _ _ _ _ r.head.identifier s.head.identifier (parts_end r.parts)
    (parts_end s.parts) same
  cases r
  cases s
  cases variable_unique _ _ heads
  cases parts_unique _ _ rests
  rfl

end Reference

end Trace

end PolicyHost
