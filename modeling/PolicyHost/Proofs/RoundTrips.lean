import PolicyHost.Proofs.Names
import PolicyHost.Trace.Basic

set_option autoImplicit false

namespace PolicyHost

namespace Dict

variable {α : Type}

theorem enter_last (key : String) (value : α) (entries : List (String × α))
    (below : ∀ entry ∈ entries, entry.1 < key) : enter key value entries = entries ++ [(key, value)] := by
  induction entries with
  | nil => rfl
  | cons entry rest ih =>
      obtain ⟨less, others⟩ := List.forall_mem_cons.mp below
      have other : key ≠ entry.1 := (String.ne_of_lt less).symm
      rw [enter, if_neg (String.lt_asymm less), if_neg other, ih others, List.cons_append]

theorem of_list_ascending (entries : List (String × α)) (ascending : Ascending entries) :
    (ofList entries).entries = entries := by
  have folded : ∀ d : Dict α, Ascending (d.entries ++ entries) →
      (entries.foldl (fun d e => d.insert e.1 e.2) d).entries = d.entries ++ entries := by
    clear ascending
    induction entries with
    | nil =>
        intro d _
        exact (List.append_nil _).symm
    | cons entry rest ih =>
        intro d whole
        have below : ∀ old ∈ d.entries, old.1 < entry.1 := fun old inside =>
          (List.pairwise_append.mp whole).2.2 old inside entry List.mem_cons_self
        have grown : (d.insert entry.1 entry.2).entries = d.entries ++ [entry] :=
          enter_last entry.1 entry.2 d.entries below
        rw [List.foldl_cons, ih, grown, List.append_assoc, List.singleton_append]
        rw [grown, List.append_assoc, List.singleton_append]
        exact whole
  exact folded empty ascending

theorem of_list_entries (d : Dict α) : ofList d.entries = d := ext (of_list_ascending d.entries d.ascending)

end Dict

namespace Json

inductive Proper : Json → Prop where
  | null : Proper .null
  | bool (value : Bool) : Proper (.bool value)
  | num (value : Number) : Proper (.num value)
  | str (value : String) : Proper (.str value)
  | arr (items : List Json) (each : ∀ item ∈ items, Proper item) : Proper (.arr items)
  | obj (members : List (String × Json)) (ascending : Ascending members)
      (each : ∀ member ∈ members, Proper member.2) : Proper (.obj members)

theorem proper_members (members : List (String × Json)) (proper : (Json.obj members).Proper) :
    Ascending members ∧ ∀ member ∈ members, Proper member.2 := by
  cases proper with
  | obj _ ascending each => exact ⟨ascending, each⟩

theorem proper_items {α : Type} (encode : α → Json) (items : List α) (each : ∀ a, (encode a).Proper) :
    (Json.arr (items.map encode)).Proper := by
  refine .arr _ fun item inside => ?_
  obtain ⟨a, _, rfl⟩ := List.mem_map.mp inside
  exact each a

theorem proper_member (name : String) (value : Option Json) (each : ∀ j ∈ value, Proper j) :
    ∀ member ∈ member? name value, Proper member.2 := by
  cases value with
  | none => exact fun _ inside => nomatch inside
  | some j => exact List.forall_mem_singleton.mpr (each j rfl)

theorem ascending_within (members : List (String × Json)) (names : List String) (ordered : names.Pairwise (· < ·))
    (within : (members.map Prod.fst).Sublist names) : Ascending members :=
  List.pairwise_map.mp (ordered.sublist within)

theorem member_names (name : String) (value : Option Json) : ((member? name value).map Prod.fst).Sublist [name] := by
  cases value with
  | none => exact List.nil_sublist _
  | some j => exact List.Sublist.refl _

theorem proper_option {α : Type} (name : String) (encode : α → Json) (value : Option α)
    (each : ∀ a, (encode a).Proper) : ∀ member ∈ member? name (value.map encode), Proper member.2 := by
  refine proper_member name _ fun j held => ?_
  obtain ⟨a, _, rfl⟩ := Option.map_eq_some_iff.mp held
  exact each a

theorem proper_list {α : Type} (name : String) (encode : α → Json) (items : List α)
    (each : ∀ a, (encode a).Proper) :
    ∀ member ∈ member? name (if items.isEmpty then none else some (.arr (items.map encode))), Proper member.2 := by
  cases items with
  | nil => exact fun _ inside => nomatch inside
  | cons a rest => exact List.forall_mem_singleton.mpr (proper_items encode (a :: rest) each)

@[simp] theorem lookup_member (name key : String) (value : Option Json) :
    (member? name value).lookup key = if key = name then value else none := by
  cases value with
  | none => simp [member?]
  | some j =>
      by_cases same : key = name
      · simp [member?, same]
      · rw [if_neg same, member?, List.lookup_cons, beq_eq_false_iff_ne.mpr same]
        rfl

theorem list_member {α : Type} (name : String) (items : List α) (j : Json) :
    (if items.isEmpty then [] else [(name, j)]) = member? name (if items.isEmpty then none else some j) := by
  cases items <;> rfl

section Fields

variable {α : Type} (encode : α → Json) (decode : Json → Option α) (back : ∀ a, decode (encode a) = some a)

include back

theorem list_written (items : List α) : list? decode (.arr (items.map encode)) = some items := by
  change (items.map encode).mapM decode = some items
  induction items with
  | nil => rfl
  | cons a rest ih =>
      rw [List.map_cons, List.mapM_cons, back, ih]
      rfl

variable (r : Record) (name : String)

theorem required_written (a : α) (written : r.members.lookup name = some (encode a)) :
    r.required name decode = some a := by
  rw [Record.required, written, Option.bind_some, back]

theorem maybe_omitted_written (value : Option α) (filled : ∀ a, encode a ≠ .null)
    (written : r.members.lookup name = value.map encode) : r.maybeOmitted name decode = some value := by
  rw [Record.maybeOmitted, Record.orElse, written]
  cases value with
  | none => rfl
  | some a =>
      change Record.nullable decode (encode a) = some (some a)
      rw [Record.nullable, back, Option.map_some]
      exact filled a

theorem or_else_written (items : List α)
    (written : r.members.lookup name = if items.isEmpty then none else some (.arr (items.map encode))) :
    r.orElse name (list? decode) [] = some items := by
  cases items with
  | nil =>
      rw [Record.orElse, written]
      rfl
  | cons a rest =>
      rw [Record.orElse, written]
      exact list_written encode decode back (a :: rest)

end Fields

theorem nat_written (n : Nat) : nat? (.nat n) = some n := by simp [nat, nat?]

theorem uint32_written (n : UInt32) : uint32? (Failure.lineJson n) = some n := by
  have small : n.toNat < UInt32.size := n.toNat_lt
  rw [uint32?, Failure.lineJson, nat_written, Option.bind_some, dif_pos small, UInt32.ofNatLT_toNat]

theorem line_not_null (n : UInt32) : Failure.lineJson n ≠ .null := nofun

theorem str_not_null (s : String) : Json.str s ≠ .null := nofun

end Json

namespace Failure

theorem kind_restored (kind : Kind) : Kind.ofJson? (.str kind.name) = some kind := by
  cases kind <;> decide

theorem failure_restored (f : Failure) : ofJson? f.toJson = some f := by
  let r : Json.Record := ⟨[("code", .str f.kind.name)] ++ Json.member? "column" (f.column.map lineJson) ++
    Json.member? "line" (f.line.map lineJson) ++ [("message", .str f.message)] ++
    Json.member? "suggestions" (if f.suggestions.isEmpty then none else some (.strings f.suggestions)), false⟩
  have read : Json.Record.ofJson? ["code", "message", "line", "column", "suggestions"] f.toJson false = some r := by
    rw [toJson, Json.list_member]
    rfl
  have kind : r.required "code" Kind.ofJson? = some f.kind :=
    Json.required_written (fun kind => .str kind.name) _ kind_restored r _ f.kind rfl
  have message : r.required "message" Json.str? = some f.message := by
    refine Json.required_written .str _ (fun _ => rfl) r _ f.message ?_
    simp [r, List.lookup_cons, List.lookup_append]
  have line : r.maybeOmitted "line" Json.uint32? = some f.line := by
    refine Json.maybe_omitted_written lineJson _ Json.uint32_written r _ f.line Json.line_not_null ?_
    simp [r, List.lookup_cons, List.lookup_append]
  have column : r.maybeOmitted "column" Json.uint32? = some f.column := by
    refine Json.maybe_omitted_written lineJson _ Json.uint32_written r _ f.column Json.line_not_null ?_
    simp [r, List.lookup_cons, List.lookup_append]
  have suggestions : r.orElse "suggestions" Json.strings? [] = some f.suggestions := by
    refine Json.or_else_written .str _ (fun _ => rfl) r _ f.suggestions ?_
    simp [r, List.lookup_cons, List.lookup_append, Json.strings]
  simp only [ofJson?, read, kind, message, line, column, suggestions, Option.bind_eq_bind, Option.bind_some]

theorem line_proper (n : UInt32) : (lineJson n).Proper := .num _

theorem failure_proper (f : Failure) : f.toJson.Proper := by
  rw [toJson, Json.list_member]
  refine .obj _ (Json.ascending_within _ ["code", "column", "line", "message", "suggestions"] (by decide) ?_) ?_
  · simp only [List.map_append]
    exact ((((List.Sublist.refl ["code"]).append (Json.member_names _ _)).append (Json.member_names _ _)).append
      (List.Sublist.refl ["message"])).append (Json.member_names _ _)
  · simp only [List.forall_mem_append, List.forall_mem_singleton]
    exact ⟨⟨⟨⟨.str _, Json.proper_option _ lineJson _ line_proper⟩, Json.proper_option _ lineJson _ line_proper⟩, .str _⟩,
      Json.proper_list _ Json.str _ .str⟩

end Failure

namespace Trace

theorem outcome_restored (outcome : Outcome) : Outcome.ofJson? (.str outcome.name) = some outcome := by
  cases outcome <;> rfl

theorem level_restored (level : Level) : Level.ofJson? (.str level.name) = some level := by
  cases level <;> rfl

theorem rule_entry_restored (e : RuleEntry) : RuleEntry.ofJson? e.toJson = some e := by
  let r : Json.Record := ⟨Json.member? "column" (e.column.map Failure.lineJson) ++
    [("line", Failure.lineJson e.line), ("name", .str e.name), ("result", .str e.result.name)], false⟩
  have read : Json.Record.ofJson? ["name", "line", "column", "result"] e.toJson false = some r := rfl
  have name : r.required "name" Json.str? = some e.name := by
    refine Json.required_written .str _ (fun _ => rfl) r _ e.name ?_
    simp [r, List.lookup_cons, List.lookup_append]
  have line : r.required "line" Json.uint32? = some e.line := by
    refine Json.required_written Failure.lineJson _ Json.uint32_written r _ e.line ?_
    simp [r, List.lookup_append]
  have column : r.maybeOmitted "column" Json.uint32? = some e.column := by
    refine Json.maybe_omitted_written Failure.lineJson _ Json.uint32_written r _ e.column Json.line_not_null ?_
    simp [r, List.lookup_cons, List.lookup_append]
  have result : r.required "result" Outcome.ofJson? = some e.result := by
    refine Json.required_written (fun outcome => .str outcome.name) _ outcome_restored r _ e.result ?_
    simp [r, List.lookup_cons, List.lookup_append]
  simp only [RuleEntry.ofJson?, read, name, line, column, result, Option.bind_eq_bind, Option.bind_some]

theorem step_restored (s : Step) : Step.ofJson? s.toJson = some s := by
  let r : Json.Record := ⟨[("fired", .bool s.fired)] ++ Json.member? "line" (s.line.map Failure.lineJson) ++
    Json.member? "parent" (s.parent.map .str) ++ [("rule", .str s.rule)], false⟩
  have read : Json.Record.ofJson? ["rule", "fired", "line", "parent"] s.toJson false = some r := rfl
  have rule : r.required "rule" Json.str? = some s.rule := by
    refine Json.required_written .str _ (fun _ => rfl) r _ s.rule ?_
    simp [r, List.lookup_cons, List.lookup_append]
  have fired : r.required "fired" Json.bool? = some s.fired :=
    Json.required_written .bool _ (fun _ => rfl) r _ s.fired rfl
  have line : r.maybeOmitted "line" Json.uint32? = some s.line := by
    refine Json.maybe_omitted_written Failure.lineJson _ Json.uint32_written r _ s.line Json.line_not_null ?_
    simp [r, List.lookup_cons, List.lookup_append]
  have parent : r.maybeOmitted "parent" Json.str? = some s.parent := by
    refine Json.maybe_omitted_written .str _ (fun _ => rfl) r _ s.parent Json.str_not_null ?_
    simp [r, List.lookup_cons, List.lookup_append]
  simp only [Step.ofJson?, read, rule, fired, line, parent, Option.bind_eq_bind, Option.bind_some]

theorem note_restored (n : Note) : Note.ofJson? n.toJson = some n := by
  let r : Json.Record := ⟨Json.member? "line" (n.line.map Failure.lineJson) ++ [("message", .str n.message)], false⟩
  have read : Json.Record.ofJson? ["message", "line"] n.toJson false = some r := rfl
  have message : r.required "message" Json.str? = some n.message := by
    refine Json.required_written .str _ (fun _ => rfl) r _ n.message ?_
    simp [r, List.lookup_append]
  have line : r.maybeOmitted "line" Json.uint32? = some n.line := by
    refine Json.maybe_omitted_written Failure.lineJson _ Json.uint32_written r _ n.line Json.line_not_null ?_
    simp [r, List.lookup_cons, List.lookup_append]
  simp only [Note.ofJson?, read, message, line, Option.bind_eq_bind, Option.bind_some]

theorem bindings_restored (d : Dict Json) : bindings? (.ofDict d) = some d :=
  congrArg some (Dict.of_list_entries d)

theorem decision_restored (r : Json.Record) (name : String) (decision : Option Bool)
    (written : r.members.lookup name = some (decisionJson decision)) : r.maybe name Json.bool? = some decision := by
  rw [Json.Record.maybe, written]
  cases decision <;> rfl

theorem trace_restored (t : Trace) : ofJson? t.toJson = some t := by
  let r : Json.Record := ⟨[("execution_path", .arr (t.path.map Step.toJson)),
    ("final_decision", decisionJson t.finalDecision), ("level", .str t.level.name)] ++
    Json.member? "notes" (if t.notes.isEmpty then none else some (.arr (t.notes.map Note.toJson))) ++
    [("rules_evaluated", .arr (t.rules.map RuleEntry.toJson)), ("size_bytes", .nat t.sizeBytes),
     ("truncated", .bool t.truncated), ("variable_bindings", .ofDict t.bindings)], false⟩
  have read : Json.Record.ofJson? fields t.toJson false = some r := by
    rw [toJson, Json.list_member]
    rfl
  have rules : r.required "rules_evaluated" (Json.list? RuleEntry.ofJson?) = some t.rules := by
    refine Json.required_written (fun rules => .arr (rules.map RuleEntry.toJson)) _
      (Json.list_written _ _ rule_entry_restored) r _ t.rules ?_
    simp [r, List.lookup_cons, List.lookup_append]
  have bindings : r.required "variable_bindings" bindings? = some t.bindings := by
    refine Json.required_written .ofDict _ bindings_restored r _ t.bindings ?_
    simp [r, List.lookup_cons, List.lookup_append]
  have decision : r.maybe "final_decision" Json.bool? = some t.finalDecision := decision_restored r _ _ rfl
  have path : r.required "execution_path" (Json.list? Step.ofJson?) = some t.path :=
    Json.required_written (fun path => .arr (path.map Step.toJson)) _ (Json.list_written _ _ step_restored) r _ t.path rfl
  have level : r.required "level" Level.ofJson? = some t.level :=
    Json.required_written (fun level => .str level.name) _ level_restored r _ t.level rfl
  have truncated : r.required "truncated" Json.bool? = some t.truncated := by
    refine Json.required_written .bool _ (fun _ => rfl) r _ t.truncated ?_
    simp [r, List.lookup_cons, List.lookup_append]
  have size : r.required "size_bytes" Json.nat? = some t.sizeBytes := by
    refine Json.required_written .nat _ Json.nat_written r _ t.sizeBytes ?_
    simp [r, List.lookup_cons, List.lookup_append]
  have notes : r.orElse "notes" (Json.list? Note.ofJson?) [] = some t.notes := by
    refine Json.or_else_written Note.toJson _ note_restored r _ t.notes ?_
    simp [r, List.lookup_cons, List.lookup_append]
  simp only [ofJson?, read, rules, bindings, decision, path, level, truncated, size, notes, Option.bind_eq_bind,
    Option.bind_some]

theorem rule_entry_proper (e : RuleEntry) : e.toJson.Proper := by
  refine .obj _ (Json.ascending_within _ ["column", "line", "name", "result"] (by decide) ?_) ?_
  · simp only [List.map_append]
    exact (Json.member_names _ _).append (List.Sublist.refl ["line", "name", "result"])
  · simp only [List.forall_mem_append, List.forall_mem_cons]
    exact ⟨Json.proper_option _ _ _ Failure.line_proper, Failure.line_proper _, .str _, .str _, nofun⟩

theorem step_proper (s : Step) : s.toJson.Proper := by
  refine .obj _ (Json.ascending_within _ ["fired", "line", "parent", "rule"] (by decide) ?_) ?_
  · simp only [List.map_append]
    exact (((List.Sublist.refl ["fired"]).append (Json.member_names _ _)).append (Json.member_names _ _)).append
      (List.Sublist.refl ["rule"])
  · simp only [List.forall_mem_append, List.forall_mem_singleton]
    exact ⟨⟨⟨.bool _, Json.proper_option _ _ _ Failure.line_proper⟩, Json.proper_option _ _ _ .str⟩, .str _⟩

theorem note_proper (n : Note) : n.toJson.Proper := by
  refine .obj _ (Json.ascending_within _ ["line", "message"] (by decide) ?_) ?_
  · simp only [List.map_append]
    exact (Json.member_names _ _).append (List.Sublist.refl ["message"])
  · simp only [List.forall_mem_append, List.forall_mem_singleton]
    exact ⟨Json.proper_option _ _ _ Failure.line_proper, .str _⟩

theorem decision_proper (decision : Option Bool) : (decisionJson decision).Proper := by
  cases decision with
  | none => exact .null
  | some allowed => exact .bool allowed

-- Nothing but the bound values decides whether the JSON of a trace is a proper one.
theorem trace_proper (t : Trace) : t.toJson.Proper ↔ ∀ binding ∈ t.bindings.entries, binding.2.Proper := by
  constructor
  · intro proper
    obtain ⟨_, each⟩ := Json.proper_members _ proper
    have bindings : (Json.ofDict t.bindings).Proper := each ("variable_bindings", .ofDict t.bindings) (by simp)
    exact (Json.proper_members _ bindings).2
  · intro bound
    rw [toJson, Json.list_member]
    refine .obj _ (Json.ascending_within _ ["execution_path", "final_decision", "level", "notes", "rules_evaluated",
      "size_bytes", "truncated", "variable_bindings"] (by decide) ?_) ?_
    · simp only [List.map_append]
      exact ((List.Sublist.refl ["execution_path", "final_decision", "level"]).append (Json.member_names _ _)).append
        (List.Sublist.refl ["rules_evaluated", "size_bytes", "truncated", "variable_bindings"])
    · simp only [List.forall_mem_append, List.forall_mem_cons]
      exact ⟨⟨⟨Json.proper_items _ _ step_proper, decision_proper _, .str _, nofun⟩,
        Json.proper_list _ _ _ note_proper⟩, Json.proper_items _ _ rule_entry_proper, .num _, .bool _,
        .obj _ t.bindings.ascending bound, nofun⟩

end Trace

structure Restored {α : Type} (encode : α → Json) (decode : Json → Option α) (a : α) : Prop where
  read : decode (encode a) = some a
  rewritten : (decode (encode a)).map encode = some (encode a)

theorem records_restored :
    (∀ t : Trace, Restored Trace.toJson Trace.ofJson? t ∧
      (t.toJson.Proper ↔ ∀ binding ∈ t.bindings.entries, binding.2.Proper)) ∧
    ∀ f : Failure, Restored Failure.toJson Failure.ofJson? f ∧ f.toJson.Proper := by
  refine ⟨fun t => ⟨⟨Trace.trace_restored t, ?_⟩, Trace.trace_proper t⟩,
    fun f => ⟨⟨Failure.failure_restored f, ?_⟩, Failure.failure_proper f⟩⟩
  · rw [Trace.trace_restored, Option.map_some]
  · rw [Failure.failure_restored, Option.map_some]

end PolicyHost
