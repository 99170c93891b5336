import PolicyHost.Proofs.RoundTrips

set_option autoImplicit false

namespace PolicyHost

def Verdict.readable (result : Option Json) : Option Json := result.filter fun j => !j.isNull

def Decision.readable (d : Decision) : Decision := { d with result := Verdict.readable d.result }

def TracedDecision.readable (d : TracedDecision) : TracedDecision := { d with decision := d.decision.readable }

-- What is written of a record is read as its readable part, and tells it from the records with another one.
structure Retold {α : Type} (encode : α → Json) (decode : Json → Option α) (readable : α → α) (a : α) : Prop where
  read : decode (encode a) = some (readable a)
  rewritten : encode (readable a) = encode a
  alike : ∀ b, encode b = encode a ↔ readable b = readable a

theorem retold_of_read {α : Type} (encode : α → Json) (decode : Json → Option α) (readable : α → α)
    (read : ∀ a, decode (encode a) = some (readable a)) (rewritten : ∀ a, encode (readable a) = encode a) (a : α) :
    Retold encode decode readable a := by
  refine ⟨read a, rewritten a, fun b => ⟨fun same => ?_, fun same => ?_⟩⟩
  · have both := read b
    rw [same, read a] at both
    exact (Option.some.inj both).symm
  · rw [← rewritten b, same, rewritten a]

namespace Verdict

theorem readable_same (result : Option Json) : readable result = result ↔ result ≠ some .null := by
  cases result with
  | none => simp [readable]
  | some j => cases j <;> simp [readable, Json.isNull]

theorem result_rewritten (result : Option Json) : resultJson (readable result) = resultJson result := by
  cases result with
  | none => rfl
  | some j => cases j <;> rfl

theorem result_read (r : Json.Record) (name : String) (result : Option Json)
    (written : r.members.lookup name = some (resultJson result)) : r.maybe name some = some (readable result) := by
  rw [Json.Record.maybe, written]
  cases result with
  | none => rfl
  | some j => cases j <;> rfl

theorem result_proper (result : Option Json) : (resultJson result).Proper ↔ ∀ j ∈ result, j.Proper := by
  cases result with
  | none => exact ⟨nofun, fun _ => .null⟩
  | some j => simp [resultJson]

end Verdict

namespace Decision

theorem of_record_written (d : Decision) (others : List (String × Json)) :
    ofRecord? ⟨d.members ++ others, false⟩ = some d.readable := by
  let r : Json.Record := ⟨d.members ++ others, false⟩
  have allowed : r.required "allowed" Json.bool? = some d.allowed :=
    Json.required_written .bool _ (fun _ => rfl) r _ d.allowed rfl
  have result : r.maybe "result" some = some (Verdict.readable d.result) := Verdict.result_read r _ d.result rfl
  have package : r.required "namespace" Json.str? = some d.package :=
    Json.required_written .str _ (fun _ => rfl) r _ d.package rfl
  have rule : r.required "rule" Json.str? = some d.rule :=
    Json.required_written .str _ (fun _ => rfl) r _ d.rule rfl
  have micros : r.required "duration_us" Json.nat? = some d.micros :=
    Json.required_written .nat _ Json.nat_written r _ d.micros rfl
  simp only [ofRecord?, r, allowed, result, package, rule, micros, Option.bind_eq_bind, Option.bind_some]
  rfl

theorem decision_read (d : Decision) : ofJson? d.toJson = some d.readable := by
  have whole := of_record_written d []
  rw [List.append_nil] at whole
  exact whole

theorem decision_rewritten (d : Decision) : d.readable.toJson = d.toJson := by
  simp only [toJson, members, readable, Verdict.result_rewritten]

theorem readable_same (d : Decision) : d.readable = d ↔ d.result ≠ some .null := by
  rw [← Verdict.readable_same]
  exact ⟨fun same => congrArg (fun e => e.result) same, fun same => by rw [readable, same]⟩

theorem members_proper (d : Decision) (trace : Option Json) :
    (Json.obj (d.members ++ Json.member? "trace" trace)).Proper ↔
      (∀ j ∈ d.result, j.Proper) ∧ ∀ j ∈ trace, j.Proper := by
  have value : (Verdict.resultJson d.result).Proper ↔ ∀ j ∈ d.result, j.Proper := Verdict.result_proper d.result
  constructor
  · intro proper
    obtain ⟨own, others⟩ := List.forall_mem_append.mp (Json.proper_members _ proper).2
    refine ⟨value.mp (own ("result", Verdict.resultJson d.result) (by simp [members])), fun j held => ?_⟩
    exact others ("trace", j) (by simp [Option.mem_def.mp held, Json.member?])
  · rintro ⟨result, rest⟩
    refine .obj _ (Json.ascending_within _ ["allowed", "duration_us", "namespace", "result", "rule", "trace"] (by decide) ?_) ?_
    · rw [List.map_append]
      exact (List.Sublist.refl ["allowed", "duration_us", "namespace", "result", "rule"]).append (Json.member_names _ _)
    · simp only [members, List.forall_mem_append, List.forall_mem_cons]
      exact ⟨⟨.bool _, .num _, .str _, value.mpr result, .str _, List.forall_mem_nil _⟩, Json.proper_member "trace" trace rest⟩

theorem decision_written_proper (d : Decision) : d.toJson.Proper ↔ ∀ j ∈ d.result, j.Proper := by
  have alone := members_proper d none
  rw [Json.member?, List.append_nil] at alone
  exact alone.trans (and_iff_left (by simp))

end Decision

namespace TracedDecision

theorem traced_read (d : TracedDecision) : ofJson? d.toJson = some d.readable := by
  let r : Json.Record := ⟨d.decision.members ++ [("trace", d.trace.toJson)], false⟩
  have decision : Decision.ofRecord? r = some d.decision.readable := Decision.of_record_written d.decision _
  have trace : r.required "trace" Trace.ofJson? = some d.trace :=
    Json.required_written Trace.toJson _ Trace.trace_restored r _ d.trace rfl
  simp only [ofJson?, toJson, r, decision, trace, Option.bind_eq_bind, Option.bind_some]
  rfl

theorem traced_rewritten (d : TracedDecision) : d.readable.toJson = d.toJson := by
  have same : d.decision.readable.members = d.decision.members := by
    simp only [Decision.members, Decision.readable, Verdict.result_rewritten]
  rw [toJson, toJson, readable, same]

theorem readable_same (d : TracedDecision) : d.readable = d ↔ d.decision.result ≠ some .null := by
  rw [← Decision.readable_same]
  exact ⟨fun same => congrArg decision same, fun same => by rw [readable, same]⟩

theorem traced_written_proper (d : TracedDecision) : d.toJson.Proper ↔
    (∀ j ∈ d.decision.result, j.Proper) ∧ ∀ binding ∈ d.trace.bindings.entries, binding.2.Proper := by
  rw [← Trace.trace_proper]
  exact (Decision.members_proper d.decision (some d.trace.toJson)).trans
    (and_congr_right fun _ => by simp [Option.mem_def])

end TracedDecision

theorem decisions_retold (d : Decision) (t : TracedDecision) :
    (Retold Decision.toJson Decision.ofJson? Decision.readable d ∧
      (Decision.ofJson? d.toJson = some d ↔ d.result ≠ some .null) ∧
      (d.toJson.Proper ↔ ∀ j ∈ d.result, j.Proper)) ∧
    Retold TracedDecision.toJson TracedDecision.ofJson? TracedDecision.readable t ∧
      (TracedDecision.ofJson? t.toJson = some t ↔ t.decision.result ≠ some .null) ∧
      (t.toJson.Proper ↔
        (∀ j ∈ t.decision.result, j.Proper) ∧ ∀ binding ∈ t.trace.bindings.entries, binding.2.Proper) := by
  refine ⟨⟨?_, ?_, Decision.decision_written_proper d⟩, ?_, ?_, TracedDecision.traced_written_proper t⟩
  · exact retold_of_read _ _ _ Decision.decision_read Decision.decision_rewritten d
  · rw [Decision.decision_read, Option.some.injEq, Decision.readable_same]
  · exact retold_of_read _ _ _ TracedDecision.traced_read TracedDecision.traced_rewritten t
  · rw [TracedDecision.traced_read, Option.some.injEq, TracedDecision.readable_same]

def answering (result : Option Json) : Decision := { Verdict.ofResult "authz" "level" result with micros := 0 }

def explaining (result : Option Json) (final : Option Bool) : TracedDecision :=
  { decision := answering result
    trace :=
      { rules := [], bindings := Dict.empty, finalDecision := final, path := [], level := .full, truncated := false
        sizeBytes := 0, notes := [] } }

theorem null_read_undefined :
    answering (some .null) ≠ answering none ∧
    (answering (some .null)).toJson = (answering none).toJson ∧
    Decision.ofJson? (answering (some .null)).toJson = some (answering none) ∧
    TracedDecision.ofJson? (explaining (some .null) (some false)).toJson = some (explaining none (some false)) ∧
    explaining (some .null) (some false) ≠ explaining none (some false) := by
  refine ⟨fun same => ?_, rfl, rfl, rfl, fun same => ?_⟩
  · cases congrArg (fun d => d.result) same
  · cases congrArg (fun d => d.decision.result) same

end PolicyHost
