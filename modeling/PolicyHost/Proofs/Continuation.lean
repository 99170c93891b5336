import PolicyHost.Proofs.Attribution

set_option autoImplicit false

namespace PolicyHost.Trace

structure Sighting.Settles (s t : Sighting) : Prop where
  name : t.name = s.name
  line : t.line = s.line
  column : t.column = s.column
  parent : t.parent = s.parent
  result : t.result = s.result ∨ s.result = .undefined

structure RuleEntry.Settles (e f : RuleEntry) : Prop where
  name : f.name = e.name
  line : f.line = e.line
  column : f.column = e.column
  result : f.result = e.result ∨ e.result = .undefined

structure Step.Settles (s t : Step) : Prop where
  rule : t.rule = s.rule
  line : t.line = s.line
  parent : t.parent = s.parent
  fired : s.fired = true → t.fired = true

structure Refines (t u : Trace) : Prop where
  rules : ∃ front, front <+: u.rules ∧ List.Forall₂ RuleEntry.Settles t.rules front
  path : ∃ front, front <+: u.path ∧ List.Forall₂ Step.Settles t.path front
  notes : t.notes <+: u.notes

theorem verdict_settles (query : Nat) (rest later : List Event) :
    (((rest ++ later).find? (concludes query)).bind Event.verdict?).getD .undefined =
        ((rest.find? (concludes query)).bind Event.verdict?).getD .undefined ∨
      ((rest.find? (concludes query)).bind Event.verdict?).getD .undefined = .undefined := by
  cases found : rest.find? (concludes query) with
  | none => exact Or.inr rfl
  | some e => exact Or.inl (by rw [List.find?_append, found, Option.some_or])

theorem sighting_settles (m : LineMap) (e : Event) (outcome after : Option Outcome)
    (settles : after.getD .undefined = outcome.getD .undefined ∨ outcome.getD .undefined = .undefined) :
    List.Forall₂ Sighting.Settles (e.sighting? m outcome).toList (e.sighting? m after).toList := by
  cases met : e.sighting? m outcome with
  | none =>
      have unmet : e.sighting? m after = none := by
        refine Option.eq_none_iff_forall_not_mem.mpr fun s sees => ?_
        obtain ⟨name, place, mentions, _⟩ := (sighting_some m e after s).mp sees
        rw [(sighting_some m e outcome _).mpr ⟨name, place, mentions, rfl⟩] at met
        cases met
      rw [unmet]
      exact .nil
  | some s =>
      obtain ⟨name, place, mentions, rfl⟩ := (sighting_some m e outcome s).mp met
      rw [(sighting_some m e after _).mpr ⟨name, place, mentions, rfl⟩]
      exact .cons ⟨rfl, rfl, rfl, rfl, settles⟩ .nil

theorem sightings_settle (m : LineMap) (events later : List Event) :
    ∃ front, sightings m (events ++ later) = front ++ sightings m later ∧
      List.Forall₂ Sighting.Settles (sightings m events) front := by
  induction events with
  | nil => exact ⟨[], rfl, .nil⟩
  | cons e rest ih =>
      obtain ⟨front, split, settled⟩ := ih
      have first := sighting_settles m e _ _ (verdict_settles e.query rest later)
      rw [List.cons_append, sightings_cons, sightings_cons, split, ← List.append_assoc]
      exact ⟨_, rfl, List.rel_append first settled⟩

theorem firsts_settle (seen : List (String × UInt32)) (met front : List Sighting)
    (settled : List.Forall₂ Sighting.Settles met front) :
    List.Forall₂ Sighting.Settles (firstsFrom seen met) (firstsFrom seen front) := by
  induction settled generalizing seen with
  | nil => exact .nil
  | @cons s t met front same _ ih =>
      have key : (t.name, t.line) = (s.name, s.line) := by rw [same.name, same.line]
      by_cases old : (s.name, s.line) ∈ seen
      · rw [firstsFrom, firstsFrom, key, if_pos old, if_pos old]
        exact ih seen
      · rw [firstsFrom, firstsFrom, key, if_neg old, if_neg old]
        exact .cons same (ih _)

theorem firsts_append (seen : List (String × UInt32)) (front later : List Sighting) :
    firstsFrom seen front <+: firstsFrom seen (front ++ later) := by
  induction front generalizing seen with
  | nil => exact List.nil_prefix
  | cons s rest ih =>
      by_cases old : (s.name, s.line) ∈ seen
      · rw [List.cons_append, firstsFrom, firstsFrom, if_pos old, if_pos old]
        exact ih seen
      · rw [List.cons_append, firstsFrom, firstsFrom, if_neg old, if_neg old]
        exact (List.prefix_cons_inj s).mpr (ih _)

theorem entry_settles (s t : Sighting) (settles : s.Settles t) : s.entry.Settles t.entry :=
  ⟨settles.name, settles.line, settles.column, settles.result⟩

theorem step_settles (s t : Sighting) (settles : s.Settles t) : s.step.Settles t.step := by
  refine ⟨settles.name, congrArg some settles.line, settles.parent, fun fired => ?_⟩
  have held : s.result = .holds := of_decide_eq_true fired
  rcases settles.result with same | undefined
  · exact decide_eq_true (same.trans held)
  · rw [undefined] at held
    cases held

theorem trace_refined (events later : List Event) (m : LineMap) (level : Level) (result after : Option Json) :
    Refines (ofEvents events m level result) (ofEvents (events ++ later) m level after) := by
  obtain ⟨front, split, settled⟩ := sightings_settle m events later
  have kept : firstsFrom [] front <+: firsts m (events ++ later) := by
    rw [firsts, split]
    exact firsts_append [] front _
  have same := firsts_settle [] _ _ settled
  refine ⟨⟨_, kept.map Sighting.entry, ?_⟩, ⟨_, kept.map Sighting.step, ?_⟩, ?_⟩
  · exact List.rel_map entry_settles same
  · exact List.rel_map step_settles same
  · exact (List.prefix_append events later).filterMap Event.note?

end PolicyHost.Trace
