import PolicyHost.Proofs.Naming
import PolicyHost.Trace.Assembly

set_option autoImplicit false

namespace PolicyHost.Trace

structure Mentions (e : Event) (name : String) (place : Event.Location) : Prop where
  op : e.op = .enter ∨ e.op = .eval
  located : e.location = some place
  row : 0 < place.row
  node : ∃ node, e.node = some node ∧ Term.NamesRule node name

-- A mention counts for the line of the first head of the rule, where that is known, and else for its own row.
def MentionsAt (m : LineMap) (e : Event) (name : String) (line : UInt32) : Prop :=
  ∃ place, Mentions e name place ∧ line = (m.lineOf? name).getD place.row

def concludes (query : Nat) (e : Event) : Bool := e.query = query ∧ (e.op = .exit ∨ e.op = .fail)

structure Outcome.ToldBy (outcome : Outcome) (next : Option Event) : Prop where
  holds : outcome = .holds ↔ ∃ e, next = some e ∧ e.op = .exit
  fails : outcome = .fails ↔ ∃ e, next = some e ∧ e.op = .fail
  undefined : outcome = .undefined ↔ next = none

-- The event at `i` is the first to mention the rule of the entry at its line, and those after it tell the result.
structure Attributed (m : LineMap) (events : List Event) (i : Nat) (entry : RuleEntry) : Prop where
  first : ∀ e ∈ events.take i, ¬ MentionsAt m e entry.name entry.line
  here : ∃ e, events[i]? = some e ∧ MentionsAt m e entry.name entry.line ∧
    entry.result.ToldBy ((events.drop (i + 1)).find? (concludes e.query))

theorem verdict_none (e : Event) : e.verdict? = none ↔ ¬ (e.op = .exit ∨ e.op = .fail) := by
  unfold Event.verdict?
  cases e.op <;> simp

-- The pass from the end of the stream knows of each query what a reading from the front would meet first.
theorem verdicts_lookup (events : List Event) (query : Nat) :
    (withVerdicts events).2.lookup query = (events.find? (concludes query)).bind Event.verdict? := by
  induction events with
  | nil => rfl
  | cons e rest ih =>
      have step : (withVerdicts (e :: rest)).2 = (withVerdicts rest).2.add e := rfl
      rw [step, Verdicts.add, List.find?_cons]
      cases verdict : e.verdict? with
      | none =>
          have passed : concludes query e = false := by
            have silent := (verdict_none e).mp verdict
            simp [concludes, silent]
          simpa only [passed] using ih
      | some outcome =>
          have speaks : e.op = .exit ∨ e.op = .fail := by
            by_contra silent
            rw [(verdict_none e).mpr silent] at verdict
            cases verdict
          by_cases same : query = e.query
          · subst query
            have met : concludes e.query e = true := by simp [concludes, speaks]
            simp [met, verdict]
          · have passed : concludes query e = false := by simp [concludes, Ne.symm same]
            have missed : (query == e.query) = false := beq_eq_false_iff_ne.mpr same
            simp only [List.lookup_cons, missed, passed]
            rw [lookup_filter _ _ _ same, ih]

theorem told_by_next (query : Nat) (later : List Event) :
    Outcome.ToldBy (((later.find? (concludes query)).bind Event.verdict?).getD .undefined)
      (later.find? (concludes query)) := by
  cases found : later.find? (concludes query) with
  | none => constructor <;> simp
  | some e =>
      have speaks : e.op = .exit ∨ e.op = .fail := by
        have held := List.find?_some found
        simp only [concludes, Bool.decide_and, Bool.and_eq_true, decide_eq_true_eq] at held
        exact held.2
      rcases speaks with exits | fails
      · constructor <;> simp [Event.verdict?, exits]
      · constructor <;> simp [Event.verdict?, fails]

def sightingAt (m : LineMap) (name : String) (place : Event.Location) (outcome : Option Outcome) : Sighting :=
  { name
    line := (attribution m name place).1
    column := (attribution m name place).2
    result := outcome.getD .undefined
    parent := (m.enclosing? place.row).filter fun rule => rule ≠ name }

theorem attribution_line (m : LineMap) (name : String) (place : Event.Location) :
    (attribution m name place).1 = (m.lineOf? name).getD place.row := by
  unfold attribution
  cases m.lineOf? name with
  | none => rfl
  | some line =>
      by_cases same : line = place.row
      · simp [same]
      · simp [same]

theorem sighting_some (m : LineMap) (e : Event) (outcome : Option Outcome) (s : Sighting) :
    e.sighting? m outcome = some s ↔ ∃ name place, Mentions e name place ∧ s = sightingAt m name place outcome := by
  unfold Event.sighting?
  constructor
  · intro met
    by_cases op : e.op = .enter ∨ e.op = .eval
    · rw [if_pos op] at met
      obtain ⟨place, there, met⟩ := Option.bind_eq_some_iff.mp met
      obtain ⟨name, named, met⟩ := Option.bind_eq_some_iff.mp met
      obtain ⟨located, row⟩ := Option.filter_eq_some_iff.mp there
      obtain ⟨node, held, read⟩ := Option.bind_eq_some_iff.mp named
      have names : Term.NamesRule node name := (Term.names_rule_iff node name).mpr read
      exact ⟨name, place, ⟨op, located, of_decide_eq_true row, node, held, names⟩, (Option.some.inj met).symm⟩
    · rw [if_neg op] at met
      cases met
  · rintro ⟨name, place, mentions, rfl⟩
    obtain ⟨node, held, names⟩ := mentions.node
    have read : Term.ruleName? node = some name := (Term.names_rule_iff node name).mp names
    have there : e.place? = some place :=
      Option.filter_eq_some_iff.mpr ⟨mentions.located, decide_eq_true mentions.row⟩
    have named : e.node.bind Term.ruleName? = some name := Option.bind_eq_some_iff.mpr ⟨node, held, read⟩
    simp only [if_pos mentions.op, there, named]
    rfl

theorem sighted (m : LineMap) (e : Event) (outcome : Option Outcome) (name : String) (line : UInt32) :
    MentionsAt m e name line ↔ ∃ s, e.sighting? m outcome = some s ∧ (s.name, s.line) = (name, line) := by
  constructor
  · rintro ⟨place, mentions, rfl⟩
    refine ⟨sightingAt m name place outcome, (sighting_some m e outcome _).mpr ⟨name, place, mentions, rfl⟩, ?_⟩
    rw [← attribution_line m name place]
    rfl
  · rintro ⟨s, met, same⟩
    obtain ⟨rule, place, mentions, rfl⟩ := (sighting_some m e outcome s).mp met
    cases same
    exact ⟨place, mentions, attribution_line m rule place⟩

theorem sightings_cons (m : LineMap) (e : Event) (rest : List Event) :
    sightings m (e :: rest) =
      (e.sighting? m ((rest.find? (concludes e.query)).bind Event.verdict?)).toList ++ sightings m rest := by
  have front : (withVerdicts (e :: rest)).1 =
      (e, (withVerdicts rest).2.lookup e.query) :: (withVerdicts rest).1 := rfl
  rw [sightings, front, List.filterMap_cons, verdicts_lookup]
  cases sees : e.sighting? m ((rest.find? (concludes e.query)).bind Event.verdict?) with
  | none => simp only [sees, Option.toList_none, List.nil_append, sightings]
  | some s => simp only [sees, Option.toList_some, List.singleton_append, sightings]

structure Reading (m : LineMap) (before rest : List Event) (met : List Sighting) (places : List Nat) : Prop where
  ascending : places.Pairwise (· < ·)
  later : ∀ i ∈ places, before.length ≤ i
  attributed : List.Forall₂ (Attributed m (before ++ rest)) places (met.map Sighting.entry)

theorem reading_skip (m : LineMap) (before rest : List Event) (e : Event) (met : List Sighting) (places : List Nat)
    (reading : Reading m (before ++ [e]) rest met places) : Reading m before (e :: rest) met places := by
  have same : before ++ [e] ++ rest = before ++ e :: rest := by simp
  refine ⟨reading.ascending, ?_, same ▸ reading.attributed⟩
  intro i inside
  have bound := reading.later i inside
  rw [List.length_append] at bound
  omega

theorem reading_cons (m : LineMap) (before rest : List Event) (e : Event) (s : Sighting) (met : List Sighting)
    (places : List Nat) (sees : e.sighting? m ((rest.find? (concludes e.query)).bind Event.verdict?) = some s)
    (new : ∀ f ∈ before, ¬ MentionsAt m f s.name s.line) (reading : Reading m (before ++ [e]) rest met places) :
    Reading m before (e :: rest) (s :: met) (before.length :: places) := by
  have later := reading.later
  have skipped := reading_skip m before rest e met places reading
  simp only [List.length_append, List.length_singleton] at later
  refine ⟨List.pairwise_cons.mpr ⟨later, reading.ascending⟩, ?_, List.Forall₂.cons ⟨?_, ?_⟩ skipped.attributed⟩
  · exact List.forall_mem_cons.mpr ⟨Nat.le_refl _, skipped.later⟩
  · rw [List.take_left]
    exact new
  · have next : (before ++ e :: rest).drop (before.length + 1) = rest := by simp
    refine ⟨e, by simp, (sighted m e _ _ _).mpr ⟨s, sees, rfl⟩, ?_⟩
    obtain ⟨name, place, _, rfl⟩ := (sighting_some m e _ s).mp sees
    rw [next]
    exact told_by_next e.query rest

theorem firsts_reading (m : LineMap) (before rest : List Event) (seen : List (String × UInt32))
    (known : ∀ name line, (name, line) ∈ seen ↔ ∃ f ∈ before, MentionsAt m f name line) :
    ∃ places, Reading m before rest (firstsFrom seen (sightings m rest)) places := by
  induction rest generalizing before seen with
  | nil => exact ⟨[], List.Pairwise.nil, by simp, List.Forall₂.nil⟩
  | cons e rest ih =>
      have grown (name : String) (line : UInt32) : (∃ f ∈ before ++ [e], MentionsAt m f name line) ↔
          (∃ f ∈ before, MentionsAt m f name line) ∨ MentionsAt m e name line := by simp [or_and_right, exists_or]
      rw [sightings_cons]
      cases sees : e.sighting? m ((rest.find? (concludes e.query)).bind Event.verdict?) with
      | none =>
          have silent (name : String) (line : UInt32) : ¬ MentionsAt m e name line := by
            rw [sighted m e _ name line, sees]
            simp
          obtain ⟨places, reading⟩ := ih (before ++ [e]) seen fun name line => by
            rw [known, grown, or_iff_left (silent name line)]
          exact ⟨places, reading_skip m before rest e _ places reading⟩
      | some s =>
          have names (name : String) (line : UInt32) :
              MentionsAt m e name line ↔ (name, line) = (s.name, s.line) := by
            rw [sighted m e _ name line, sees]
            simp [eq_comm]
          by_cases old : (s.name, s.line) ∈ seen
          · obtain ⟨places, reading⟩ := ih (before ++ [e]) seen fun name line => by
              rw [grown, ← known, names]
              exact ⟨Or.inl, Or.rec id fun same => same ▸ old⟩
            refine ⟨places, ?_⟩
            simp only [Option.toList_some, List.singleton_append, firstsFrom, if_pos old]
            exact reading_skip m before rest e _ places reading
          · have new : ∀ f ∈ before, ¬ MentionsAt m f s.name s.line := fun f inside mentions =>
              old ((known s.name s.line).mpr ⟨f, inside, mentions⟩)
            obtain ⟨places, reading⟩ := ih (before ++ [e]) ((s.name, s.line) :: seen) fun name line => by
              rw [grown, List.mem_cons, known, names, or_comm]
            refine ⟨before.length :: places, ?_⟩
            simp only [Option.toList_some, List.singleton_append, firstsFrom, if_neg old]
            exact reading_cons m before rest e s _ places sees new reading

theorem firsts_complete (seen : List (String × UInt32)) (met : List Sighting) (s : Sighting) (inside : s ∈ met) :
    (s.name, s.line) ∈ seen ∨ ∃ first ∈ firstsFrom seen met, (first.name, first.line) = (s.name, s.line) := by
  induction met generalizing seen with
  | nil => cases inside
  | cons head rest ih =>
      by_cases old : (head.name, head.line) ∈ seen
      · rw [firstsFrom, if_pos old]
        rcases List.mem_cons.mp inside with rfl | later
        · exact Or.inl old
        · exact ih seen later
      · rw [firstsFrom, if_neg old]
        rcases List.mem_cons.mp inside with rfl | later
        · exact Or.inr ⟨s, List.mem_cons_self, rfl⟩
        · rcases ih _ later with known | ⟨first, kept, same⟩
          · rcases List.mem_cons.mp known with same | known
            · exact Or.inr ⟨head, List.mem_cons_self, same.symm⟩
            · exact Or.inl known
          · exact Or.inr ⟨first, List.mem_cons_of_mem _ kept, same⟩

theorem mentioned_sighting (m : LineMap) (events : List Event) (e : Event) (name : String) (line : UInt32)
    (inside : e ∈ events) (mentions : MentionsAt m e name line) :
    ∃ s ∈ sightings m events, (s.name, s.line) = (name, line) := by
  induction events with
  | nil => cases inside
  | cons head rest ih =>
      rw [sightings_cons]
      rcases List.mem_cons.mp inside with rfl | later
      · obtain ⟨s, sees, same⟩ := (sighted m e _ name line).mp mentions
        exact ⟨s, List.mem_append_left _ (Option.mem_toList.mpr sees), same⟩
      · obtain ⟨s, kept, same⟩ := ih later
        exact ⟨s, List.mem_append_right _ kept, same⟩

theorem rules_attributed (events : List Event) (m : LineMap) (level : Level) (result : Option Json) :
    (∃ places : List Nat, places.Pairwise (· < ·) ∧
      List.Forall₂ (Attributed m events) places (ofEvents events m level result).rules) ∧
    ∀ e ∈ events, ∀ name line, MentionsAt m e name line →
      ∃ entry ∈ (ofEvents events m level result).rules, entry.name = name ∧ entry.line = line := by
  constructor
  · obtain ⟨places, reading⟩ := firsts_reading m [] events [] (by simp)
    exact ⟨places, reading.ascending, reading.attributed⟩
  · intro e inside name line mentions
    obtain ⟨s, kept, same⟩ := mentioned_sighting m events e name line inside mentions
    rcases firsts_complete [] _ s kept with none | ⟨first, met, alike⟩
    · cases none
    · have whole := Prod.mk.inj (alike.trans same)
      exact ⟨first.entry, List.mem_map_of_mem met, whole⟩

end PolicyHost.Trace
