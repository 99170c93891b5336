import PolicyHost.Proofs.Attribution
import PolicyHost.Trace.Budget

set_option autoImplicit false

namespace PolicyHost

namespace Source

theorem numbered_positive (source : String) (entry : UInt32 × List Char) (inside : entry ∈ numbered source) :
    0 < entry.1 := by
  obtain ⟨⟨line, n⟩, held, read⟩ := List.mem_filterMap.mp inside
  have positive : 1 ≤ n := List.le_snd_of_mem_zipIdx held
  by_cases small : n < UInt32.size
  · simp only [dif_pos small, Option.some.injEq] at read
    subst entry
    exact UInt32.lt_iff_toNat_lt.mpr (by simpa using Nat.succ_le_iff.mp positive)
  · simp only [dif_neg small] at read
    cases read

end Source

theorem LineMap.line_of_positive (source name : String) (line : UInt32)
    (known : (LineMap.ofSource source).lineOf? name = some line) : 0 < line := by
  obtain ⟨head, found, same⟩ := Option.map_eq_some_iff.mp known
  obtain ⟨entry, held, read⟩ := List.mem_filterMap.mp (List.mem_of_find?_eq_some found)
  obtain ⟨rule, _, whole⟩ := Option.map_eq_some_iff.mp read
  rw [← same, ← whole]
  exact Source.numbered_positive source entry held

namespace Trace

structure Paired (entry : RuleEntry) (step : Step) : Prop where
  rule : step.rule = entry.name
  line : step.line = some entry.line
  fired : step.fired = true ↔ entry.result = .holds

structure Shaped (m : LineMap) (events : List Event) (t : Trace) : Prop where
  paired : List.Forall₂ Paired t.rules t.path
  distinct : (t.rules.map fun entry => (entry.name, entry.line)).Nodup
  lines : ∀ entry ∈ t.rules, 1 ≤ entry.line
  known : ∀ name line, m.lineOf? name = some line →
    t.rules.countP (fun entry => entry.name = name) ≤ 1 ∧ ∀ entry ∈ t.rules, entry.name = name → entry.line = line
  columns : ∀ entry ∈ t.rules, ∀ column, entry.column = some column →
    0 < column ∧ ∃ e ∈ events, ∃ place, Mentions e entry.name place ∧ place.row = entry.line ∧ place.column = column
  parents : ∀ step ∈ t.path, step.parent ≠ some step.rule

theorem firsts_subset (seen : List (String × UInt32)) (met : List Sighting) : firstsFrom seen met ⊆ met := by
  induction met generalizing seen with
  | nil => exact List.Subset.refl []
  | cons s rest ih =>
      by_cases old : (s.name, s.line) ∈ seen
      · rw [firstsFrom, if_pos old]
        exact List.subset_cons_of_subset s (ih seen)
      · rw [firstsFrom, if_neg old]
        exact List.cons_subset_cons s (ih _)

theorem firsts_new (seen : List (String × UInt32)) (met : List Sighting) :
    ∀ s ∈ firstsFrom seen met, (s.name, s.line) ∉ seen := by
  induction met generalizing seen with
  | nil => simp [firstsFrom]
  | cons head rest ih =>
      by_cases old : (head.name, head.line) ∈ seen
      · rw [firstsFrom, if_pos old]
        exact ih seen
      · rw [firstsFrom, if_neg old]
        refine List.forall_mem_cons.mpr ⟨old, fun s inside known => ?_⟩
        exact ih _ s inside (List.mem_cons_of_mem _ known)

theorem firsts_distinct (seen : List (String × UInt32)) (met : List Sighting) :
    ((firstsFrom seen met).map fun s => (s.name, s.line)).Nodup := by
  induction met generalizing seen with
  | nil => exact List.nodup_nil
  | cons head rest ih =>
      by_cases old : (head.name, head.line) ∈ seen
      · simpa only [firstsFrom, if_pos old] using ih seen
      · rw [firstsFrom, if_neg old, List.map_cons, List.nodup_cons]
        refine ⟨fun again => ?_, ih _⟩
        obtain ⟨s, inside, same⟩ := List.mem_map.mp again
        exact firsts_new _ rest s inside (same ▸ List.mem_cons_self)

theorem sighting_origin (m : LineMap) (events : List Event) (s : Sighting) (met : s ∈ firsts m events) :
    ∃ e ∈ events, ∃ name place outcome, Mentions e name place ∧ s = sightingAt m name place outcome := by
  have held := firsts_subset [] _ met
  clear met
  induction events with
  | nil => cases held
  | cons e rest ih =>
      rw [sightings_cons] at held
      rcases List.mem_append.mp held with here | later
      · obtain ⟨name, place, origin⟩ := (sighting_some m e _ s).mp (Option.mem_toList.mp here)
        exact ⟨e, List.mem_cons_self, name, place, _, origin⟩
      · obtain ⟨f, inside, origin⟩ := ih later
        exact ⟨f, List.mem_cons_of_mem e inside, origin⟩

theorem entry_step_paired (met : List Sighting) :
    List.Forall₂ Paired (met.map Sighting.entry) (met.map Sighting.step) := by
  induction met with
  | nil => exact List.Forall₂.nil
  | cons s rest ih =>
      refine List.Forall₂.cons ⟨rfl, rfl, ?_⟩ ih
      simp [Sighting.step, Sighting.entry]

-- A column is that of the place itself, whose row is then the line.
theorem attribution_column (m : LineMap) (name : String) (place : Event.Location) (column : UInt32)
    (given : (attribution m name place).2 = some column) :
    0 < column ∧ place.row = (attribution m name place).1 ∧ place.column = column := by
  have either : (attribution m name place).2 = none ∨
      attribution m name place = (place.row, if 0 < place.column then some place.column else none) := by
    unfold attribution
    cases m.lineOf? name with
    | none => exact Or.inr rfl
    | some line =>
        by_cases other : line ≠ place.row
        · exact Or.inl (by simp [other])
        · exact Or.inr (by simp [other])
  rcases either with bare | here
  · rw [bare] at given
    cases given
  · rw [here] at given ⊢
    by_cases positive : 0 < place.column
    · simp only [if_pos positive, Option.some.injEq] at given
      exact ⟨given ▸ positive, rfl, given⟩
    · simp only [if_neg positive] at given
      cases given

theorem entry_origin (m : LineMap) (events : List Event) (level : Level) (result : Option Json) (entry : RuleEntry)
    (inside : entry ∈ (ofEvents events m level result).rules) :
    ∃ e ∈ events, ∃ place, Mentions e entry.name place ∧ entry.line = (m.lineOf? entry.name).getD place.row ∧
      entry.column = (attribution m entry.name place).2 ∧ (attribution m entry.name place).1 = entry.line := by
  obtain ⟨s, met, rfl⟩ := List.mem_map.mp inside
  obtain ⟨e, held, name, place, outcome, mentions, rfl⟩ := sighting_origin m events s met
  exact ⟨e, held, place, mentions, attribution_line m name place, rfl, rfl⟩

theorem step_parent (m : LineMap) (events : List Event) (level : Level) (result : Option Json) (step : Step)
    (inside : step ∈ (ofEvents events m level result).path) : step.parent ≠ some step.rule := by
  obtain ⟨s, met, rfl⟩ := List.mem_map.mp inside
  obtain ⟨e, _, name, place, outcome, _, rfl⟩ := sighting_origin m events s met
  intro own
  have other := (Option.filter_eq_some_iff.mp own).2
  simp [Sighting.step, sightingAt] at other

theorem single_of_line (rules : List RuleEntry) (name : String) (line : UInt32)
    (distinct : (rules.map fun entry => (entry.name, entry.line)).Nodup)
    (there : ∀ entry ∈ rules, entry.name = name → entry.line = line) :
    rules.countP (fun entry => entry.name = name) ≤ 1 := by
  have keys : rules.countP (fun entry => entry.name = name) =
      (rules.map fun entry => (entry.name, entry.line)).count (name, line) := by
    rw [List.count, List.countP_map]
    refine List.countP_congr fun entry inside => ?_
    simpa using there entry inside
  rw [keys]
  exact List.nodup_iff_count.mp distinct (name, line)

theorem of_events_shaped (source : String) (events : List Event) (level : Level) (result : Option Json) :
    Shaped (.ofSource source) events (ofEvents events (.ofSource source) level result) := by
  have distinct : ((ofEvents events (.ofSource source) level result).rules.map
      fun entry => (entry.name, entry.line)).Nodup := by
    rw [ofEvents, List.map_map]
    exact firsts_distinct [] _
  have origin := entry_origin (.ofSource source) events level result
  have lines (name : String) (line : UInt32) (known : (LineMap.ofSource source).lineOf? name = some line) :
      ∀ entry ∈ (ofEvents events (.ofSource source) level result).rules, entry.name = name → entry.line = line := by
    rintro entry inside rfl
    obtain ⟨_, _, _, _, counts, _⟩ := origin entry inside
    rw [counts, known, Option.getD_some]
  refine ⟨entry_step_paired _, distinct, ?_, ?_, ?_, step_parent _ events level result⟩
  · intro entry inside
    obtain ⟨_, _, place, mentions, counts, _⟩ := origin entry inside
    rw [counts]
    cases known : (LineMap.ofSource source).lineOf? entry.name with
    | none => exact mentions.row
    | some line => exact LineMap.line_of_positive source entry.name line known
  · intro name line known
    exact ⟨single_of_line _ name line distinct (lines name line known), lines name line known⟩
  · intro entry inside column given
    obtain ⟨e, held, place, mentions, _, whole, same⟩ := origin entry inside
    obtain ⟨positive, row, there⟩ := attribution_column _ entry.name place column (whole ▸ given)
    exact ⟨positive, e, held, place, mentions, row.trans same, there⟩

theorem shaped_take (m : LineMap) (events : List Event) (t u : Trace) (n : Nat) (rules : u.rules = t.rules.take n)
    (path : u.path = t.path.take n) (shaped : Shaped m events t) : Shaped m events u := by
  have entries : u.rules.Sublist t.rules := rules ▸ List.take_sublist n t.rules
  have steps : u.path.Sublist t.path := path ▸ List.take_sublist n t.path
  refine ⟨?_, (entries.map _).nodup shaped.distinct, ?_, ?_, ?_, ?_⟩
  · rw [rules, path]
    exact List.forall₂_take n shaped.paired
  · exact fun entry inside => shaped.lines entry (entries.subset inside)
  · intro name line known
    obtain ⟨once, there⟩ := shaped.known name line known
    exact ⟨Nat.le_trans (entries.countP_le) once, fun entry inside => there entry (entries.subset inside)⟩
  · exact fun entry inside => shaped.columns entry (entries.subset inside)
  · exact fun step inside => shaped.parents step (steps.subset inside)

theorem measured_lists (t : Trace) : t.measured.rules = t.rules ∧ t.measured.path = t.path :=
  ⟨settle_rules 4 t, settle_path 4 t⟩

-- Lists of the same length are halved at the same place.
theorem shrink_take (budget : Nat) (t : Trace) (even : t.rules.length = t.path.length) :
    ∃ n, (shrink budget t).rules = t.rules.take n ∧ (shrink budget t).path = t.path.take n := by
  induction t using shrink.induct budget with
  | case1 t exceeds ih =>
      obtain ⟨rules, path⟩ := measured_lists t.halved
      have halves : t.halved.rules = t.rules.take (t.rules.length / 2) ∧
          t.halved.path = t.path.take (t.rules.length / 2) := ⟨rfl, even ▸ rfl⟩
      rw [halves.1] at rules
      rw [halves.2] at path
      have lengths : t.halved.measured.rules.length = t.halved.measured.path.length := by
        rw [rules, path, List.length_take, List.length_take, even]
      obtain ⟨n, shorterRules, shorterPath⟩ := ih lengths
      rw [shrink, if_pos exceeds]
      refine ⟨min n (t.rules.length / 2), ?_, ?_⟩
      · rw [shorterRules, rules, List.take_take]
      · rw [shorterPath, path, List.take_take]
  | case2 t fits =>
      rw [shrink, if_neg fits]
      exact ⟨t.rules.length, List.take_length.symm, by rw [even, List.take_length]⟩

theorem drop_bindings_lists (budget : Nat) (t : Trace) :
    (dropBindings budget t).rules = t.rules ∧ (dropBindings budget t).path = t.path := by
  by_cases dropped : budget < t.sizeBytes ∧ ¬ t.bindings.isEmpty
  · rw [dropBindings, if_pos dropped]
    exact measured_lists _
  · rw [dropBindings, if_neg dropped]
    exact ⟨rfl, rfl⟩

theorem drop_notes_lists (budget : Nat) (t : Trace) :
    (dropNotes budget t).rules = t.rules ∧ (dropNotes budget t).path = t.path := by
  by_cases dropped : budget < t.sizeBytes ∧ ¬ t.notes.isEmpty
  · rw [dropNotes, if_pos dropped]
    exact measured_lists _
  · rw [dropNotes, if_neg dropped]
    exact ⟨rfl, rfl⟩

theorem fit_shaped (m : LineMap) (events : List Event) (budget : Nat) (t : Trace) (shaped : Shaped m events t) :
    Shaped m events (t.fit budget) := by
  obtain ⟨rules, path⟩ := measured_lists t
  obtain ⟨n, fewerRules, fewerPath⟩ := shrink_take budget t.measured (by rw [rules, path, shaped.paired.length_eq])
  obtain ⟨boundRules, boundPath⟩ := drop_bindings_lists budget (shrink budget t.measured)
  obtain ⟨notedRules, notedPath⟩ := drop_notes_lists budget (dropBindings budget (shrink budget t.measured))
  refine shaped_take m events t _ n ?_ ?_ shaped
  · rw [fit, notedRules, boundRules, fewerRules, rules]
  · rw [fit, notedPath, boundPath, fewerPath, path]

theorem fits_shaped (m : LineMap) (events : List Event) (budgets : List Nat) (t : Trace)
    (shaped : Shaped m events t) :
    Shaped m events (budgets.foldl (fun t budget => t.fit budget) t) := by
  induction budgets generalizing t with
  | nil => exact shaped
  | cons budget rest ih => exact ih (t.fit budget) (fit_shaped m events budget t shaped)

theorem trace_shaped (source : String) (events : List Event) (level : Level) (result : Option Json)
    (budgets : List Nat) :
    Shaped (.ofSource source) events
      (budgets.foldl (fun t budget => t.fit budget) (ofEvents events (.ofSource source) level result)) :=
  fits_shaped _ events budgets _ (of_events_shaped source events level result)

end Trace

end PolicyHost
