import PolicyHost.Proofs.Truncation

set_option autoImplicit false

namespace PolicyHost.Trace

def reduced? (t : Trace) : Option Trace :=
  if t.rules ≠ [] ∨ t.path ≠ [] then some t.halved.measured
  else if ¬ t.bindings.isEmpty then some { t with bindings := .empty, truncated := true }.measured
  else if ¬ t.notes.isEmpty then some { t with notes := [], truncated := true }.measured
  else none

-- The way down from a trace to the first one on it that is within the budget, or has nothing left to lose.
inductive Descends (budget : Nat) : Trace → Trace → Prop where
  | within (t : Trace) (fits : t.sizeBytes ≤ budget) : Descends budget t t
  | bare (t : Trace) (last : t.reduced? = none) : Descends budget t t
  | reduced (t u v : Trace) (exceeds : budget < t.sizeBytes) (less : t.reduced? = some u) (rest : Descends budget u v) :
      Descends budget t v

theorem shrink_descends (budget : Nat) (t v : Trace) (rest : Descends budget (shrink budget t) v) :
    Descends budget t v := by
  induction t using shrink.induct budget with
  | case1 t exceeds ih =>
      rw [shrink, if_pos exceeds] at rest
      exact .reduced t _ v exceeds.1 (if_pos exceeds.2) (ih rest)
  | case2 t fits => rwa [shrink, if_neg fits] at rest

theorem drop_bindings_descends (budget : Nat) (t v : Trace)
    (listless : budget < t.sizeBytes → t.rules = [] ∧ t.path = []) (rest : Descends budget (dropBindings budget t) v) :
    Descends budget t v := by
  by_cases dropped : budget < t.sizeBytes ∧ ¬ t.bindings.isEmpty
  · obtain ⟨rules, path⟩ := listless dropped.1
    rw [dropBindings, if_pos dropped] at rest
    refine .reduced t _ v dropped.1 ?_ rest
    rw [reduced?, if_neg (by simp [rules, path]), if_pos dropped.2]
  · rwa [dropBindings, if_neg dropped] at rest

theorem drop_notes_descends (budget : Nat) (t : Trace)
    (unbound : budget < t.sizeBytes → t.bindings = .empty ∧ t.rules = [] ∧ t.path = []) :
    Descends budget t (dropNotes budget t) := by
  rcases Nat.lt_or_ge budget t.sizeBytes with exceeds | fits
  · obtain ⟨bindings, rules, path⟩ := unbound exceeds
    have emptied : t.bindings.isEmpty = true := by rw [bindings]; rfl
    have next : t.reduced? =
        if ¬ t.notes.isEmpty then some { t with notes := [], truncated := true }.measured else none := by
      rw [reduced?, if_neg (by simp [rules, path]), if_neg (not_not.mpr emptied)]
    by_cases noted : t.notes.isEmpty = true
    · rw [if_neg (by simp [noted])] at next
      rw [dropNotes, if_neg (by simp [noted])]
      exact .bare t next
    · rw [if_pos noted] at next
      obtain ⟨size, same⟩ := measured_same { t with notes := [], truncated := true }
      rw [dropNotes, if_pos ⟨exceeds, noted⟩]
      refine .reduced t _ _ exceeds next (.bare _ ?_)
      rw [same, reduced?, if_neg (by simp [rules, path]), if_neg (not_not.mpr emptied), if_neg (by simp)]
  · rw [dropNotes, if_neg (fun dropped => Nat.not_lt.mpr fits dropped.1)]
    exact .within t fits

theorem fit_descends (budget : Nat) (t : Trace) : Descends budget t.measured (t.fit budget) := by
  have listless := shrink_listless budget t.measured
  refine shrink_descends budget _ _ (drop_bindings_descends budget _ _ listless ?_)
  exact drop_notes_descends budget _ (drop_bindings_unbound budget _ listless)

theorem descends_within (budget : Nat) (t u : Trace) (fits : t.sizeBytes ≤ budget) (down : Descends budget t u) :
    u = t := by
  cases down with
  | within _ _ => rfl
  | bare _ _ => rfl
  | reduced _ _ _ exceeds _ _ => exact absurd exceeds (Nat.not_lt.mpr fits)

theorem descends_bare (budget : Nat) (t u : Trace) (last : t.reduced? = none) (down : Descends budget t u) : u = t := by
  cases down with
  | within _ _ => rfl
  | bare _ _ => rfl
  | reduced _ next _ _ less _ =>
      rw [last] at less
      cases less

theorem descends_unique (budget : Nat) (t u v : Trace) (left : Descends budget t u) (right : Descends budget t v) :
    u = v := by
  induction left with
  | within t fits => exact (descends_within budget t v fits right).symm
  | bare t last => exact (descends_bare budget t v last right).symm
  | reduced t next u exceeds less rest ih =>
      cases right with
      | within _ fits => exact absurd exceeds (Nat.not_lt.mpr fits)
      | bare _ last =>
          rw [last] at less
          cases less
      | reduced _ other _ _ same down =>
          have alike : next = other := Option.some.inj (less.symm.trans same)
          subst alike
          exact ih down

theorem descends_resumed (first second : Nat) (t u v : Trace) (down : Descends first t u)
    (further : Descends second u v) : Descends (min first second) t v := by
  induction down with
  | within t fits =>
      rcases Nat.le_total second first with less | less
      · rwa [Nat.min_eq_right less]
      · rw [Nat.min_eq_left less, descends_within second t v (Nat.le_trans fits less) further]
        exact .within t fits
  | bare t last =>
      rw [descends_bare second t v last further]
      exact .bare t last
  | reduced t next u exceeds less rest ih =>
      exact .reduced t next v (Nat.lt_of_le_of_lt (Nat.min_le_left first second) exceeds) less (ih further)

structure Part (t u : Trace) : Prop where
  rules : u.rules <+: t.rules
  path : u.path <+: t.path
  bindings : u.bindings = t.bindings ∨ u.bindings = .empty
  notes : u.notes = t.notes ∨ u.notes = []

theorem part_refl (t : Trace) : Part t t := ⟨List.prefix_rfl, List.prefix_rfl, Or.inl rfl, Or.inl rfl⟩

theorem part_trans (t u v : Trace) (first : Part t u) (second : Part u v) : Part t v := by
  refine ⟨second.rules.trans first.rules, second.path.trans first.path, ?_, ?_⟩
  · rcases second.bindings with same | none
    · exact same ▸ first.bindings
    · exact Or.inr none
  · rcases second.notes with same | none
    · exact same ▸ first.notes
    · exact Or.inr none

theorem measured_part (t : Trace) : Part t t.measured := by
  obtain ⟨size, same⟩ := measured_same t
  rw [same]
  exact ⟨List.prefix_rfl, List.prefix_rfl, Or.inl rfl, Or.inl rfl⟩

theorem reduced_measured (t u : Trace) (less : t.reduced? = some u) :
    ∃ left : Trace, u = left.measured ∧ left.sizeBytes = t.sizeBytes ∧ left.frame ≤ t.frame ∧ Part t left := by
  unfold reduced? at less
  split at less
  · cases less
    exact ⟨t.halved, rfl, rfl, frame_halved t, List.take_prefix _ _, List.take_prefix _ _, Or.inl rfl, Or.inl rfl⟩
  · split at less
    · cases less
      exact ⟨_, rfl, rfl, frame_without_bindings t, List.prefix_rfl, List.prefix_rfl, Or.inr rfl, Or.inl rfl⟩
    · split at less
      · cases less
        exact ⟨_, rfl, rfl, frame_without_notes t, List.prefix_rfl, List.prefix_rfl, Or.inl rfl, Or.inr rfl⟩
      · cases less

theorem descends_part (budget : Nat) (t u : Trace) (down : Descends budget t u) : Part t u := by
  induction down with
  | within t _ => exact part_refl t
  | bare t _ => exact part_refl t
  | reduced t next u _ less _ ih =>
      obtain ⟨left, rfl, _, _, part⟩ := reduced_measured t next less
      exact part_trans t _ u (part_trans t left _ part (measured_part left)) ih

theorem fit_part (budget : Nat) (t : Trace) : Part t (t.fit budget) :=
  part_trans t t.measured _ (measured_part t) (descends_part budget _ _ (fit_descends budget t))

-- A trace whose measurements all have at most 20 digits, so that four of them are enough.
structure Roomy (t : Trace) : Prop where
  short : digits t.sizeBytes ≤ 20
  room : t.frame + 20 < 10 ^ 20

theorem addressable_roomy (t : Trace) (addressable : Addressable t) : Roomy t :=
  have whole := piece_whole t addressable
  ⟨whole.short, whole.room⟩

theorem roomy_measured (t : Trace) (roomy : Roomy t) : Roomy t.measured ∧ t.measured.measure = t.measured.sizeBytes := by
  have short := measured_short t roomy.short roomy.room
  have settled := measured_size t roomy.short
  obtain ⟨size, same⟩ := measured_same t
  rw [same] at short settled ⊢
  exact ⟨⟨short, roomy.room⟩, settled⟩

theorem reduced_roomy (t u : Trace) (less : t.reduced? = some u) (roomy : Roomy t) :
    Roomy u ∧ u.measure = u.sizeBytes := by
  obtain ⟨left, rfl, stated, smaller, _⟩ := reduced_measured t u less
  refine roomy_measured left ⟨?_, Nat.lt_of_le_of_lt (Nat.add_le_add_right smaller 20) roomy.room⟩
  rw [stated]
  exact roomy.short

theorem descends_settled (budget : Nat) (t u : Trace) (roomy : Roomy t) (settled : t.measure = t.sizeBytes)
    (down : Descends budget t u) : u.measure = u.sizeBytes := by
  induction down with
  | within t _ => exact settled
  | bare t _ => exact settled
  | reduced t next u _ less _ ih =>
      obtain ⟨room, size⟩ := reduced_roomy t next less roomy
      exact ih room size

theorem measured_settled (t : Trace) (settled : t.measure = t.sizeBytes) : t.measured = t := by
  rw [measured, settle]
  exact if_pos settled

theorem fit_settled (budget : Nat) (t : Trace) (addressable : Addressable t) :
    (t.fit budget).measured = t.fit budget := by
  obtain ⟨roomy, settled⟩ := roomy_measured t (addressable_roomy t addressable)
  exact measured_settled _ (descends_settled budget _ _ roomy settled (fit_descends budget t))

theorem fit_resumed (t : Trace) (addressable : Addressable t) (first second : Nat) :
    (t.fit first).fit second = t.fit (min first second) := by
  have further := fit_descends second (t.fit first)
  rw [fit_settled first t addressable] at further
  have whole := descends_resumed first second _ _ _ (fit_descends first t) further
  exact descends_unique _ _ _ _ whole (fit_descends (min first second) t)

theorem budgets_composed (t : Trace) (addressable : Addressable t) (first second : Nat) :
    (t.fit first).fit second = t.fit (min first second) ∧
      (t.fit first).fit first = t.fit first ∧
      (t.fit first).fit second = (t.fit second).fit first ∧
      (first ≤ second → Part (t.fit second) (t.fit first)) := by
  refine ⟨fit_resumed t addressable first second, ?_, ?_, ?_⟩
  · rw [fit_resumed t addressable first first, Nat.min_self]
  · rw [fit_resumed t addressable first second, fit_resumed t addressable second first, Nat.min_comm]
  · intro less
    have part := fit_part first (t.fit second)
    rwa [fit_resumed t addressable second first, Nat.min_eq_right less] at part

theorem budgets_composed_stale :
    Addressable staleTrace ∧ (staleTrace.fit 180).fit 250 = staleTrace.fit 180 ∧
      (staleTrace.fit 180).fit 180 = staleTrace.fit 180 ∧
      (staleTrace.fit 180).fit 250 = (staleTrace.fit 250).fit 180 ∧ 180 ≤ 250 ∧
      Part (staleTrace.fit 250) (staleTrace.fit 180) := by
  have addressable : Addressable staleTrace := ⟨by decide, by decide +kernel⟩
  obtain ⟨smaller, again, order, part⟩ := budgets_composed staleTrace addressable 180 250
  exact ⟨addressable, smaller, again, order, by decide, part (by decide)⟩

end PolicyHost.Trace
