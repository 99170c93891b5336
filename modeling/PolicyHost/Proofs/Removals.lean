import PolicyHost.Proofs.Budgets

/-!
Cuts that a trace could have gone without. Next to a power of ten a trace may have two true sizes, a byte and a digit
apart, and the measurements end at the one on whose side they begin. So a trace may be cut though it could state the
very size of the budget: one that was cut before always is, and a whole one if it happens to state too many digits.
-/

set_option autoImplicit false

namespace PolicyHost

namespace Json

theorem arr_take_smaller (items : List Json) (n : Nat) (fewer : n < items.length)
    (sized : ∀ item ∈ items, 0 < item.size) : (Json.arr (items.take n)).size < (Json.arr items).size := by
  have split : (items.map fun item => item.size + 1).sum =
      ((items.take n).map fun item => item.size + 1).sum + ((items.drop n).map fun item => item.size + 1).sum := by
    rw [← List.sum_append, ← List.map_append, List.take_append_drop]
  have dropped : items[n] ∈ items.drop n := List.mem_drop_iff_getElem.mpr ⟨0, by omega, rfl⟩
  have positive := sized _ (List.mem_of_mem_drop dropped)
  have lost := List.single_le_sum (fun _ _ => Nat.zero_le _) _
    (List.mem_map_of_mem (f := fun item => item.size + 1) dropped)
  rw [Json.arr_size, Json.arr_size]
  omega

theorem records_halved {α : Type} (write : α → Json) (record : ∀ x, ∃ members, write x = .obj members) (xs : List α)
    (filled : xs ≠ []) : (Json.arr ((xs.take (xs.length / 2)).map write)).size < (Json.arr (xs.map write)).size := by
  have positive := List.length_pos_iff.mpr filled
  rw [List.map_take]
  refine arr_take_smaller _ _ ?_ fun item inside => ?_
  · rw [List.length_map]
    exact Nat.div_lt_self positive (by decide)
  · obtain ⟨x, _, rfl⟩ := List.mem_map.mp inside
    obtain ⟨members, same⟩ := record x
    rw [same, obj_size]
    omega

theorem empty_dict_smaller (d : Dict Json) (filled : ¬ d.isEmpty) :
    (Json.ofDict Dict.empty).size < (Json.ofDict d).size := by
  obtain ⟨entries, ascending⟩ := d
  cases entries with
  | nil => exact absurd rfl filled
  | cons entry rest =>
      unfold ofDict
      rw [obj_size, obj_size]
      simp only [List.map_cons, List.sum_cons, memberBytes]
      change 0 - 1 + 2 < _
      omega

end Json

namespace Trace

def stating (t : Trace) (size : Nat) : Trace := { t with sizeBytes := size }

def Truthful (t : Trace) (size : Nat) : Prop := (Text.encode (t.stating size).toJson.text).length = size

theorem truthful_iff (t : Trace) (size : Nat) : Truthful t size ↔ t.frame + digits size = size := by
  rw [Truthful, text_length, measure_eq]
  rfl

-- Two true sizes are apart by the one digit that the larger has more.
theorem truthful_neighbours (t : Trace) (low high : Nat) (less : low < high) (lower : Truthful t low)
    (higher : Truthful t high) : high = low + 1 ∧ high = 10 ^ digits low := by
  rw [truthful_iff] at lower higher
  have below := lt_pow_digits low
  have least (k : Nat) (positive : 0 < k) (few : k < digits high) : 10 ^ k ≤ high :=
    Nat.le_of_not_lt fun short => Nat.not_le.mpr few ((digits_le_iff high k positive).mpr short)
  have more : digits low < digits high := by omega
  have reached := least (digits low) (digits_pos low) more
  have single : digits high = digits low + 1 := by
    by_contra several
    obtain ⟨k, count⟩ : ∃ k, digits high = digits low + k + 2 := ⟨digits high - digits low - 2, by omega⟩
    have far := least (digits low + k + 1) (by omega) (by omega)
    have long : digits low + k < 10 ^ (digits low + k) := Nat.lt_pow_self (by decide)
    have tenfold : 10 ^ (digits low + k + 1) = 10 * 10 ^ (digits low + k) := by rw [Nat.pow_succ, Nat.mul_comm]
    have within : 10 ^ digits low ≤ 10 ^ (digits low + k) := Nat.pow_le_pow_right (by decide) (Nat.le_add_right _ _)
    omega
  omega

@[simp]
theorem stating_stating (t : Trace) (first second : Nat) : (t.stating first).stating second = t.stating second := rfl

@[simp]
theorem stating_size (t : Trace) (size : Nat) : (t.stating size).sizeBytes = size := rfl

@[simp]
theorem stating_frame (t : Trace) (size : Nat) : (t.stating size).frame = t.frame := rfl

theorem measured_stating (t : Trace) : t.measured = t.stating t.measured.sizeBytes := by
  obtain ⟨size, same⟩ := measured_same t
  rw [same]
  rfl

theorem stated_rising (t : Trace) : Monotone fun size => t.frame + digits size :=
  fun _ _ less => Nat.add_le_add_left (digits_mono _ _ less) _

theorem measured_stated (t : Trace) :
    t.measured.sizeBytes = (fun size => t.frame + digits size)^[3] (t.frame + digits t.sizeBytes) := by
  rw [measured, settle_iterate]
  rfl

theorem measured_mono (t : Trace) (low high : Nat) (less : low ≤ high) :
    (t.stating low).measured.sizeBytes ≤ (t.stating high).measured.sizeBytes := by
  rw [measured_stated, measured_stated]
  exact (stated_rising t).iterate 3 (stated_rising t less)

theorem measured_at_most (t : Trace) (size : Nat) (truthful : Truthful t size)
    (few : digits t.sizeBytes ≤ digits size) : t.measured.sizeBytes ≤ size := by
  rw [truthful_iff] at truthful
  have start : t.frame + digits t.sizeBytes ≤ size := by omega
  have rest := (stated_rising t).iterate 3 start
  rwa [Function.iterate_fixed (f := fun size => t.frame + digits size) truthful, ← measured_stated] at rest

theorem measured_at_least (t : Trace) (size : Nat) (truthful : Truthful t size)
    (many : digits size ≤ digits t.sizeBytes) : size ≤ t.measured.sizeBytes := by
  rw [truthful_iff] at truthful
  have start : size ≤ t.frame + digits t.sizeBytes := by omega
  have rest := (stated_rising t).iterate 3 start
  rwa [Function.iterate_fixed (f := fun size => t.frame + digits size) truthful, ← measured_stated] at rest

-- The budget is a size that the trace can state, and so is the next number.
structure Edge (budget : Nat) (t : Trace) : Prop where
  within : Truthful t budget
  beyond : Truthful t (budget + 1)

theorem edge_power (budget : Nat) (t : Trace) (edge : Edge budget t) : budget + 1 = 10 ^ digits budget :=
  (truthful_neighbours t _ _ (Nat.lt_succ_self budget) edge.within edge.beyond).2

-- A trace that states a true size above the budget has one within it only at an edge, just above the budget.
theorem needless_iff (budget : Nat) (t : Trace) (settled : t.measure = t.sizeBytes) (exceeds : budget < t.sizeBytes) :
    (∃ size ≤ budget, Truthful t size) ↔ Edge budget t := by
  constructor
  · rintro ⟨size, fits, truthful⟩
    have stated : Truthful t t.sizeBytes := (text_length t).trans settled
    have next := (truthful_neighbours t _ _ (Nat.lt_of_le_of_lt fits exceeds) truthful stated).1
    obtain rfl : size = budget := by omega
    exact ⟨truthful, next ▸ stated⟩
  · exact fun edge => ⟨budget, Nat.le_refl budget, edge.within⟩

theorem measured_truthful (t : Trace) (roomy : Roomy t) : Truthful t t.measured.sizeBytes := by
  obtain ⟨_, settled⟩ := roomy_measured t roomy
  rw [measured_stating] at settled
  exact (text_length _).trans settled

theorem edge_measured (budget : Nat) (t : Trace) (roomy : Roomy t) (edge : Edge budget t) :
    t.measured.sizeBytes = if digits budget < digits t.sizeBytes then budget + 1 else budget := by
  have truthful := measured_truthful t roomy
  split
  · next many =>
      have longer : digits (budget + 1) ≤ digits budget + 1 := digits_add budget 1 (Or.inl (by decide))
      have least := measured_at_least t _ edge.beyond (Nat.le_trans longer many)
      exact (truthful_neighbours t budget _ least edge.within truthful).1
  · next few =>
      have most := measured_at_most t _ edge.within (Nat.le_of_not_lt few)
      refine Nat.le_antisymm most (Nat.le_of_not_lt fun less => ?_)
      have near := (truthful_neighbours t _ _ less truthful edge.within).1
      have far := (truthful_neighbours t _ _ (Nat.lt_succ_of_lt less) truthful edge.beyond).1
      omega

theorem frame_halved_less (t : Trace) (filled : t.rules ≠ [] ∨ t.path ≠ []) : t.halved.frame < t.frame := by
  have path := Json.arr_take_size (t.path.map Step.toJson) (t.path.length / 2)
  have rules := Json.arr_take_size (t.rules.map RuleEntry.toJson) (t.rules.length / 2)
  have flag := Json.true_size t.truncated
  rw [← List.map_take] at path rules
  have less := filled.imp (Json.records_halved RuleEntry.toJson (fun _ => ⟨_, rfl⟩) t.rules)
    (Json.records_halved Step.toJson (fun _ => ⟨_, rfl⟩) t.path)
  simp only [frame, otherMembers, halved, List.map_append, List.map_cons, List.map_nil, List.sum_append, List.sum_cons,
    List.sum_nil, Json.memberBytes]
  omega

theorem frame_without_bindings_less (t : Trace) (filled : ¬ t.bindings.isEmpty) :
    { t with bindings := .empty, truncated := true }.frame < t.frame := by
  have bindings := Json.empty_dict_smaller t.bindings filled
  have flag := Json.true_size t.truncated
  simp only [frame, otherMembers, List.map_append, List.map_cons, List.map_nil, List.sum_append, List.sum_cons,
    List.sum_nil, Json.memberBytes]
  omega

theorem frame_without_notes_less (t : Trace) (filled : ¬ t.notes.isEmpty) :
    { t with notes := [], truncated := true }.frame < t.frame := by
  have flag := Json.true_size t.truncated
  simp only [frame, otherMembers, List.map_append, List.map_cons, List.map_nil, List.sum_append, List.sum_cons,
    List.sum_nil, Json.memberBytes, noteMembers, if_neg filled, List.isEmpty_nil, if_true]
  omega

-- What a trace is without what it loses next, not yet measured.
def lessened? (t : Trace) : Option Trace :=
  if t.rules ≠ [] ∨ t.path ≠ [] then some t.halved
  else if ¬ t.bindings.isEmpty then some { t with bindings := .empty, truncated := true }
  else if ¬ t.notes.isEmpty then some { t with notes := [], truncated := true }
  else none

theorem reduced_lessened (t : Trace) : t.reduced? = t.lessened?.map measured := by
  unfold reduced? lessened?
  split
  · rfl
  · split
    · rfl
    · split
      · rfl
      · rfl

theorem lessened_less (t left : Trace) (less : t.lessened? = some left) :
    left.sizeBytes = t.sizeBytes ∧ left.frame < t.frame := by
  unfold lessened? at less
  split at less
  · next filled =>
      cases less
      exact ⟨rfl, frame_halved_less t filled⟩
  · split at less
    · next filled =>
        cases less
        exact ⟨rfl, frame_without_bindings_less t filled⟩
    · split at less
      · next filled =>
          cases less
          exact ⟨rfl, frame_without_notes_less t filled⟩
      · cases less

theorem lessened_stating (t : Trace) (size : Nat) :
    (t.stating size).lessened? = t.lessened?.map fun left => left.stating size := by
  unfold lessened? stating
  dsimp only
  split
  · rfl
  · split
    · rfl
    · split
      · rfl
      · rfl

structure Removal (budget : Nat) (t u : Trace) : Prop where
  exceeds : budget < t.sizeBytes
  less : t.reduced? = some u

theorem removal_lessened (budget : Nat) (t u : Trace) (removal : Removal budget t u) :
    ∃ left : Trace, u = left.measured ∧ left.sizeBytes = t.sizeBytes ∧ left.frame < t.frame := by
  have less := removal.less
  rw [reduced_lessened] at less
  obtain ⟨left, held, rfl⟩ := Option.map_eq_some_iff.mp less
  exact ⟨left, rfl, lessened_less t left held⟩

theorem truthful_stating (t : Trace) (stated size : Nat) : Truthful (t.stating stated) size ↔ Truthful t size :=
  Iff.rfl

theorem measured_frame (t : Trace) : t.measured.frame = t.frame := by
  rw [measured_stating, stating_frame]

theorem removal_frame (budget : Nat) (t u : Trace) (removal : Removal budget t u) : u.frame < t.frame := by
  obtain ⟨left, rfl, _, smaller⟩ := removal_lessened budget t u removal
  rwa [measured_frame]

theorem truthful_frame (t u : Trace) (same : t.frame = u.frame) (size : Nat) : Truthful t size ↔ Truthful u size := by
  rw [truthful_iff, truthful_iff, same]

theorem edge_frame (budget : Nat) (t u : Trace) (same : t.frame = u.frame) (edge : Edge budget t) : Edge budget u :=
  ⟨(truthful_frame t u same _).mp edge.within, (truthful_frame t u same _).mp edge.beyond⟩

theorem edge_digits (budget : Nat) (t : Trace) (edge : Edge budget t) (stated : Nat) :
    digits budget < digits stated ↔ budget < stated := by
  have power := edge_power budget t edge
  have few := digits_le_iff stated _ (digits_pos budget)
  omega

theorem removal_edge (budget : Nat) (t u : Trace) (roomy : Roomy t) (removal : Removal budget t u)
    (edge : Edge budget u) :
    u.sizeBytes = budget + 1 := by
  obtain ⟨left, rfl, stated, smaller⟩ := removal_lessened budget t u removal
  have room : Roomy left := ⟨stated ▸ roomy.short, by have := roomy.room; omega⟩
  have here := edge_frame budget _ left (measured_frame left) edge
  have many := (edge_digits budget left here t.sizeBytes).mpr removal.exceeds
  rw [edge_measured budget left room here, stated, if_pos many]

theorem descends_removals (budget : Nat) (t u : Trace) (down : Descends budget t u) :
    Relation.ReflTransGen (Removal budget) t u ∧ ∀ next, ¬ Removal budget u next := by
  induction down with
  | within t fits => exact ⟨.refl, fun next removal => Nat.not_lt.mpr fits removal.exceeds⟩
  | bare t last =>
      refine ⟨.refl, fun next removal => ?_⟩
      have less := removal.less
      rw [last] at less
      cases less
  | reduced t next u exceeds less _ ih => exact ⟨.head ⟨exceeds, less⟩ ih.1, ih.2⟩

theorem removals_roomy (budget : Nat) (t u : Trace) (roomy : Roomy t) (settled : t.measure = t.sizeBytes)
    (removals : Relation.ReflTransGen (Removal budget) t u) : Roomy u ∧ u.measure = u.sizeBytes := by
  induction removals with
  | refl => exact ⟨roomy, settled⟩
  | tail _ removal ih => exact reduced_roomy _ _ removal.less ih.1

theorem descends_after (budget : Nat) (t next u : Trace) (removal : Removal budget t next)
    (down : Descends budget t u) : Descends budget next u := by
  cases down with
  | within _ fits => exact absurd removal.exceeds (Nat.not_lt.mpr fits)
  | bare _ last =>
      have less := removal.less
      rw [last] at less
      cases less
  | reduced _ other _ _ less rest =>
      rw [removal.less, Option.some.injEq] at less
      exact less ▸ rest

theorem descends_frame (budget : Nat) (t u : Trace) (down : Descends budget t u) : u.frame ≤ t.frame := by
  induction down with
  | within t _ => exact Nat.le_refl _
  | bare t _ => exact Nat.le_refl _
  | reduced t next u exceeds less _ ih =>
      have smaller := removal_frame budget t next ⟨exceeds, less⟩
      exact Nat.le_trans ih (Nat.le_of_lt smaller)

theorem measured_alike (t left : Trace) (low high : Nat) (smaller : left.frame < t.frame) (less : low < high)
    (lower : Truthful t low) (higher : Truthful t high) (room : Roomy (left.stating low))
    (more : Roomy (left.stating high)) :
    (left.stating low).measured = (left.stating high).measured := by
  have sizes : (left.stating low).measured.sizeBytes = (left.stating high).measured.sizeBytes := by
    have first := (truthful_stating left low _).mp (measured_truthful _ room)
    have second := (truthful_stating left high _).mp (measured_truthful _ more)
    have below := measured_at_most (left.stating high) _ ((truthful_stating left high _).mpr first)
    have above := measured_at_least (left.stating low) _ ((truthful_stating left low _).mpr second)
    rw [stating_size] at below above
    obtain ⟨next, power⟩ := truthful_neighbours t low high less lower higher
    have longer : digits high ≤ digits low + 1 := next ▸ digits_add low 1 (Or.inl (by decide))
    rcases Nat.lt_or_eq_of_le (measured_mono left low high (Nat.le_of_lt less)) with apart | same
    · -- They would be told apart at the same power of ten, where the larger trace is.
      obtain ⟨near, there⟩ := truthful_neighbours left _ _ apart first second
      have count := digits_add (left.stating low).measured.sizeBytes 1 (Or.inl (by decide))
      rw [← near] at count
      have level : digits (left.stating low).measured.sizeBytes = digits low := by omega
      rw [level, ← power] at there
      rw [truthful_iff] at first lower
      omega
    · exact same
  rw [measured_stating (left.stating low), measured_stating (left.stating high), sizes, stating_stating,
    stating_stating]

structure Alike (t u : Trace) : Prop where
  rules : t.rules = u.rules
  path : t.path = u.path
  bindings : t.bindings = u.bindings
  notes : t.notes = u.notes

theorem fit_within (budget : Nat) (t : Trace) (fits : t.measured.sizeBytes ≤ budget) : t.fit budget = t.measured :=
  descends_within budget _ _ fits (fit_descends budget t)

theorem measured_reduced (t : Trace) : t.measured.reduced? = none ↔ t.lessened? = none := by
  rw [reduced_lessened, measured_stating, lessened_stating, Option.map_eq_none_iff, Option.map_eq_none_iff]

theorem fit_bare (budget : Nat) (t : Trace) (bare : t.lessened? = none) : t.fit budget = t.measured :=
  descends_bare budget _ _ ((measured_reduced t).mpr bare) (fit_descends budget t)

theorem removal_measured (budget : Nat) (t left : Trace) (exceeds : budget < t.measured.sizeBytes)
    (less : t.lessened? = some left) : Removal budget t.measured (left.stating t.measured.sizeBytes).measured := by
  refine ⟨exceeds, ?_⟩
  rw [reduced_lessened, measured_stating, lessened_stating, less]
  rfl

theorem lessened_roomy (t left : Trace) (roomy : Roomy t) (less : t.lessened? = some left) :
    Roomy (left.stating t.measured.sizeBytes) := by
  obtain ⟨_, smaller⟩ := lessened_less t left less
  have room := roomy.room
  refine ⟨(roomy_measured t roomy).1.short, ?_⟩
  rw [stating_frame]
  omega

theorem fit_exceeding (budget other : Nat) (t : Trace) (roomy : Roomy t) (more : Roomy (t.stating other))
    (exceeds : budget < t.measured.sizeBytes) (beyond : budget < (t.stating other).measured.sizeBytes) :
    Alike (t.fit budget) ((t.stating other).fit budget) := by
  cases less : t.lessened? with
  | none =>
      have still : (t.stating other).lessened? = none := by rw [lessened_stating, less]; rfl
      rw [fit_bare budget t less, fit_bare budget _ still, measured_stating t, measured_stating (t.stating other)]
      exact ⟨rfl, rfl, rfl, rfl⟩
  | some left =>
      have still : (t.stating other).lessened? = some (left.stating other) := by rw [lessened_stating, less]; rfl
      have first := removal_measured budget t left exceeds less
      have second := removal_measured budget (t.stating other) (left.stating other) beyond still
      have smaller := (lessened_less t left less).2
      have room := lessened_roomy t left roomy less
      have spare := lessened_roomy (t.stating other) (left.stating other) more still
      have truthful := (truthful_stating t other _).mp (measured_truthful _ more)
      rw [stating_stating] at second spare
      have next : (left.stating t.measured.sizeBytes).measured =
          (left.stating (t.stating other).measured.sizeBytes).measured := by
        rcases Nat.lt_trichotomy t.measured.sizeBytes (t.stating other).measured.sizeBytes with low | same | high
        · exact measured_alike t left _ _ smaller low (measured_truthful t roomy) truthful room spare
        · rw [same]
        · exact (measured_alike t left _ _ smaller high truthful (measured_truthful t roomy) spare room).symm
      have down := descends_after budget _ _ _ first (fit_descends budget t)
      have again := descends_after budget _ _ _ second (fit_descends budget (t.stating other))
      rw [← next] at again
      rw [descends_unique budget _ _ _ down again]
      exact ⟨rfl, rfl, rfl, rfl⟩

theorem fit_unlike (budget : Nat) (t left : Trace) (addressable : Addressable t)
    (exceeds : budget < t.measured.sizeBytes) (less : t.lessened? = some left) : ¬ Alike (t.fit budget) t := by
  intro alike
  have marked : { t with truncated := true }.lessened? = some left := less
  have lost := (lessened_less _ left marked).2
  have rest := descends_frame budget _ _
    (descends_after budget _ _ _ (removal_measured budget t left exceeds less) (fit_descends budget t))
  rw [measured_frame] at rest
  have fitted := fit_fitted budget t addressable
  have flag := Json.true_size (t.fit budget).truncated
  have kept : { t with truncated := true }.frame ≤ (t.fit budget).frame := by
    simp only [frame, otherMembers, alike.rules, alike.path, alike.bindings, alike.notes, fitted.decision, fitted.level,
      List.map_append, List.map_cons, List.map_nil, List.sum_append, List.sum_cons, List.sum_nil, Json.memberBytes]
    omega
  rw [stating_frame] at rest
  omega

theorem edge_between (budget : Nat) (t : Trace) (low high : Nat) (lower : Truthful t low) (higher : Truthful t high)
    (fits : low ≤ budget) (exceeds : budget < high) : Edge budget t := by
  obtain ⟨next, _⟩ := truthful_neighbours t low high (Nat.lt_of_le_of_lt fits exceeds) lower higher
  obtain rfl : low = budget := by omega
  exact ⟨lower, next ▸ higher⟩

theorem edge_stated (budget : Nat) (t : Trace) (roomy : Roomy t) (edge : Edge budget t) :
    budget < t.measured.sizeBytes ↔ budget < t.sizeBytes := by
  rw [edge_measured budget t roomy edge, ← edge_digits budget t edge t.sizeBytes]
  split
  · next many => simp [many]
  · next few => simp [few]

theorem alike_symm (t u : Trace) (alike : Alike t u) : Alike u t :=
  ⟨alike.rules.symm, alike.path.symm, alike.bindings.symm, alike.notes.symm⟩

theorem alike_trans (t u v : Trace) (first : Alike t u) (second : Alike u v) : Alike t v :=
  ⟨first.rules.trans second.rules, first.path.trans second.path, first.bindings.trans second.bindings,
    first.notes.trans second.notes⟩

theorem stating_keeps (t : Trace) (size : Nat) : Alike (t.stating size) t := ⟨rfl, rfl, rfl, rfl⟩

theorem measured_keeps (t : Trace) : Alike t.measured t := by
  rw [measured_stating]
  exact stating_keeps t _

theorem fit_parted (budget : Nat) (t u : Trace) (addressable : Addressable t) (same : u = t.stating u.sizeBytes)
    (exceeds : budget < t.measured.sizeBytes) (fits : u.measured.sizeBytes ≤ budget) :
    Alike (t.fit budget) (u.fit budget) ↔ t.lessened? = none := by
  have whole : Alike (u.fit budget) t := by
    rw [fit_within budget u fits]
    refine alike_trans _ u t (measured_keeps u) ?_
    rw [same]
    exact ⟨rfl, rfl, rfl, rfl⟩
  cases less : t.lessened? with
  | none =>
      rw [fit_bare budget t less]
      exact iff_of_true (alike_trans _ t _ (measured_keeps t) (alike_symm _ _ whole)) rfl
  | some left =>
      refine iff_of_false (fun alike => ?_) (Option.some_ne_none left)
      exact fit_unlike budget t left addressable exceeds less (alike_trans _ _ _ alike whole)

structure Trimmed (budget : Nat) (t : Trace) : Prop where
  removals : Relation.ReflTransGen (Removal budget) t.measured (t.fit budget)
  last : ∀ next, ¬ Removal budget (t.fit budget) next
  -- A trace that is cut could state a size within the budget only if that is the budget itself, with the next true too.
  needless : ∀ u next, Relation.ReflTransGen (Removal budget) t.measured u → Removal budget u next →
    ((∃ size ≤ budget, Truthful u size) ↔ Edge budget u)
  first : Edge budget t → (budget < t.measured.sizeBytes ↔ budget < t.sizeBytes)
  later : ∀ u, Relation.TransGen (Removal budget) t.measured u → Edge budget u → u.sizeBytes = budget + 1
  kept : ∀ other, Addressable (t.stating other) →
    (Alike (t.fit budget) ((t.stating other).fit budget) ↔
      ¬ (Edge budget t ∧ t.reduced? ≠ none ∧ ¬ (budget < t.sizeBytes ↔ budget < other)))

theorem kept_stating (budget : Nat) (t : Trace) (addressable : Addressable t) (other : Nat)
    (again : Addressable (t.stating other)) :
    Alike (t.fit budget) ((t.stating other).fit budget) ↔
      ¬ (Edge budget t ∧ t.reduced? ≠ none ∧ ¬ (budget < t.sizeBytes ↔ budget < other)) := by
  have roomy := addressable_roomy t addressable
  have more := addressable_roomy _ again
  have truthful := measured_truthful t roomy
  have still := measured_truthful _ more
  have bare : t.reduced? = none ↔ t.lessened? = none := by rw [reduced_lessened, Option.map_eq_none_iff]
  have stated (edge : Edge budget t) :
      (budget < t.sizeBytes ↔ budget < other) ↔
        (budget < t.measured.sizeBytes ↔ budget < (t.stating other).measured.sizeBytes) := by
    rw [edge_stated budget t roomy edge, edge_stated budget (t.stating other) more (edge_frame budget t _ rfl edge)]
    rfl
  by_cases exceeds : budget < t.measured.sizeBytes
  · by_cases beyond : budget < (t.stating other).measured.sizeBytes
    · refine iff_of_true (fit_exceeding budget other t roomy more exceeds beyond) ?_
      rintro ⟨edge, _, apart⟩
      exact apart ((stated edge).mpr (iff_of_true exceeds beyond))
    · have edge := edge_between budget t _ _ still truthful (Nat.le_of_not_lt beyond) exceeds
      have apart : ¬ (budget < t.sizeBytes ↔ budget < other) := by
        rw [stated edge]
        exact fun both => beyond (both.mp exceeds)
      rw [fit_parted budget t (t.stating other) addressable rfl exceeds (Nat.le_of_not_lt beyond), ← bare,
        and_iff_right edge, and_iff_left apart, not_ne_iff]
  · by_cases beyond : budget < (t.stating other).measured.sizeBytes
    · have edge := edge_between budget t _ _ truthful still (Nat.le_of_not_lt exceeds) beyond
      have apart : ¬ (budget < t.sizeBytes ↔ budget < other) := by
        rw [stated edge]
        exact fun both => exceeds (both.mpr beyond)
      have parted := fit_parted budget (t.stating other) t again rfl beyond (Nat.le_of_not_lt exceeds)
      rw [lessened_stating, Option.map_eq_none_iff, ← bare] at parted
      rw [and_iff_right edge, and_iff_left apart, not_ne_iff, ← parted]
      exact ⟨alike_symm _ _, alike_symm _ _⟩
    · rw [fit_within budget t (Nat.le_of_not_lt exceeds), fit_within budget _ (Nat.le_of_not_lt beyond)]
      refine iff_of_true ?_ ?_
      · have restated : Alike t (t.stating other) := ⟨rfl, rfl, rfl, rfl⟩
        have still := alike_symm _ _ (measured_keeps (t.stating other))
        exact alike_trans _ t _ (measured_keeps t) (alike_trans t _ _ restated still)
      · rintro ⟨edge, _, apart⟩
        exact apart ((stated edge).mpr (iff_of_false exceeds beyond))

theorem fit_trimmed (budget : Nat) (t : Trace) (addressable : Addressable t) : Trimmed budget t := by
  have whole := addressable_roomy t addressable
  obtain ⟨roomy, settled⟩ := roomy_measured t whole
  obtain ⟨removals, last⟩ := descends_removals budget _ _ (fit_descends budget t)
  refine ⟨removals, last, ?_, edge_stated budget t whole, ?_, kept_stating budget t addressable⟩
  · intro u next way removal
    exact needless_iff budget u (removals_roomy budget _ u roomy settled way).2 removal.exceeds
  · intro u way edge
    obtain ⟨before, way, removal⟩ := Relation.TransGen.tail'_iff.mp way
    exact removal_edge budget before u (removals_roomy budget _ before roomy settled way).1 removal edge

def noted (t : Trace) (letters : Nat) : Trace :=
  { t with notes := [⟨String.ofList (List.replicate letters 'x'), none⟩] }

theorem letters_quoted (letters : Nat) :
    Text.utf8Length (Json.quote (String.ofList (List.replicate letters 'x'))) = letters + 2 := by
  have plain : ∀ letters, (List.replicate letters 'x').flatMap Json.escape = List.replicate letters 'x' ∧
      Text.utf8Length (List.replicate letters 'x') = letters := by
    intro letters
    induction letters with
    | zero => exact ⟨rfl, rfl⟩
    | succ n ih =>
        have one : Json.escape 'x' = ['x'] ∧ Char.utf8Size 'x' = 1 := by decide
        rw [List.replicate_succ, List.flatMap_cons, ih.1, one.1, utf8_length_cons, ih.2, one.2]
        exact ⟨rfl, Nat.add_comm 1 n⟩
  have mark : Char.utf8Size '"' = 1 ∧ Text.utf8Length ['"'] = 1 := by decide
  rw [Json.quote, String.toList_ofList, (plain letters).1, List.cons_append, utf8_length_cons, utf8_length_append,
    (plain letters).2, mark.1, mark.2]
  omega

theorem note_bytes (text : String) : (Json.arr [Note.toJson ⟨text, none⟩]).size =
    Text.utf8Length (Json.quote "message") + Text.utf8Length (Json.quote text) + 5 := by
  have message : Note.toJson ⟨text, none⟩ = .obj [("message", .str text)] := rfl
  have whole : (Json.str text).size = Text.utf8Length (Json.quote text) := rfl
  rw [Json.arr_size, message]
  simp only [List.map_cons, List.map_nil, List.sum_cons, List.sum_nil, Json.obj_size, Json.memberBytes, whole]
  omega

theorem noted_frame (t : Trace) (letters : Nat) : (t.noted letters).frame = (t.noted 0).frame + letters := by
  simp only [frame, otherMembers, noteMembers, noted, List.isEmpty_cons, Bool.false_eq_true, if_false, List.map_append,
    List.map_cons, List.map_nil, List.sum_append, List.sum_cons, List.sum_nil, Json.memberBytes, note_bytes,
    letters_quoted]
  omega

-- Without its second rule and its second step this trace has 999 bytes if it says so, and 1000 if it says that.
def brimming : Trace :=
  noted { rules := [⟨"allow", 3, none, .holds⟩, ⟨"admin", 7, none, .fails⟩]
          bindings := .empty
          finalDecision := some true
          path := [⟨"allow", true, some 3, none⟩, ⟨"admin", false, some 7, none⟩]
          level := .full
          truncated := false
          sizeBytes := 0
          notes := [] } 759

theorem brimming_frame : brimming.frame = 1080 ∧ brimming.halved.frame = 996 := by
  constructor
  · refine (noted_frame _ 759).trans ?_
    decide +kernel
  · refine (noted_frame { brimming.halved with notes := [] } 759).trans ?_
    decide +kernel

theorem brimming_roomy : Addressable brimming := by
  refine ⟨by decide, ?_⟩
  rw [text_length, measure_eq, brimming_frame.1]
  decide

theorem brimming_trimmed : Addressable brimming ∧ Trimmed 999 brimming :=
  ⟨brimming_roomy, fit_trimmed 999 brimming brimming_roomy⟩

theorem edge_removed_again (budget : Nat) (t left : Trace) (addressable : Addressable t)
    (exceeds : budget < t.measured.sizeBytes) (less : t.lessened? = some left) (edge : Edge budget left)
    (more : left.lessened? ≠ none) :
    ∃ u next, Relation.ReflTransGen (Removal budget) t.measured u ∧ Removal budget u next ∧ Truthful u budget := by
  obtain ⟨roomy, _⟩ := roomy_measured t (addressable_roomy t addressable)
  have first := removal_measured budget t left exceeds less
  have frame : left.frame = (left.stating t.measured.sizeBytes).measured.frame := by rw [measured_frame, stating_frame]
  have here := edge_frame budget left _ frame edge
  have stated := removal_edge budget _ _ roomy first here
  obtain ⟨rest, lost⟩ := Option.ne_none_iff_exists'.mp more
  have again : (left.stating t.measured.sizeBytes).measured.reduced? =
      some (rest.stating (left.stating t.measured.sizeBytes).measured.sizeBytes).measured := by
    rw [reduced_lessened, measured_stating, stating_stating, lessened_stating, lost]
    rfl
  exact ⟨_, _, .single first, ⟨by omega, again⟩, here.within⟩

theorem needlessly_removed :
    ¬ ∀ (budget : Nat) (t : Trace), Addressable t → ∀ u next, Relation.ReflTransGen (Removal budget) t.measured u →
      Removal budget u next → ∀ size ≤ budget, ¬ Truthful u size := by
  intro claimed
  obtain ⟨_, settled⟩ := roomy_measured brimming (addressable_roomy brimming brimming_roomy)
  rw [measure_eq, measured_frame, brimming_frame.1] at settled
  have edge : Edge 999 brimming.halved := by
    constructor
    · rw [truthful_iff, brimming_frame.2]
      decide
    · rw [truthful_iff, brimming_frame.2]
      decide
  obtain ⟨u, next, way, removal, truthful⟩ :=
    edge_removed_again 999 brimming brimming.halved brimming_roomy (by omega) rfl edge (Option.some_ne_none _)
  exact claimed 999 brimming brimming_roomy u next way removal 999 (Nat.le_refl _) truthful

end Trace

end PolicyHost
