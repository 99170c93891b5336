import Mathlib.Data.List.Nodup
import PolicyHost.Proofs.Names
import PolicyHost.Proofs.Tables
import PolicyHost.Store

set_option autoImplicit false

namespace PolicyHost.Store

variable (s : Store)

theorem put_policy_found (policy : Policy) : (s.putPolicy policy).find? policy.path = some policy := by
  have absent : (s.policies.filter fun p => p.path ≠ policy.path).find? (fun p => p.path = policy.path) = none := by
    simp [List.find?_eq_none]
  simp only [putPolicy, find?, List.find?_append, absent]
  simp

theorem put_policy_fresh (policy : Policy) (absent : s.find? policy.path = none) :
    (s.putPolicy policy).policies = s.policies ++ [policy] := by
  have kept : (s.policies.filter fun p => p.path ≠ policy.path) = s.policies := by
    refine List.filter_eq_self.mpr fun p inside => ?_
    simpa using List.find?_eq_none.mp absent p inside
  simp only [putPolicy, kept]

theorem put_line_map_found (path : Path) (m : LineMap) : (s.putLineMap path m).lineMap? path = some m := by
  have absent : (s.lineMaps.filter fun entry => entry.1 ≠ path).lookup path = none := by
    refine List.lookup_eq_none_iff.mpr fun entry inside => ?_
    exact bne_iff_ne.mpr (Ne.symm (of_decide_eq_true (List.mem_filter.mp inside).2))
  change ((s.lineMaps.filter fun entry => entry.1 ≠ path) ++ [(path, m)]).lookup path = some m
  rw [List.lookup_append, absent, Option.none_or, List.lookup_cons_self]

theorem put_line_map_other (path other : Path) (m : LineMap) (different : other ≠ path) :
    (s.putLineMap path m).lineMap? other = s.lineMap? other := by
  have missed : (other == path) = false := beq_eq_false_iff_ne.mpr different
  change ((s.lineMaps.filter fun entry => entry.1 ≠ path) ++ [(path, m)]).lookup other = s.lineMaps.lookup other
  rw [List.lookup_append, lookup_filter _ _ _ different, List.lookup_cons, missed]
  exact Option.or_none

theorem erase_line_map_gone (path : Path) : (s.eraseLineMap path).lineMap? path = none := by
  refine List.lookup_eq_none_iff.mpr fun entry inside => ?_
  exact bne_iff_ne.mpr (Ne.symm (of_decide_eq_true (List.mem_filter.mp inside).2))

theorem erase_line_map_other (path other : Path) (different : other ≠ path) :
    (s.eraseLineMap path).lineMap? other = s.lineMap? other := lookup_filter _ _ _ different

theorem erase_policy_gone (path : Path) : (s.erasePolicy path).find? path = none := by
  refine List.find?_eq_none.mpr fun p inside => ?_
  simpa using (List.mem_filter.mp inside).2

def Earlier (p q : Policy) : Prop := p.order < q.order

theorem ascending_unique (L M : List Policy) (left : L.Pairwise Earlier) (right : M.Pairwise Earlier)
    (same : L.Perm M) : L = M :=
  List.Perm.eq_of_pairwise (fun _ _ _ _ less more => absurd less (Nat.not_lt.mpr (Nat.le_of_lt more)))
    left right same

theorem ascending_orders (L : List Policy) (ascending : L.Pairwise Earlier) : (L.map Policy.order).Nodup :=
  List.pairwise_map.mpr (ascending.imp Nat.ne_of_lt)

theorem in_order_perm : s.inOrder.Perm s.policies := List.mergeSort_perm _ _

theorem in_order_ascending (distinct : (s.policies.map Policy.order).Nodup) : s.inOrder.Pairwise Earlier := by
  have sorted : s.inOrder.Pairwise fun p q => decide (p.order ≤ q.order) = true :=
    List.pairwise_mergeSort (by simpa using fun _ _ _ => Nat.le_trans) (by simpa using fun _ _ => Nat.le_total _ _) _
  have different : s.inOrder.Pairwise fun p q => p.order ≠ q.order :=
    List.pairwise_map.mp (((in_order_perm s).map Policy.order).nodup_iff.mpr distinct)
  exact sorted.imp₂ (fun _ _ less apart => Nat.lt_of_le_of_ne (of_decide_eq_true less) apart) different

theorem in_order_eq (L : List Policy) (same : L.Perm s.policies) (ascending : L.Pairwise Earlier) :
    s.inOrder = L := by
  have distinct : (s.policies.map Policy.order).Nodup :=
    (same.map Policy.order).nodup_iff.mp (ascending_orders L ascending)
  exact ascending_unique _ _ (in_order_ascending s distinct) ascending ((in_order_perm s).trans same.symm)

theorem in_order_put (policy : Policy) (distinct : (s.policies.map Policy.order).Nodup)
    (absent : s.find? policy.path = none) (later : ∀ p ∈ s.policies, p.order < policy.order) :
    (s.putPolicy policy).inOrder = s.inOrder ++ [policy] := by
  refine in_order_eq _ _ ?_ ?_
  · rw [put_policy_fresh s policy absent]
    exact (in_order_perm s).append_right [policy]
  · refine List.pairwise_append.mpr ⟨in_order_ascending s distinct, List.pairwise_singleton _ _, ?_⟩
    intro p inside q last
    rw [List.mem_singleton.mp last]
    exact later p ((in_order_perm s).mem_iff.mp inside)

theorem in_order_erase (path : Path) (distinct : (s.policies.map Policy.order).Nodup) :
    (s.erasePolicy path).inOrder = s.inOrder.filter fun p => p.path ≠ path :=
  in_order_eq _ _ ((in_order_perm s).filter _) ((in_order_ascending s distinct).filter _)

theorem find_path (L : List Policy) (distinct : (L.map Policy.path).Nodup) (path : Path) (policy : Policy) :
    L.find? (fun p => p.path = path) = some policy ↔ policy ∈ L ∧ policy.path = path := by
  constructor
  · intro found
    exact ⟨List.mem_of_find?_eq_some found, by simpa using List.find?_some found⟩
  · rintro ⟨inside, same⟩
    cases found : L.find? fun p => p.path = path with
    | none =>
        have different := List.find?_eq_none.mp found policy inside
        simp [same] at different
    | some other =>
        have held : other ∈ L := List.mem_of_find?_eq_some found
        have otherPath : other.path = path := by simpa using List.find?_some found
        rw [List.inj_on_of_nodup_map distinct held inside (otherPath.trans same.symm)]

theorem find_in_order (distinct : (s.policies.map Policy.path).Nodup) (path : Path) :
    s.find? path = s.inOrder.find? fun p => p.path = path := by
  have ordered : (s.inOrder.map Policy.path).Nodup := ((in_order_perm s).map Policy.path).nodup_iff.mpr distinct
  refine Option.ext fun policy => ?_
  rw [find?, find_path s.policies distinct, find_path s.inOrder ordered, (in_order_perm s).mem_iff]

theorem earliest_none (L : List Policy) : earliest? L = none ↔ L = [] := by
  cases L with
  | nil => simp [earliest?]
  | cons p rest => cases held : earliest? rest <;> simp [earliest?, held]

theorem earliest_some (L : List Policy) (policy : Policy) (found : earliest? L = some policy) :
    policy ∈ L ∧ ∀ p ∈ L, policy.order ≤ p.order := by
  induction L generalizing policy with
  | nil => simp [earliest?] at found
  | cons p rest ih =>
      cases held : earliest? rest with
      | none =>
          have same : p = policy := by simpa [earliest?, held] using found
          have bare : rest = [] := (earliest_none rest).mp held
          subst same bare
          simp
      | some q =>
          obtain ⟨inside, least⟩ := ih q held
          by_cases less : q.order < p.order
          · have same : q = policy := by simpa [earliest?, held, less] using found
            subst same
            exact ⟨List.mem_cons_of_mem _ inside, List.forall_mem_cons.mpr ⟨Nat.le_of_lt less, least⟩⟩
          · have same : p = policy := by simpa [earliest?, held, less] using found
            subst same
            have below : ∀ r ∈ rest, p.order ≤ r.order := fun r held =>
              Nat.le_trans (Nat.not_lt.mp less) (least r held)
            exact ⟨List.mem_cons_self, List.forall_mem_cons.mpr ⟨Nat.le_refl _, below⟩⟩

theorem earliest_head (L M : List Policy) (ascending : L.Pairwise Earlier) (same : L.Perm M) :
    earliest? M = L.head? := by
  cases found : earliest? M with
  | none =>
      rw [(earliest_none M).mp found] at same
      rw [same.eq_nil, List.head?_nil]
  | some policy =>
      obtain ⟨inside, least⟩ := earliest_some M policy found
      cases L with
      | nil => simp [same.symm.eq_nil] at inside
      | cons first rest =>
          rcases List.mem_cons.mp (same.mem_iff.mpr inside) with head | later
          · rw [head, List.head?_cons]
          · -- A policy behind the first one is not the earliest.
            have less : first.order < policy.order := (List.pairwise_cons.mp ascending).1 policy later
            exact absurd less (Nat.not_lt.mpr (least first (same.mem_iff.mp List.mem_cons_self)))

theorem find_declaring (distinct : (s.policies.map Policy.order).Nodup) (package : Option String) :
    s.findByPackage? package = s.inOrder.find? (declares package) := by
  rw [findByPackage?, ← List.head?_filter]
  exact earliest_head _ _ ((in_order_ascending s distinct).filter _) ((in_order_perm s).filter _)

theorem find_named (distinct : (s.policies.map Policy.order).Nodup) (name : String) :
    s.findByPackage? (some name) = s.inOrder.find? fun p => name ∈ p.packages := find_declaring s distinct (some name)

theorem find_first (distinct : (s.policies.map Policy.order).Nodup) : s.findByPackage? none = s.inOrder.head? := by
  rw [find_declaring s distinct, ← List.head?_filter]
  exact congrArg List.head? (List.filter_true _)

theorem mem_packages (name : String) : name ∈ s.packages ↔ ∃ p ∈ s.inOrder, name ∈ p.packages := by
  rw [packages, NameSet.mem_of_list, List.mem_flatMap]
  exact exists_congr fun p => and_congr_left' (in_order_perm s).mem_iff.symm

theorem size_in_order : s.size = s.inOrder.length := (in_order_perm s).length_eq.symm

-- What a module of so many bytes takes in memory: itself, twice itself and a page, as far as 64 bits count.
def footprint (size : Nat) : Nat := min (size + 65536 + size * 2) (UInt64.size - 1)

theorem estimate_footprint (p : Policy) : p.estimate = footprint p.size := by
  simp only [Policy.estimate, estimateMemory, saturated, pageBytes, heapPerByte, footprint, UInt64.size]
  omega

theorem outcome_footprint (p : Policy) (cached : Bool) :
    p.outcome cached =
      { path := p.path.text, packages := p.packages.toList, rules := p.rules.toList, cached, size := p.size
        estimate := footprint p.size } := by
  rw [Policy.outcome, estimate_footprint]

theorem total_memory_in_order :
    s.totalMemory = (s.inOrder.map fun p => footprint p.size).foldl (fun sum size => sum + size) 0 := by
  have same : s.policies.map Policy.estimate = s.policies.map fun p => footprint p.size :=
    List.map_congr_left fun p _ => estimate_footprint p
  rw [totalMemory, total, same, ← List.sum_eq_foldl, ← List.sum_eq_foldl]
  exact ((in_order_perm s).symm.map _).sum_nat

theorem summaries_in_order :
    s.summaries = s.inOrder.map fun p =>
      { path := p.path.text, packages := p.packages.toList, rules := p.rules.toList, size := p.size
        estimate := footprint p.size } :=
  List.map_congr_left fun p _ => by rw [Policy.summary, estimate_footprint]

theorem memory_report_in_order :
    s.memoryReport =
      { total := (s.inOrder.map fun p => footprint p.size).foldl (fun sum size => sum + size) 0
        count := s.inOrder.length
        policies := s.inOrder.map fun p => { path := p.path.text, size := p.size, estimate := footprint p.size } } := by
  have rows : s.summaries.map PolicyMemory.ofSummary =
      s.inOrder.map fun p => { path := p.path.text, size := p.size, estimate := footprint p.size } := by
    rw [summaries_in_order, List.map_map]
    rfl
  rw [memoryReport, rows, List.map_map, List.length_map, total]
  rfl

end PolicyHost.Store
