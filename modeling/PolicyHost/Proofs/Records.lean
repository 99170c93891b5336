import PolicyHost.Host.Explain
import PolicyHost.Host.Interleaving
import PolicyHost.Proofs.Loads
import PolicyHost.Proofs.Store

set_option autoImplicit false

namespace PolicyHost.Host

structure Unmoved (before after : Host) : Prop where
  policies : after.store.policies = before.store.policies
  next : after.nextOrder = before.nextOrder
  config : after.config = before.config

theorem unmoved_refl (h : Host) : Unmoved h h := ⟨rfl, rfl, rfl⟩

theorem unmoved_trans (first second third : Host) (left : Unmoved first second) (right : Unmoved second third) :
    Unmoved first third :=
  ⟨right.policies.trans left.policies, right.next.trans left.next, right.config.trans left.config⟩

theorem unmoved_record (h : Host) (call : Call) : Unmoved h (h.record call) := ⟨rfl, rfl, rfl⟩

theorem unmoved_probe (s : Surroundings) (h : Host) : Unmoved h (probe s h) :=
  ⟨congrArg Store.policies (probe_store s h), probe_order s h, probe_config s h⟩

theorem unmoved_failed (s : Surroundings) (h : Host) (path : Path) (failure : Failure) (after : Host)
    (compiled : CompileCase s h path (.error failure) after) : Unmoved h after := by
  obtain ⟨store, next, config⟩ := failed_host s h path failure after compiled
  exact ⟨congrArg Store.policies store, next, config⟩

theorem unmoved_line_map (s : Surroundings) (path : String) (h : Host) : Unmoved h (lineMap s path h).2 := by
  unfold lineMap
  dsimp only
  split
  · exact unmoved_refl h
  · exact ⟨rfl, rfl, rfl⟩

theorem unmoved_explanation (s : Surroundings) (request : Toolchain.ExplainRequest) (h : Host) :
    Unmoved h ((explanation s request).run.run h).2 := by
  simp only [explanation, run_bind, run_modify]
  cases s.toolchain.explain s.workspace.tree request with
  | error fault => exact unmoved_record h _
  | ok document =>
      dsimp only
      cases Explanation.failure? document with
      | none => exact unmoved_record h _
      | some failure => exact unmoved_record h _

theorem unmoved_explain (s : Surroundings) (input : Json) (package rule : Option String) (options : Trace.Options)
    (h : Host) : Unmoved h ((explain s input package rule options).run.run h).2 := by
  simp only [explain, run_bind, run_get, run_settled]
  cases h.target package rule with
  | error failure => exact unmoved_refl h
  | ok target =>
      have asked := unmoved_explanation s (explainRequest h.config target input options) h
      dsimp only
      generalize (explanation s (explainRequest h.config target input options)).run.run h = outcome at asked
      obtain ⟨result, after⟩ := outcome
      cases result with
      | error failure => exact asked
      | ok document => exact unmoved_trans h after _ asked (unmoved_line_map s target.policy.path.text after)

-- The numbers of the pending policies are taken, although nobody can ask for those policies yet.
structure Kept (config : Config) (h : Host) (pending : List Policy) : Prop where
  configured : h.config = config
  paths : (h.store.policies.map Policy.path).Nodup
  orders : ((h.store.policies ++ pending).map Policy.order).Nodup
  numbered : ∀ p ∈ h.store.policies ++ pending, p.order < h.nextOrder
  faithful : ∀ p ∈ h.store.policies ++ pending, Faithful config p

-- What one step does to the policies, with those of its task that are pending before and after it.
inductive Effect (before after : Host) : List Policy → List Policy → Prop where
  | still (mine : List Policy) (unmoved : Unmoved before after) : Effect before after mine mine
  | made (policy : Policy) (order : policy.order = before.nextOrder) (faithful : Faithful before.config policy)
      (policies : after.store.policies = before.store.policies) (next : after.nextOrder = before.nextOrder + 1)
      (config : after.config = before.config) : Effect before after [] [policy]
  | entered (policy : Policy)
      (policies : after.store.policies = (before.store.policies.filter fun p => p.path ≠ policy.path) ++ [policy])
      (next : after.nextOrder = before.nextOrder) (config : after.config = before.config) :
      Effect before after [policy] []
  | dropped (mine : List Policy) (keep : Policy → Bool)
      (policies : after.store.policies = before.store.policies.filter keep)
      (next : after.nextOrder = before.nextOrder) (config : after.config = before.config) :
      Effect before after mine mine

variable (config : Config) (h after : Host)

theorem kept_orders (kept : Kept config h []) : (h.store.policies.map Policy.order).Nodup := by
  simpa only [List.append_nil] using kept.orders

theorem kept_perm (pending others : List Policy) (same : pending.Perm others) (kept : Kept config h pending) :
    Kept config h others := by
  have all : (h.store.policies ++ pending).Perm (h.store.policies ++ others) := same.append_left _
  refine ⟨kept.configured, kept.paths, (all.map Policy.order).nodup_iff.mp kept.orders, ?_, ?_⟩
  · intro p inside
    exact kept.numbered p (all.mem_iff.mpr inside)
  · intro p inside
    exact kept.faithful p (all.mem_iff.mpr inside)

theorem kept_sublist (pending others : List Policy) (kept : Kept config h pending)
    (same : after.config = h.config) (next : after.nextOrder = h.nextOrder)
    (paths : (after.store.policies.map Policy.path).Nodup)
    (fewer : (after.store.policies ++ others).Sublist (h.store.policies ++ pending)) : Kept config after others := by
  refine ⟨same.trans kept.configured, paths, (fewer.map Policy.order).nodup kept.orders, ?_, ?_⟩
  · intro p inside
    rw [next]
    exact kept.numbered p (fewer.subset inside)
  · intro p inside
    exact kept.faithful p (fewer.subset inside)

theorem kept_loaded (pending : List Policy) (kept : Kept config h pending) : Kept config h [] :=
  kept_sublist config h h pending [] kept rfl rfl kept.paths ((List.Sublist.refl _).append (List.nil_sublist _))

theorem kept_unmoved (pending : List Policy) (unmoved : Unmoved h after) (kept : Kept config h pending) :
    Kept config after pending := by
  refine kept_sublist config h after pending pending kept unmoved.config unmoved.next ?_ ?_
  · rw [unmoved.policies]
    exact kept.paths
  · rw [unmoved.policies]

theorem kept_made (policy : Policy) (pending : List Policy) (order : policy.order = h.nextOrder)
    (faithful : Faithful h.config policy) (policies : after.store.policies = h.store.policies)
    (next : after.nextOrder = h.nextOrder + 1) (same : after.config = h.config) (kept : Kept config h pending) :
    Kept config after (policy :: pending) := by
  have all : (h.store.policies ++ policy :: pending).Perm (policy :: (h.store.policies ++ pending)) :=
    List.perm_middle
  refine ⟨same.trans kept.configured, by simpa only [policies] using kept.paths, ?_, ?_, ?_⟩
  · rw [policies, (all.map Policy.order).nodup_iff, List.map_cons, List.nodup_cons]
    refine ⟨?_, kept.orders⟩
    intro taken
    obtain ⟨p, inside, number⟩ := List.mem_map.mp taken
    have less := kept.numbered p inside
    omega
  · rw [policies, next]
    intro p inside
    rcases List.mem_cons.mp (all.mem_iff.mp inside) with head | old
    · rw [head, order]
      exact Nat.lt_succ_self _
    · exact Nat.lt_succ_of_lt (kept.numbered p old)
  · rw [policies]
    intro p inside
    rcases List.mem_cons.mp (all.mem_iff.mp inside) with head | old
    · rw [head, ← kept.configured]
      exact faithful
    · exact kept.faithful p old

theorem paths_filter (keep : Policy → Bool) (L : List Policy) (distinct : (L.map Policy.path).Nodup) :
    ((L.filter keep).map Policy.path).Nodup :=
  (List.filter_sublist.map Policy.path).nodup distinct

theorem paths_put (policy : Policy) (L : List Policy) (distinct : (L.map Policy.path).Nodup) :
    (((L.filter fun p => p.path ≠ policy.path) ++ [policy]).map Policy.path).Nodup := by
  rw [List.map_append, List.map_singleton, List.nodup_append]
  refine ⟨paths_filter _ L distinct, List.nodup_singleton _, ?_⟩
  intro path old other last
  obtain ⟨p, inside, same⟩ := List.mem_map.mp old
  have different : p.path ≠ policy.path := by simpa using (List.mem_filter.mp inside).2
  rw [List.mem_singleton.mp last, ← same]
  exact different

theorem kept_effect (mine others rest : List Policy) (effect : Effect h after mine others)
    (kept : Kept config h (mine ++ rest)) : Kept config after (others ++ rest) := by
  cases effect with
  | still _ unmoved => exact kept_unmoved config h after _ unmoved kept
  | made policy order faithful policies next same =>
      exact kept_made config h after policy rest order faithful policies next same kept
  | entered policy policies next same =>
      refine kept_sublist config h after _ _ kept same next ?_ ?_
      · rw [policies]
        exact paths_put policy _ kept.paths
      · rw [policies, List.append_assoc]
        exact List.filter_sublist.append_right _
  | dropped _ keep policies next same =>
      refine kept_sublist config h after _ _ kept same next ?_ ?_
      · rw [policies]
        exact paths_filter keep _ kept.paths
      · rw [policies]
        exact List.filter_sublist.append_right _

end PolicyHost.Host
