import PolicyHost.Proofs.Reachable

set_option autoImplicit false

namespace PolicyHost

def Request.isSingle : Request → Bool
  | loadTogether _ _ _ => false
  | _ => true

namespace Host

-- What a request does to the list, and what it is answered.
inductive Turn (s : Surroundings) (config : Config) (L : List Policy) : Request → Reply → List Policy → Prop where
  | refused (path : String) (base : Option String) (failure : Failure)
      (bad : s.workspace.resolve path base = .error failure) :
      Turn s config L (.load path base) (.loaded (.error failure)) L
  | hit (path : String) (base : Option String) (policy : Policy)
      (resolved : s.workspace.resolve path base = .ok policy.path) (listed : policy ∈ L) :
      Turn s config L (.load path base)
        (.loaded (.ok
          { path := policy.path.text, packages := policy.packages.toList, rules := policy.rules.toList, cached := true
            size := policy.size, estimate := Store.footprint policy.size })) L
  | failed (path : String) (base : Option String) (key : Path) (failure : Failure)
      (resolved : s.workspace.resolve path base = .ok key) (absent : ∀ p ∈ L, p.path ≠ key)
      (bad : ∀ p : Policy, p.path = key → ¬ CompiledIn s config p) :
      Turn s config L (.load path base) (.loaded (.error failure)) L
  | fresh (path : String) (base : Option String) (policy : Policy)
      (resolved : s.workspace.resolve path base = .ok policy.path) (absent : ∀ p ∈ L, p.path ≠ policy.path)
      (compiled : CompiledIn s config policy) :
      Turn s config L (.load path base)
        (.loaded (.ok
          { path := policy.path.text, packages := policy.packages.toList, rules := policy.rules.toList, cached := false
            size := policy.size, estimate := Store.footprint policy.size })) (L ++ [policy])
  | unloaded (path : String) (key : Path)
      (normal : key = (Path.absolute? s.workspace.directory path).getD (.ofText path)) :
      Turn s config L (.unload path) (.unloaded (L.any fun p => p.path = key)) (L.filter fun p => p.path ≠ key)
  | cleared : Turn s config L .clear .cleared []
  | found (package : String) : Turn s config L (.find (some package)) (.found (L.find? fun p => package ∈ p.packages)) L
  | first : Turn s config L (.find none) (.found L.head?) L
  | evaluated (input : Json) (package rule : Option String) (result : Except Failure Verdict) :
      Turn s config L (.evaluate input package rule) (.evaluated result) L
  | explained (input : Json) (package rule : Option String) (options : Trace.Options)
      (result : Except Failure Explained) : Turn s config L (.explain input package rule options) (.explained result) L
  | lineMap (path : String) (m : LineMap) : Turn s config L (.lineMap path) (.lineMap m) L

-- Whatever is asked of the host is answered as by the list.
structure Mirrors (h : Host) (L : List Policy) : Prop where
  distinct : (L.map Policy.path).Nodup
  listing : h.store.inOrder = L
  summaries : h.store.summaries = L.map fun p =>
    { path := p.path.text, packages := p.packages.toList, rules := p.rules.toList, size := p.size
      estimate := Store.footprint p.size }
  size : h.store.size = L.length
  get : ∀ path, h.store.find? path = L.find? fun p => p.path = path
  packages : ∀ name, name ∈ h.store.packages ↔ ∃ p ∈ L, name ∈ p.packages
  named : ∀ name, h.store.findByPackage? (some name) = L.find? fun p => name ∈ p.packages
  first : h.store.findByPackage? none = L.head?
  memory : h.store.totalMemory = (L.map fun p => Store.footprint p.size).foldl (fun sum size => sum + size) 0
  report : h.store.memoryReport =
    { total := (L.map fun p => Store.footprint p.size).foldl (fun sum size => sum + size) 0, count := L.length
      policies := L.map fun p => { path := p.path.text, size := p.size, estimate := Store.footprint p.size } }

-- There is such a list at every moment of a run.
def Follows (h : Host) (L : List Policy) : List (Surroundings × Request) → Prop
  | [] => Mirrors h L
  | (s, request) :: rest =>
      Mirrors h L ∧ ∃ next, Turn s h.config L request (h.answer s request).1 next ∧
        Follows (h.answer s request).2 next rest

variable (config : Config) (s : Surroundings) (h : Host)

theorem kept_mirrors (kept : Kept config h []) : Mirrors h h.store.inOrder := by
  have orders := kept_orders config h kept
  have perm := Store.in_order_perm h.store
  exact ⟨(perm.map Policy.path).nodup_iff.mpr kept.paths, rfl, Store.summaries_in_order h.store,
    Store.size_in_order h.store, Store.find_in_order h.store kept.paths, Store.mem_packages h.store,
    Store.find_named h.store orders, Store.find_first h.store orders, Store.total_memory_in_order h.store,
    Store.memory_report_in_order h.store⟩

theorem absent_in_order (key : Path) (absent : h.store.find? key = none) :
    ∀ p ∈ h.store.inOrder, p.path ≠ key := by
  intro p listed
  have inside := (Store.in_order_perm h.store).mem_iff.mp listed
  simpa using List.find?_eq_none.mp absent p inside

theorem unmoved_in_order (after : Host) (unmoved : Unmoved h after) : after.store.inOrder = h.store.inOrder := by
  simp only [Store.inOrder, unmoved.policies]

theorem compiled_in_order (key : Path) (policy : Policy) (after : Host) (kept : Kept config h [])
    (absent : h.store.find? key = none) (compiled : CompileCase s h key (.ok policy) after) :
    after.store.inOrder = h.store.inOrder ++ [policy] := by
  obtain ⟨samePath, order, _⟩ := compiled_policy s h key policy after compiled
  obtain ⟨store, _, _⟩ := compiled_host s h key policy after compiled
  have later : ∀ p ∈ h.store.policies, p.order < policy.order := by
    intro p inside
    rw [order]
    exact kept.numbered p (List.mem_append_left _ inside)
  rw [store]
  exact Store.in_order_put (h.store.putLineMap policy.path policy.lineMap) policy (kept_orders config h kept)
    (samePath ▸ absent) later

theorem load_turn (path : String) (base : Option String) (kept : Kept config h []) :
    Turn s h.config h.store.inOrder (.load path base) (.loaded ((load s path base).run.run h).1)
      ((load s path base).run.run h).2.store.inOrder := by
  have loaded := load_cases s h path base
  generalize (load s path base).run.run h = outcome at loaded ⊢
  obtain ⟨result, after⟩ := outcome
  cases loaded with
  | refused failure bad => exact .refused path base failure bad
  | hit key policy resolved found =>
      obtain ⟨inside, same⟩ := (Store.find_path _ kept.paths key policy).mp found
      rw [← same] at resolved
      rw [Store.outcome_footprint]
      exact .hit path base policy resolved ((Store.in_order_perm _).mem_iff.mpr inside)
  | failed key failure _ resolved absent compiled =>
      rw [unmoved_in_order h after (unmoved_failed s h key failure after compiled)]
      exact .failed path base key failure resolved (absent_in_order h key absent)
        (failed_uncompiled s h key failure after compiled)
  | fresh key policy _ resolved absent compiled =>
      obtain ⟨same, _, origin⟩ := compiled_policy s h key policy after compiled
      rw [compiled_in_order config s h key policy after kept absent compiled, Store.outcome_footprint]
      rw [← same] at resolved absent
      exact .fresh path base policy resolved (absent_in_order h policy.path absent) origin

theorem unload_turn (path : String) (kept : Kept config h []) :
    Turn s h.config h.store.inOrder (.unload path) (.unloaded (unload s path h).1)
      (unload s path h).2.store.inOrder := by
  have told : (unload s path h).1 = h.store.inOrder.any fun p => p.path = unloadKey s path := by
    rw [← List.isSome_find?, ← Store.find_in_order h.store kept.paths]
    rfl
  have left : (unload s path h).2.store.inOrder = h.store.inOrder.filter fun p => p.path ≠ unloadKey s path :=
    Store.in_order_erase (h.store.eraseLineMap (unloadKey s path)) (unloadKey s path) (kept_orders config h kept)
  rw [told, left]
  exact .unloaded path _ rfl

theorem answer_turn (request : Request) (single : request.isSingle = true) (kept : Kept config h []) :
    Turn s h.config h.store.inOrder request (h.answer s request).1 (h.answer s request).2.store.inOrder := by
  cases request with
  | load path base => exact load_turn config s h path base kept
  | loadTogether path base callers => cases single
  | evaluate input package rule => exact .evaluated input package rule _
  | explain input package rule options =>
      have same : (h.answer s (.explain input package rule options)).2.store.inOrder = h.store.inOrder :=
        unmoved_in_order h _ (unmoved_explain s input package rule options h)
      rw [same]
      exact .explained input package rule options _
  | unload path => exact unload_turn config s h path kept
  | clear =>
      have bare : (h.answer s .clear).2.store.inOrder = [] := List.mergeSort_nil
      rw [bare]
      exact .cleared
  | find package =>
      have orders := kept_orders config h kept
      cases package with
      | none =>
          simp only [answer, Store.find_first h.store orders]
          exact .first
      | some name =>
          simp only [answer, Store.find_named h.store orders name]
          exact .found name
  | lineMap path =>
      have same : (h.answer s (.lineMap path)).2.store.inOrder = h.store.inOrder :=
        unmoved_in_order h _ (unmoved_line_map s path h)
      rw [same]
      exact .lineMap path _

theorem kept_follows (turns : List (Surroundings × Request)) (single : ∀ turn ∈ turns, turn.2.isSingle = true)
    (kept : Kept config h []) : Follows h h.store.inOrder turns := by
  induction turns generalizing h with
  | nil => exact kept_mirrors config h kept
  | cons turn rest ih =>
      obtain ⟨alone, others⟩ := List.forall_mem_cons.mp single
      exact ⟨kept_mirrors config h kept, _, answer_turn config turn.1 h turn.2 alone kept,
        ih _ others (answer_kept config turn.1 h turn.2 kept)⟩

theorem ledger_followed (config : Config) (h : Host) (turns : List (Surroundings × Request))
    (started : Host.new config = .ok h) (single : ∀ turn ∈ turns, turn.2.isSingle = true) : Follows h [] turns := by
  have bare : h.store.inOrder = [] := by
    rw [new_host config h started]
    exact List.mergeSort_nil
  rw [← bare]
  exact kept_follows config h turns single (new_kept config h started)

def emptied : Surroundings := permissive { nodes := [(["srv"], .directory)] } ["srv"]

-- The second load of a policy is answered when its file is gone, and a third one after it was unloaded is new.
def reloads : List (Surroundings × Request) :=
  let full := permissive twoPolicies ["srv"]
  [(full, .load "a.rego" none), (full, .load "b.rego" (some "/srv")), (emptied, .load "./a.rego" none),
   (emptied, .unload "x/../a.rego"), (emptied, .load "a.rego" none), (full, .load "a.rego" none), (full, .find none)]

theorem ledger_followed_reloads :
    Follows idle [] reloads ∧
      ((load emptied "./a.rego" none).run.run (idle.after (reloads.take 2))).1 =
        .ok { path := "/srv/a.rego", packages := ["shared"], rules := ["allow"], cached := true, size := 8
              estimate := 65560 } ∧
      ((load emptied "a.rego" none).run.run (idle.after (reloads.take 4))).1.isOk = false ∧
      (idle.after reloads).store.summaries =
        [{ path := "/srv/b.rego", packages := ["shared"], rules := ["deny"], size := 8, estimate := 65560 },
         { path := "/srv/a.rego", packages := ["shared"], rules := ["allow"], size := 8, estimate := 65560 }] ∧
      (idle.after reloads).store.totalMemory = 131120 := by
  have numbers : ((idle.after reloads).store.policies.map Policy.order).Pairwise (· < ·) := by decide +kernel
  rw [List.pairwise_map] at numbers
  have listed := Store.in_order_eq _ _ (.refl _) numbers
  refine ⟨ledger_followed {} idle reloads rfl (by decide), by decide +kernel, by decide +kernel, ?_, by decide +kernel⟩
  rw [Store.summaries, listed]
  decide +kernel

end Host

end PolicyHost
