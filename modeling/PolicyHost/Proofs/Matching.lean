import PolicyHost.Proofs.Compilations

set_option autoImplicit false

namespace PolicyHost.Host

def LoadPhase.isMapping : LoadPhase → Bool
  | publishLineMap _ _ => true
  | _ => false

namespace Task

theorem compiles_load (path : Path) (phase : LoadPhase) : (load path phase).compiles path = phase.isCompiling := by
  simp [compiles]

theorem enters_load (path : Path) (phase : LoadPhase) : (load path phase).enters path = phase.isPublishing := by
  simp [enters]

end Task

namespace Crowd

variable (s : Surroundings) (path : Path) (c : Crowd)

-- What a step of a load does to the two tables.
inductive Touch (h : Host) : LoadPhase → LoadPhase → Host → Prop where
  | mapped (lock : Lock) (policy : Policy) :
      Touch h (.publishLineMap lock policy) (.publishPolicy lock policy) (publishLineMap policy h)
  | entered (lock : Lock) (policy : Policy) :
      Touch h (.publishPolicy lock policy) (.retire lock (.ok (policy.outcome false))) (publishPolicy policy h)
  | none (before after : LoadPhase) (host : Host) (same : host.store = h.store)
      (unmapped : before.isMapping = false) (early : before.isPublishing = false) (late : after.isPublishing = false)
      (vacant : after.isCompiling = true → before.isCompiling = true ∨ h.store.find? path = none) :
      Touch h before after host

theorem move_touch (before after : LoadPhase) (host : Host) (locks : Locks)
    (move : Move s path c before after host locks) : Touch path c.host before after host := by
  have idle (phase : LoadPhase) (rests : phase.isCompiling = false) (compiling : phase.isCompiling = true) :
      before.isCompiling = true ∨ c.host.store.find? path = Option.none := by
    rw [rests] at compiling
    cases compiling
  cases move with
  | absent lock absent => exact .none _ _ _ rfl rfl rfl rfl fun _ => Or.inr absent
  | compiled _ _ _ stage =>
      cases stage with
      | mapped lock policy => exact .mapped lock policy
      | probed lock d => exact .none _ _ _ (probe_store s c.host) rfl rfl rfl fun _ => Or.inl rfl
      | _ => exact .none _ _ _ rfl rfl rfl rfl fun _ => Or.inl rfl
  | entered lock policy => exact .entered lock policy
  | _ => exact .none _ _ _ rfl rfl rfl rfl (idle _ rfl)

-- A line map next to a policy is that of its source, and a load that compiles finds no policy next to what it enters.
structure Matched (store : Store) (tasks : List Task) : Prop where
  placed : ∀ task ∈ tasks, task.Placed
  vacant : ∀ task ∈ tasks, task.compiles path = true → store.find? path = none
  staged : ∀ lock policy, .load path (.publishPolicy lock policy) ∈ tasks →
    ∀ m, store.lineMap? path = some m → m = policy.lineMap
  matched : ∀ policy, store.find? path = some policy → ∀ m, store.lineMap? path = some m → m = policy.lineMap

theorem matched_perm (store : Store) (tasks others : List Task) (same : tasks.Perm others)
    (matched : Matched path store tasks) : Matched path store others :=
  ⟨fun task inside => matched.placed task (same.mem_iff.mpr inside),
    fun task inside => matched.vacant task (same.mem_iff.mpr inside),
    fun lock policy inside => matched.staged lock policy (same.mem_iff.mpr inside), matched.matched⟩

theorem matched_less (store after : Store) (task next : Task) (others : List Task) (placed : next.Placed)
    (policy : after.find? path = store.find? path ∨ after.find? path = none)
    (lineMap : after.lineMap? path = store.lineMap? path ∨ after.lineMap? path = none)
    (vacant : next.compiles path = true → store.find? path = none) (unstaged : next.enters path = false)
    (matched : Matched path store (task :: others)) : Matched path after (next :: others) := by
  obtain ⟨_, others_placed⟩ := List.forall_mem_cons.mp matched.placed
  obtain ⟨_, others_vacant⟩ := List.forall_mem_cons.mp matched.vacant
  have kept (m : LineMap) (mapped : after.lineMap? path = some m) : store.lineMap? path = some m := by
    rcases lineMap with same | gone
    · exact same.symm.trans mapped
    · rw [gone] at mapped
      cases mapped
  have absent (none : store.find? path = none) : after.find? path = Option.none := policy.elim (·.trans none) id
  refine ⟨List.forall_mem_cons.mpr ⟨placed, others_placed⟩, List.forall_mem_cons.mpr ⟨?_, ?_⟩, ?_, ?_⟩
  · exact fun compiles => absent (vacant compiles)
  · exact fun other inside compiles => absent (others_vacant other inside compiles)
  · intro lock own inside m mapped
    rcases List.mem_cons.mp inside with rfl | old
    · rw [Task.enters_load] at unstaged
      cases unstaged
    · exact matched.staged lock own (List.mem_cons_of_mem _ old) m (kept m mapped)
  · intro own found m mapped
    rcases policy with same | gone
    · exact matched.matched own (same.symm.trans found) m (kept m mapped)
    · rw [gone] at found
      cases found

theorem alone_staged (others : List Task) (alone : others.countP (Task.compiles path) = 0) (lock : Lock)
    (policy : Policy) : .load path (.publishPolicy lock policy) ∉ others := by
  intro inside
  refine absurd ?_ (List.countP_eq_zero.mp alone _ inside)
  rw [Task.compiles_load]
  rfl

theorem matched_mapped (store : Store) (lock : Lock) (policy : Policy) (others : List Task) (own : policy.path = path)
    (alone : others.countP (Task.compiles path) = 0)
    (matched : Matched path store (.load path (.publishLineMap lock policy) :: others)) :
    Matched path (store.putLineMap policy.path policy.lineMap)
      (.load path (.publishPolicy lock policy) :: others) := by
  obtain ⟨placed, others_placed⟩ := List.forall_mem_cons.mp matched.placed
  have absent : store.find? path = none :=
    matched.vacant _ List.mem_cons_self ((Task.compiles_load path _).trans rfl)
  have found : (store.putLineMap policy.path policy.lineMap).lineMap? path = some policy.lineMap :=
    own ▸ Store.put_line_map_found store policy.path policy.lineMap
  refine ⟨List.forall_mem_cons.mpr ⟨⟨placed.draft, placed.policy⟩, others_placed⟩, fun _ _ _ => absent, ?_, ?_⟩
  · intro other staged inside m mapped
    rcases List.mem_cons.mp inside with same | old
    · cases same
      exact Option.some.inj (mapped.symm.trans found)
    · exact absurd old (alone_staged path others alone other staged)
  · intro other held
    rw [Store.find?] at absent
    rw [Store.find?, Store.putLineMap, absent] at held
    cases held

theorem matched_entered (store : Store) (lock : Lock) (policy : Policy) (result : LoadResult) (others : List Task)
    (own : policy.path = path) (alone : others.countP (Task.compiles path) = 0)
    (matched : Matched path store (.load path (.publishPolicy lock policy) :: others)) :
    Matched path (store.putPolicy policy) (.load path (.retire lock result) :: others) := by
  have found : (store.putPolicy policy).find? path = some policy := own ▸ Store.put_policy_found store policy
  refine ⟨List.forall_mem_cons.mpr ⟨placed_bare path _ rfl rfl, (List.forall_mem_cons.mp matched.placed).2⟩,
    List.forall_mem_cons.mpr ⟨?_, ?_⟩, ?_, ?_⟩
  · intro compiles
    rw [Task.compiles_load] at compiles
    cases compiles
  · exact fun task inside compiles => absurd compiles (List.countP_eq_zero.mp alone task inside)
  · intro other staged inside
    rcases List.mem_cons.mp inside with same | old
    · cases same
    · exact absurd old (alone_staged path others alone other staged)
  · intro other held m mapped
    cases found.symm.trans held
    exact matched.staged lock policy List.mem_cons_self m mapped

theorem touch_other (h after : Host) (own : Path) (before next : LoadPhase) (touch : Touch own h before next after)
    (placed : before.Placed own) (different : own ≠ path) :
    after.store.find? path = h.store.find? path ∧ after.store.lineMap? path = h.store.lineMap? path := by
  cases touch with
  | mapped lock policy =>
      have here : policy.path = own := placed.policy policy List.mem_cons_self
      exact ⟨rfl, Store.put_line_map_other _ _ _ _ (here ▸ Ne.symm different)⟩
  | entered lock policy =>
      have here : policy.path = own := placed.policy policy List.mem_cons_self
      exact ⟨Store.put_policy_other _ policy path (here ▸ different), rfl⟩
  | none _ _ _ same _ _ _ _ => exact ⟨by rw [same], by rw [same]⟩

theorem move_matched (own : Path) (before after : LoadPhase) (host : Host) (locks : Locks) (others : List Task)
    (move : Move s own c before after host locks)
    (alone : (Task.load own before :: others).countP (Task.compiles path) ≤ 1)
    (matched : Matched path c.host.store (.load own before :: others)) :
    Matched path host.store (.load own after :: others) := by
  have placed : before.Placed own := matched.placed _ List.mem_cons_self
  have next : (Task.load own after).Placed := move_placed s c own before after host locks move placed
  have touch := move_touch s own c before after host locks move
  by_cases mine : own = path
  · subst mine
    have unique (compiling : before.isCompiling = true) : others.countP (Task.compiles own) = 0 := by
      rw [List.countP_cons_of_pos (by rwa [Task.compiles_load])] at alone
      omega
    cases touch with
    | mapped lock policy =>
        exact matched_mapped own _ lock policy others (placed.policy policy List.mem_cons_self) (unique rfl) matched
    | entered lock policy =>
        exact matched_entered own _ lock policy _ others (placed.policy policy List.mem_cons_self) (unique rfl) matched
    | none _ _ _ same _ early late vacant =>
        refine matched_less own _ _ (.load own before) _ others next (Or.inl (by rw [same])) (Or.inl (by rw [same])) ?_
          ((Task.enters_load own after).trans late) matched
        intro compiles
        rw [Task.compiles_load] at compiles
        rcases vacant compiles with compiling | absent
        · exact matched.vacant _ List.mem_cons_self ((Task.compiles_load own before).trans compiling)
        · exact absent
  · obtain ⟨policy, lineMap⟩ := touch_other path c.host host own before after touch placed mine
    refine matched_less path _ _ (.load own before) _ others next (Or.inl policy) (Or.inl lineMap) ?_ ?_ matched
    · simp [Task.compiles, mine]
    · simp [Task.enters, mine]

theorem unload_less (own : Path) (phase : UnloadPhase) (h : Host) :
    ((stepUnload own phase h).2.store.find? path = h.store.find? path ∨
        (stepUnload own phase h).2.store.find? path = none) ∧
      ((stepUnload own phase h).2.store.lineMap? path = h.store.lineMap? path ∨
        (stepUnload own phase h).2.store.lineMap? path = none) := by
  by_cases mine : own = path
  · subst mine
    cases phase with
    | eraseLineMap => exact ⟨Or.inl rfl, Or.inr (Store.erase_line_map_gone _ own)⟩
    | erasePolicy => exact ⟨Or.inr (Store.erase_policy_gone _ own), Or.inl rfl⟩
    | finished found => exact ⟨Or.inl rfl, Or.inl rfl⟩
  · cases phase with
    | eraseLineMap => exact ⟨Or.inl rfl, Or.inl (Store.erase_line_map_other _ own path (Ne.symm mine))⟩
    | erasePolicy => exact ⟨Or.inl (Store.erase_policy_other _ own path mine), Or.inl rfl⟩
    | finished found => exact ⟨Or.inl rfl, Or.inl rfl⟩

theorem clear_less (phase : ClearPhase) (h : Host) :
    ((stepClear phase h).2.store.find? path = h.store.find? path ∨ (stepClear phase h).2.store.find? path = none) ∧
      ((stepClear phase h).2.store.lineMap? path = h.store.lineMap? path ∨
        (stepClear phase h).2.store.lineMap? path = none) := by
  cases phase with
  | clearPolicies => exact ⟨Or.inr rfl, Or.inl rfl⟩
  | clearLineMaps => exact ⟨Or.inl rfl, Or.inr rfl⟩
  | finished => exact ⟨Or.inl rfl, Or.inl rfl⟩

theorem step_matched (i : Nat) (guarded : Guarded c.locks c.tasks) (matched : Matched path c.host.store c.tasks) :
    Matched path (c.step s i).host.store (c.step s i).tasks := by
  refine step_kept s c (fun h _ tasks => Matched path h.store tasks) i (fun h _ => matched_perm path h.store) ?_ ?_ ?_
    matched
  · intro own phase others same mine
    have alone := guarded_alone path _ _ (guarded_perm _ _ _ same guarded)
    exact move_matched s path c own phase _ _ _ others (step_load_move s own c phase) alone mine
  · intro own phase others _ mine
    obtain ⟨policy, lineMap⟩ := unload_less path own phase c.host
    exact matched_less path _ _ _ _ others trivial policy lineMap (fun compiles => nomatch compiles) rfl mine
  · intro phase others _ mine
    obtain ⟨policy, lineMap⟩ := clear_less path phase c.host
    exact matched_less path _ _ _ _ others trivial policy lineMap (fun compiles => nomatch compiles) rfl mine

theorem run_matched (schedule : List (Surroundings × Nat)) (guarded : Guarded c.locks c.tasks)
    (matched : Matched path c.host.store c.tasks) :
    Matched path (c.run schedule).host.store (c.run schedule).tasks := by
  induction schedule generalizing c with
  | nil => exact matched
  | cons turn rest ih =>
      exact ih (c.step turn.1 turn.2) (step_guarded turn.1 c turn.2 guarded)
        (step_matched turn.1 path c turn.2 guarded matched)

theorem start_matched (h : Host) (tasks : List Task) (starting : ∀ task ∈ tasks, task.isStarting = true)
    (known : ∀ policy, h.store.find? path = some policy → ∀ m, h.store.lineMap? path = some m → m = policy.lineMap) :
    Matched path h.store tasks := by
  have quiet (task : Task) (inside : task ∈ tasks) :
      task.Placed ∧ task.compiles path = false ∧ task.enters path = false := by
    have begins := starting task inside
    cases task with
    | load own phase =>
        cases phase with
        | lookup => exact ⟨placed_bare own _ rfl rfl, Bool.and_false _, Bool.and_false _⟩
        | _ => cases begins
    | unload own phase => exact ⟨trivial, rfl, rfl⟩
    | clear phase => exact ⟨trivial, rfl, rfl⟩
  refine ⟨fun task inside => (quiet task inside).1, ?_, ?_, known⟩
  · intro task inside compiles
    exact absurd ((quiet task inside).2.1.symm.trans compiles) Bool.false_ne_true
  · intro lock policy inside
    have unstaged := (quiet _ inside).2.2
    rw [Task.enters_load] at unstaged
    cases unstaged

structure Learned (texts : Path → String → Prop) (store : Store) (tasks : List Task) : Prop where
  stored : ∀ policy ∈ store.policies, texts policy.path policy.source
  pending : ∀ task ∈ tasks, ∀ policy ∈ task.pending, texts policy.path policy.source
  drafted : ∀ task ∈ tasks, ∀ d, task.draft? = some d → texts d.path d.source

section Learning

variable (texts : Path → String → Prop)

theorem learned_perm (store : Store) (tasks others : List Task) (same : tasks.Perm others)
    (learned : Learned texts store tasks) : Learned texts store others :=
  ⟨learned.stored, fun task inside => learned.pending task (same.mem_iff.mpr inside),
    fun task inside => learned.drafted task (same.mem_iff.mpr inside)⟩

theorem learned_next (store after : Store) (task next : Task) (others : List Task)
    (stored : ∀ policy ∈ after.policies, policy ∈ store.policies ∨ policy ∈ task.pending)
    (pending : ∀ policy ∈ next.pending, texts policy.path policy.source)
    (drafted : ∀ d, next.draft? = some d → texts d.path d.source)
    (learned : Learned texts store (task :: others)) : Learned texts after (next :: others) := by
  refine ⟨?_, List.forall_mem_cons.mpr ⟨pending, (List.forall_mem_cons.mp learned.pending).2⟩,
    List.forall_mem_cons.mpr ⟨drafted, (List.forall_mem_cons.mp learned.drafted).2⟩⟩
  intro policy inside
  exact (stored policy inside).elim (learned.stored policy) (learned.pending task List.mem_cons_self policy)

theorem stage_learned (h after : Host) (phase next : LoadPhase) (stage : Stage s path h phase next after)
    (reads : ∀ path text, s.workspace.tree.read path = .ok text → texts path text)
    (pending : ∀ policy ∈ phase.pending, texts policy.path policy.source)
    (drafted : ∀ d, phase.draft? = some d → texts d.path d.source) :
    (∀ policy ∈ next.pending, texts policy.path policy.source) ∧
      ∀ d, next.draft? = some d → texts d.path d.source := by
  have none (policy : Policy) (inside : policy ∈ []) : texts policy.path policy.source := nomatch inside
  cases stage with
  | read lock d held =>
      refine ⟨none, fun other same => ?_⟩
      cases same
      obtain ⟨own, read, _⟩ := drafted_source s path d held
      exact reads d.path d.source (own ▸ read)
  | probed lock d => exact ⟨none, drafted⟩
  | built lock d artifact built => exact ⟨none, drafted⟩
  | instantiated lock d artifact executable loaded =>
      exact ⟨List.forall_mem_singleton.mpr (drafted d rfl), fun other same => nomatch same⟩
  | mapped lock policy => exact ⟨pending, fun other same => nomatch same⟩
  | _ => exact ⟨none, fun other same => nomatch same⟩

theorem move_learned (own : Path) (before after : LoadPhase) (host : Host) (locks : Locks) (others : List Task)
    (move : Move s own c before after host locks)
    (reads : ∀ path text, s.workspace.tree.read path = .ok text → texts path text)
    (learned : Learned texts c.host.store (.load own before :: others)) :
    Learned texts host.store (.load own after :: others) := by
  have pending := learned.pending _ List.mem_cons_self
  have drafted := learned.drafted _ List.mem_cons_self
  have bare (phase : LoadPhase) (made : phase.pending = []) (draft : phase.draft? = none)
      (stored : ∀ policy ∈ host.store.policies, policy ∈ c.host.store.policies ∨ policy ∈ before.pending) :
      Learned texts host.store (.load own phase :: others) := by
    refine learned_next texts _ _ (.load own before) _ others stored ?_ ?_ learned
    · rw [Task.pending, made]
      exact fun policy inside => nomatch inside
    · rw [Task.draft?, draft]
      exact fun d same => nomatch same
  cases move with
  | compiled _ _ _ stage =>
      have same := stage_policies s own c.host host before after stage
      obtain ⟨made, read⟩ := stage_learned s own texts c.host host before after stage reads pending drafted
      exact learned_next texts _ _ (.load own before) _ others (fun policy inside => Or.inl (same ▸ inside)) made read
        learned
  | entered lock policy =>
      refine bare _ rfl rfl fun other inside => ?_
      exact (List.mem_append.mp inside).imp_left List.mem_of_mem_filter
  | _ => exact bare _ rfl rfl fun policy inside => Or.inl inside

theorem step_learned (i : Nat) (reads : ∀ path text, s.workspace.tree.read path = .ok text → texts path text)
    (learned : Learned texts c.host.store c.tasks) :
    Learned texts (c.step s i).host.store (c.step s i).tasks := by
  have bare (task : Task) (none : task.pending = []) (policy : Policy) (inside : policy ∈ task.pending) :
      texts policy.path policy.source := by
    rw [none] at inside
    cases inside
  refine step_kept s c (fun h _ tasks => Learned texts h.store tasks) i (fun h _ => learned_perm texts h.store) ?_ ?_ ?_
    learned
  · intro own phase others _ mine
    exact move_learned s c texts own phase _ _ _ others (step_load_move s own c phase) reads mine
  · intro own phase others _ mine
    refine learned_next texts _ _ _ _ others (fun policy inside => Or.inl ?_) (bare _ rfl) (fun d same => nomatch same)
      mine
    cases phase with
    | erasePolicy => exact List.mem_of_mem_filter inside
    | _ => exact inside
  · intro phase others _ mine
    refine learned_next texts _ _ _ _ others (fun policy inside => Or.inl ?_) (bare _ rfl) (fun d same => nomatch same)
      mine
    cases phase with
    | clearPolicies => cases inside
    | _ => exact inside

theorem run_learned (schedule : List (Surroundings × Nat))
    (reads : ∀ turn ∈ schedule, ∀ path text, turn.1.workspace.tree.read path = .ok text → texts path text)
    (learned : Learned texts c.host.store c.tasks) :
    Learned texts (c.run schedule).host.store (c.run schedule).tasks := by
  induction schedule generalizing c with
  | nil => exact learned
  | cons turn rest ih =>
      obtain ⟨here, later⟩ := List.forall_mem_cons.mp reads
      exact ih (c.step turn.1 turn.2) later (step_learned turn.1 c texts turn.2 here learned)

end Learning

-- A policy after a run has its source from a policy that was there before it, or from what a step read at its path.
theorem run_read (h : Host) (tasks : List Task) (schedule : List (Surroundings × Nat))
    (starting : ∀ task ∈ tasks, task.isStarting = true) (policy : Policy)
    (loaded : policy ∈ ((start h tasks).run schedule).host.store.policies) :
    (∃ old ∈ h.store.policies, old.path = policy.path ∧ old.source = policy.source) ∨
      ∃ turn ∈ schedule, turn.1.workspace.tree.read policy.path = .ok policy.source := by
  let texts (path : Path) (text : String) : Prop :=
    (∃ old ∈ h.store.policies, old.path = path ∧ old.source = text) ∨
      ∃ turn ∈ schedule, turn.1.workspace.tree.read path = .ok text
  have first : Learned texts (start h tasks).host.store (start h tasks).tasks := by
    refine ⟨fun old inside => Or.inl ⟨old, inside, rfl, rfl⟩, ?_, ?_⟩
    · intro task inside policy made
      rw [(Task.starting_bare task (starting task inside)).1] at made
      cases made
    · intro task inside d read
      rw [(Task.starting_bare task (starting task inside)).2] at read
      cases read
  exact (run_learned (start h tasks) texts schedule (fun turn inside path text read => Or.inr ⟨turn, inside, read⟩)
    first).stored policy loaded

end Crowd

end PolicyHost.Host
