import PolicyHost.Proofs.Exclusion

set_option autoImplicit false

namespace PolicyHost

namespace Store

variable (s : Store)

theorem put_policy_other (policy : Policy) (path : Path) (different : policy.path ≠ path) :
    (s.putPolicy policy).find? path = s.find? path := by
  have kept : (s.policies.filter fun p => p.path ≠ policy.path).find? (fun p => p.path = path) =
      s.policies.find? fun p => p.path = path := by
    rw [List.find?_filter]
    refine congrArg (fun test => s.policies.find? test) (funext fun p => ?_)
    by_cases same : p.path = path
    · simp [same, Ne.symm different]
    · simp [same]
  have last : [policy].find? (fun p => p.path = path) = none := by simp [different]
  rw [find?, putPolicy, List.find?_append, kept, last, Option.or_none, find?]

theorem erase_policy_other (path other : Path) (different : path ≠ other) :
    (s.erasePolicy path).find? other = s.find? other := by
  rw [find?, erasePolicy, List.find?_filter]
  refine congrArg (fun test => s.policies.find? test) (funext fun p => ?_)
  by_cases same : p.path = other
  · simp [same, Ne.symm different]
  · simp [same]

end Store

namespace Host

def isFresh : LoadResult → Bool
  | .ok outcome => !outcome.cached
  | .error _ => false

namespace LoadPhase

def isPublishing : LoadPhase → Bool
  | publishPolicy _ _ => true
  | _ => false

structure Placed (path : Path) (phase : LoadPhase) : Prop where
  draft : ∀ d, phase.draft? = some d → d.path = path
  policy : ∀ p ∈ phase.pending, p.path = path

def result? : LoadPhase → Option LoadResult
  | retire _ result => some result
  | release _ result => some result
  | drop _ result => some result
  | finished result => some result
  | _ => none

end LoadPhase

namespace Task

def settled? (path : Path) : Task → Option LoadResult
  | load own phase => if own = path then phase.result? else none
  | _ => none

def isNew (path : Path) (task : Task) : Bool := (task.settled? path).any isFresh

def enters (path : Path) : Task → Bool
  | load own phase => own = path && phase.isPublishing
  | _ => false

def reported? (path : Path) : Task → Option LoadResult
  | load own (.finished result) => if own = path then some result else none
  | _ => none

def spares (path : Path) : Task → Bool
  | load _ _ => true
  | unload own _ => own ≠ path
  | clear _ => false

def Placed : Task → Prop
  | load path phase => phase.Placed path
  | _ => True

end Task

namespace Crowd

variable (s : Surroundings) (path : Path) (c : Crowd)

def successes (c : Crowd) : List (Surroundings × Nat) → Nat
  | [] => 0
  | turn :: rest => (c.tasks[turn.2]?.any (Task.enters path)).toNat + successes (c.step turn.1 turn.2) rest

-- What the store and the tasks have to do with the policies that were entered for a path.
structure Once (store : Store) (tasks : List Task) (entered : Nat) : Prop where
  absent : ∀ task ∈ tasks, task.compiles path = true → store.find? path = none
  told : ∀ task ∈ tasks, ∀ outcome, task.settled? path = some (.ok outcome) →
    (store.find? path).map (fun policy => policy.outcome outcome.cached) = some outcome
  new : tasks.countP (Task.isNew path) = entered
  single : entered ≤ 1
  present : 0 < entered → store.find? path ≠ none

theorem once_perm (store : Store) (tasks others : List Task) (entered : Nat) (same : tasks.Perm others)
    (once : Once path store tasks entered) : Once path store others entered := by
  refine ⟨?_, ?_, same.countP_eq _ ▸ once.new, once.single, once.present⟩
  · exact fun task inside => once.absent task (same.mem_iff.mpr inside)
  · exact fun task inside => once.told task (same.mem_iff.mpr inside)

theorem once_still (store after : Store) (task next : Task) (others : List Task) (entered : Nat)
    (same : after.find? path = store.find? path)
    (absent : next.compiles path = true → store.find? path = none)
    (told : ∀ outcome, next.settled? path = some (.ok outcome) →
      (store.find? path).map (fun policy => policy.outcome outcome.cached) = some outcome)
    (new : next.isNew path = task.isNew path)
    (once : Once path store (task :: others) entered) : Once path after (next :: others) entered := by
  obtain ⟨_, others_absent⟩ := List.forall_mem_cons.mp once.absent
  obtain ⟨_, others_told⟩ := List.forall_mem_cons.mp once.told
  refine ⟨?_, ?_, ?_, once.single, ?_⟩
  · rw [same]
    exact List.forall_mem_cons.mpr ⟨absent, others_absent⟩
  · rw [same]
    exact List.forall_mem_cons.mpr ⟨told, others_told⟩
  · rw [← once.new, List.countP_cons, List.countP_cons, new]
  · rw [same]
    exact once.present

theorem once_entered (store : Store) (lock : Lock) (policy : Policy) (others : List Task) (entered : Nat)
    (own : policy.path = path) (alone : others.countP (Task.compiles path) = 0)
    (once : Once path store (.load path (.publishPolicy lock policy) :: others) entered) :
    Once path (store.putPolicy policy) (.load path (.retire lock (.ok (policy.outcome false))) :: others)
      (entered + 1) := by
  obtain ⟨mine, _⟩ := List.forall_mem_cons.mp once.absent
  obtain ⟨_, others_told⟩ := List.forall_mem_cons.mp once.told
  have absent : store.find? path = none := mine (by simp [Task.compiles, LoadPhase.isCompiling])
  have none : entered = 0 := by
    by_contra some
    exact once.present (Nat.pos_of_ne_zero some) absent
  have found : (store.putPolicy policy).find? path = some policy := own ▸ Store.put_policy_found store policy
  refine ⟨List.forall_mem_cons.mpr ⟨?_, ?_⟩, List.forall_mem_cons.mpr ⟨?_, ?_⟩, ?_, by omega, by simp [found]⟩
  · simp [Task.compiles, LoadPhase.isCompiling]
  · intro task inside compiles
    exact absurd compiles (List.countP_eq_zero.mp alone task inside)
  · intro outcome told
    have same : policy.outcome false = outcome := by simpa [Task.settled?, LoadPhase.result?] using told
    rw [found, ← same]
    rfl
  · intro task inside outcome told
    have known := others_told task inside outcome told
    rw [absent] at known
    cases known
  · have before := once.new
    have silent : ¬ (Task.load path (.publishPolicy lock policy)).isNew path = true := by
      simp [Task.isNew, Task.settled?, LoadPhase.result?]
    have new : (Task.load path (.retire lock (.ok (policy.outcome false)))).isNew path = true := by
      simp [Task.isNew, Task.settled?, LoadPhase.result?, isFresh, Policy.outcome]
    rw [List.countP_cons_of_neg silent] at before
    rw [List.countP_cons_of_pos new, before]

theorem stage_policies (h after : Host) (phase next : LoadPhase) (stage : Stage s path h phase next after) :
    after.store.policies = h.store.policies := by
  cases stage with
  | probed lock d => rw [probe_store]
  | _ => rfl

theorem stage_unsettled (h after : Host) (phase next : LoadPhase) (stage : Stage s path h phase next after) :
    phase.isCompiling = true ∧ phase.isPublishing = false ∧ phase.result? = none ∧
      ∀ result, next.result? = some result → ∃ failure, result = .error failure := by
  cases stage with
  | unread lock failure bad => exact ⟨rfl, rfl, rfl, fun _ same => ⟨failure, (Option.some.inj same).symm⟩⟩
  | unbuilt lock d failure bad => exact ⟨rfl, rfl, rfl, fun _ same => ⟨failure, (Option.some.inj same).symm⟩⟩
  | refused lock d artifact fault bad => exact ⟨rfl, rfl, rfl, fun _ same => ⟨_, (Option.some.inj same).symm⟩⟩
  | _ =>
      refine ⟨rfl, rfl, rfl, ?_⟩
      rintro result ⟨⟩

theorem placed_bare (own : Path) (phase : LoadPhase) (draft : phase.draft? = none) (policy : phase.pending = []) :
    phase.Placed own := by
  constructor
  · simp [draft]
  · simp [policy]

theorem stage_placed (own : Path) (h after : Host) (phase next : LoadPhase) (stage : Stage s own h phase next after)
    (placed : phase.Placed own) : next.Placed own := by
  cases stage with
  | read lock d drafted =>
      refine ⟨?_, by simp [LoadPhase.pending]⟩
      rintro other ⟨⟩
      exact (drafted_source s own d drafted).1
  | instantiated lock d artifact executable loaded =>
      exact ⟨by simp [LoadPhase.draft?], List.forall_mem_singleton.mpr (placed.draft d rfl)⟩
  | probed lock d => exact ⟨placed.draft, placed.policy⟩
  | built lock d artifact built => exact ⟨placed.draft, placed.policy⟩
  | mapped lock policy => exact ⟨placed.draft, placed.policy⟩
  | _ => exact placed_bare own _ rfl rfl

theorem move_placed (own : Path) (before after : LoadPhase) (host : Host) (locks : Locks)
    (move : Move s own c before after host locks) (placed : before.Placed own) : after.Placed own := by
  cases move with
  | compiled _ _ _ stage => exact stage_placed s own c.host host before after stage placed
  | _ => exact placed_bare own _ rfl rfl

theorem move_other (own : Path) (before after : LoadPhase) (host : Host) (locks : Locks)
    (move : Move s own c before after host locks) (placed : before.Placed own) (different : own ≠ path) :
    host.store.find? path = c.host.store.find? path := by
  cases move with
  | compiled _ _ _ stage => rw [Store.find?, stage_policies s own c.host host before after stage, Store.find?]
  | entered lock policy =>
      have here : policy.path = own := placed.policy policy List.mem_cons_self
      exact Store.put_policy_other c.host.store policy path (here ▸ different)
  | _ => rfl

theorem other_once (own : Path) (before after : LoadPhase) (host : Host) (locks : Locks) (others : List Task)
    (entered : Nat) (move : Move s own c before after host locks) (placed : before.Placed own)
    (different : own ≠ path)
    (once : Once path c.host.store (.load own before :: others) entered) :
    Once path host.store (.load own after :: others) entered := by
  have silent (phase : LoadPhase) : (Task.load own phase).settled? path = none := if_neg different
  have same := move_other s path c own before after host locks move placed different
  refine once_still path _ _ _ _ others entered same ?_ ?_ ?_ once
  · simp [Task.compiles, different]
  · rw [silent after]
    rintro outcome ⟨⟩
  · rw [Task.isNew, Task.isNew, silent after, silent before]

-- A load of the path itself. Where it enters its policy nobody else compiles.
theorem own_once (before after : LoadPhase) (host : Host) (locks : Locks) (others : List Task) (entered : Nat)
    (move : Move s path c before after host locks) (placed : before.Placed path)
    (alone : (Task.load path before :: others).countP (Task.compiles path) ≤ 1)
    (once : Once path c.host.store (.load path before :: others) entered) :
    Once path host.store (.load path after :: others) (entered + before.isPublishing.toNat) := by
  have settled (phase : LoadPhase) : (Task.load path phase).settled? path = phase.result? := if_pos rfl
  have compiles (phase : LoadPhase) : (Task.load path phase).compiles path = phase.isCompiling := by
    simp [Task.compiles]
  have absent := (List.forall_mem_cons.mp once.absent).1
  have told := (List.forall_mem_cons.mp once.told).1
  rw [compiles] at absent
  rw [settled] at told
  have still (phase : LoadPhase) (same : host.store.find? path = c.host.store.find? path)
      (absent : phase.isCompiling = true → c.host.store.find? path = none)
      (told : ∀ outcome, phase.result? = some (.ok outcome) →
        (c.host.store.find? path).map (fun policy => policy.outcome outcome.cached) = some outcome)
      (new : phase.result?.any isFresh = before.result?.any isFresh) :
      Once path host.store (.load path phase :: others) entered := by
    refine once_still path _ _ _ _ others entered same ?_ ?_ ?_ once
    · rwa [compiles]
    · rwa [settled]
    · rwa [Task.isNew, Task.isNew, settled, settled]
  have stored (policy : Policy) (found : c.host.store.find? path = some policy) (outcome : LoadOutcome)
      (same : some (Except.ok (policy.outcome true)) = some (Except.ok (ε := Failure) outcome)) :
      (c.host.store.find? path).map (fun policy => policy.outcome outcome.cached) = some outcome := by
    cases same
    rw [found]
    rfl
  have idle (phase : LoadPhase) (rests : phase.isCompiling = false) (compiling : phase.isCompiling = true) :
      c.host.store.find? path = none := by
    rw [rests] at compiling
    cases compiling
  have silent (phase : LoadPhase) (none : phase.result? = none) (outcome : LoadOutcome)
      (settled : phase.result? = some (.ok outcome)) :
      (c.host.store.find? path).map (fun policy => policy.outcome outcome.cached) = some outcome := by
    rw [none] at settled
    cases settled
  cases move with
  | hit policy found => exact still _ rfl (idle _ rfl) (stored policy found) rfl
  | missed none => exact still _ rfl (idle _ rfl) (silent _ rfl) rfl
  | fetched => exact still _ rfl (idle _ rfl) (silent _ rfl) rfl
  | waited lock taken => exact once
  | acquired lock free => exact still _ rfl (idle _ rfl) (silent _ rfl) rfl
  | found lock policy found => exact still _ rfl (idle _ rfl) (stored policy found) rfl
  | absent lock none => exact still _ rfl (fun _ => none) (silent _ rfl) rfl
  | compiled _ _ _ stage =>
      obtain ⟨compiling, early, unsettled, failing⟩ := stage_unsettled s path c.host host before after stage
      have unmoved := stage_policies s path c.host host before after stage
      have stale : after.result?.any isFresh = false := by
        cases result : after.result? with
        | none => rfl
        | some known =>
            obtain ⟨failure, rfl⟩ := failing known result
            rfl
      rw [early]
      refine still after ?_ (fun _ => absent compiling) ?_ ?_
      · rw [Store.find?, unmoved, Store.find?]
      · intro outcome settled
        obtain ⟨failure, same⟩ := failing _ settled
        cases same
      · rw [stale, unsettled]
        rfl
  | entered lock policy =>
      have here : policy.path = path := placed.policy policy List.mem_cons_self
      refine once_entered path c.host.store lock policy others entered here ?_ once
      rw [List.countP_cons_of_pos (by simp [Task.compiles, LoadPhase.isCompiling])] at alone
      omega
  | retired lock result => exact still _ rfl (idle _ rfl) told rfl
  | released lock result => exact still _ rfl (idle _ rfl) told rfl
  | dropped lock result => exact still _ rfl (idle _ rfl) told rfl
  | rested result => exact once

-- All that holds at every moment of a run in which nobody removes the policy of the path.
structure Undisturbed (c : Crowd) (entered : Nat) : Prop where
  guarded : Guarded c.locks c.tasks
  placed : ∀ task ∈ c.tasks, task.Placed
  spared : ∀ task ∈ c.tasks, task.spares path = true
  once : Once path c.host.store c.tasks entered

theorem set_undisturbed (i entered more : Nat) (task next : Task) (after : Host) (locks : Locks)
    (held : c.tasks[i]? = some task) (guarded : Guarded locks (c.tasks.set i next))
    (placed : task.Placed → next.Placed) (spared : next.spares path = true)
    (once : ∀ others, c.tasks.Perm (task :: others) → Once path c.host.store (task :: others) entered →
      Once path after.store (next :: others) (entered + more))
    (undisturbed : Undisturbed path c entered) :
    Undisturbed path ⟨after, locks, c.tasks.set i next⟩ (entered + more) := by
  obtain ⟨others, same, changed⟩ := set_perm c.tasks i task held
  have inside (other : Task) (kept : other ∈ others) : other ∈ c.tasks :=
    same.mem_iff.mpr (List.mem_cons_of_mem _ kept)
  refine ⟨guarded, ?_, ?_, ?_⟩
  · intro other kept
    rcases List.mem_cons.mp ((changed next).mem_iff.mp kept) with rfl | kept
    · exact placed (undisturbed.placed task (List.mem_of_getElem? held))
    · exact undisturbed.placed other (inside other kept)
  · intro other kept
    rcases List.mem_cons.mp ((changed next).mem_iff.mp kept) with rfl | kept
    · exact spared
    · exact undisturbed.spared other (inside other kept)
  · exact once_perm path _ _ _ _ (changed next).symm (once others same (once_perm path _ _ _ _ same undisturbed.once))

theorem step_undisturbed (i entered : Nat) (undisturbed : Undisturbed path c entered) :
    Undisturbed path (c.step s i) (entered + (c.tasks[i]?.any (Task.enters path)).toNat) := by
  have guarded := step_guarded s c i undisturbed.guarded
  unfold step at guarded ⊢
  cases held : c.tasks[i]? with
  | none => exact undisturbed
  | some task =>
      have inside := List.mem_of_getElem? held
      simp only [held] at guarded
      cases task with
      | load own phase =>
          have move := step_load_move s own c phase
          have placed := undisturbed.placed _ inside
          refine set_undisturbed path c i entered _ _ _ _ _ held guarded (move_placed s c own phase _ _ _ move) rfl ?_
            undisturbed
          intro others same once
          by_cases mine : own = path
          · subst mine
            have alone := guarded_alone own _ _ (guarded_perm _ _ _ same undisturbed.guarded)
            have entering : (some (Task.load own phase)).any (Task.enters own) = phase.isPublishing := by
              simp [Task.enters]
            rw [entering]
            exact own_once s own c phase _ _ _ others entered move placed alone once
          · have entering : (some (Task.load own phase)).any (Task.enters path) = false := by
              simp [Task.enters, mine]
            rw [entering]
            exact other_once s path c own phase _ _ _ others entered move placed mine once
      | unload own phase =>
          have different : own ≠ path := of_decide_eq_true (undisturbed.spared _ inside)
          refine set_undisturbed path c i entered _ _ (.unload own (stepUnload own phase c.host).1) _ _ held guarded
            (fun _ => trivial) (decide_eq_true different) ?_ undisturbed
          intro others same once
          refine once_still path c.host.store _ (.unload own phase) _ others entered ?_ ?_ ?_ rfl once
          · cases phase with
            | eraseLineMap => rfl
            | erasePolicy => exact Store.erase_policy_other c.host.store own path different
            | finished found => rfl
          · simp [Task.compiles]
          · simp [Task.settled?]
      | clear phase => cases undisturbed.spared _ inside

theorem run_undisturbed (schedule : List (Surroundings × Nat)) (entered : Nat)
    (undisturbed : Undisturbed path c entered) :
    Undisturbed path (c.run schedule) (entered + successes path c schedule) := by
  induction schedule generalizing c entered with
  | nil => exact undisturbed
  | cons turn rest ih =>
      have next := ih (c.step turn.1 turn.2) _ (step_undisturbed turn.1 path c turn.2 entered undisturbed)
      rwa [Nat.add_assoc] at next

theorem start_undisturbed (h : Host) (tasks : List Task) (starting : ∀ task ∈ tasks, task.isStarting = true)
    (spared : ∀ task ∈ tasks, task.spares path = true) : Undisturbed path (start h tasks) 0 := by
  have quiet (task : Task) (inside : task ∈ tasks) :
      task.Placed ∧ task.compiles path = false ∧ task.settled? path = none := by
    have begins := starting task inside
    cases task with
    | load own phase =>
        cases phase with
        | lookup =>
            refine ⟨placed_bare own _ rfl rfl, ?_, ?_⟩
            · simp [Task.compiles, LoadPhase.isCompiling]
            · simp [Task.settled?, LoadPhase.result?]
        | _ => cases begins
    | unload own phase => exact ⟨trivial, rfl, rfl⟩
    | clear phase => exact ⟨trivial, rfl, rfl⟩
  refine ⟨start_guarded _ tasks starting, fun task inside => (quiet task inside).1, spared,
    ?_, ?_, ?_, Nat.zero_le 1, fun some => absurd some (Nat.lt_irrefl 0)⟩
  · intro task inside compiles
    rw [(quiet task inside).2.1] at compiles
    cases compiles
  · intro task inside outcome told
    rw [(quiet task inside).2.2] at told
    cases told
  · refine List.countP_eq_zero.mpr fun task inside => ?_
    rw [Task.isNew, (quiet task inside).2.2]
    exact Bool.false_ne_true

structure LoadedOnce (c : Crowd) (entered : Nat) : Prop where
  compiling : c.tasks.countP (Task.compiles path) ≤ 1
  single : entered ≤ 1
  told : ∀ outcome, .ok outcome ∈ c.tasks.filterMap (Task.reported? path) →
    (c.host.store.find? path).map (fun policy => policy.outcome outcome.cached) = some outcome
  alike : ∀ outcome other, .ok outcome ∈ c.tasks.filterMap (Task.reported? path) →
    .ok other ∈ c.tasks.filterMap (Task.reported? path) → { other with cached := outcome.cached } = outcome
  fresh : (c.tasks.filterMap (Task.reported? path)).countP isFresh ≤ entered
  complete : (∀ phase, .load path phase ∈ c.tasks → (Task.load path phase).isFinished = true) →
    (c.tasks.filterMap (Task.reported? path)).countP isFresh = entered

theorem reported_settled (task : Task) (result : LoadResult) (reported : task.reported? path = some result) :
    task.settled? path = some result := by
  cases task with
  | load own phase => cases phase <;> first | exact reported | cases reported
  | unload own phase => cases reported
  | clear phase => cases reported

theorem finished_reported (task : Task) (finished : ∀ phase, task = .load path phase → task.isFinished = true) :
    task.reported? path = task.settled? path := by
  cases task with
  | load own phase =>
      by_cases mine : own = path
      · have returned := finished phase (mine ▸ rfl)
        cases phase <;> first | rfl | cases returned
      · cases phase <;> simp [Task.reported?, Task.settled?, mine]
  | unload own phase => rfl
  | clear phase => rfl

theorem loaded_once (h : Host) (path : Path) (tasks : List Task) (schedule : List (Surroundings × Nat))
    (starting : ∀ task ∈ tasks, task.isStarting = true) (spared : ∀ task ∈ tasks, task.spares path = true) :
    LoadedOnce path ((start h tasks).run schedule) (successes path (start h tasks) schedule) := by
  have final := run_undisturbed path (start h tasks) schedule 0 (start_undisturbed path h tasks starting spared)
  rw [Nat.zero_add] at final
  have told (outcome : LoadOutcome)
      (reported : .ok outcome ∈ ((start h tasks).run schedule).tasks.filterMap (Task.reported? path)) :
      (((start h tasks).run schedule).host.store.find? path).map (fun policy => policy.outcome outcome.cached) =
        some outcome := by
    obtain ⟨task, inside, told⟩ := List.mem_filterMap.mp reported
    exact final.once.told task inside outcome (reported_settled path task _ told)
  refine ⟨compiling_alone h path tasks schedule starting, final.once.single, told, ?_, ?_, ?_⟩
  · intro outcome other reported others
    obtain ⟨policy, found, same⟩ := Option.map_eq_some_iff.mp (told outcome reported)
    obtain ⟨_, again, alike⟩ := Option.map_eq_some_iff.mp (told other others)
    cases found.symm.trans again
    rw [← alike, ← same]
    rfl
  · rw [← final.once.new, List.countP_filterMap]
    refine List.countP_mono_left fun task inside new => ?_
    cases reported : task.reported? path with
    | none =>
        rw [reported] at new
        cases new
    | some result =>
        rw [reported] at new
        rw [Task.isNew, reported_settled path task result reported]
        exact new
  · intro finished
    rw [← final.once.new, List.countP_filterMap]
    refine List.countP_congr fun task inside => ?_
    have returned (phase : LoadPhase) (same : task = .load path phase) : task.isFinished = true := by
      subst same
      exact finished phase inside
    rw [Task.isNew, finished_reported path task returned]
    cases task.settled? path <;> exact Iff.rfl

-- Three loads of one path and an unload of another. The first compilation finds no file, the load that waited for it
-- compiles in its turn, and the one that waited for both finds the policy.
def gathering : List Task :=
  [.load ⟨true, ["srv", "a.rego"]⟩ .lookup, .load ⟨true, ["srv", "a.rego"]⟩ .lookup,
   .load ⟨true, ["srv", "a.rego"]⟩ .lookup, .unload ⟨true, ["srv", "b.rego"]⟩ .eraseLineMap]

def gatheringSchedule : List (Surroundings × Nat) :=
  let gone := permissive { nodes := [(["srv"], .directory)] } ["srv"]
  let full := permissive twoPolicies ["srv"]
  [0, 0, 0, 0, 1, 1, 1, 0, 1, 0, 0, 1, 0].map (fun i => (gone, i)) ++
    [3, 1, 1, 1, 2, 2, 2, 1, 2, 1, 1, 1, 1, 1, 1, 2, 2, 2, 2, 2, 3].map fun i => (full, i)

theorem loaded_once_after_failure :
    (∀ task ∈ gathering, task.isStarting = true) ∧
      (∀ task ∈ gathering, task.spares ⟨true, ["srv", "a.rego"]⟩ = true) ∧
      (∀ task ∈ ((start idle gathering).run gatheringSchedule).tasks, task.isFinished = true) ∧
      (((start idle gathering).run gatheringSchedule).tasks.filterMap (Task.reported? ⟨true, ["srv", "a.rego"]⟩)).map
        Except.isOk = [false, true, true] ∧
      successes ⟨true, ["srv", "a.rego"]⟩ (start idle gathering) gatheringSchedule = 1 ∧
      LoadedOnce ⟨true, ["srv", "a.rego"]⟩ ((start idle gathering).run gatheringSchedule)
        (successes ⟨true, ["srv", "a.rego"]⟩ (start idle gathering) gatheringSchedule) :=
  ⟨by decide, by decide, by decide +kernel, by decide +kernel, by decide +kernel,
    loaded_once idle ⟨true, ["srv", "a.rego"]⟩ gathering gatheringSchedule (by decide) (by decide)⟩

end Crowd

end Host

end PolicyHost
