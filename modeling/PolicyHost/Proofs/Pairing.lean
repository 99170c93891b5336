import Mathlib.Data.List.Infix
import PolicyHost.Proofs.Matching

/-!
Policies and their line maps stand in two tables, and whatever enters or removes both does so in two steps. Where a load
that is between its two steps meets a removal that is between its own, one of the two may be left without the other. How
the tables end is a matter of what was done last to each of them; where no load and no removal ever meet so, they end
alike.
-/

set_option autoImplicit false

namespace PolicyHost

def Store.Paired (s : Store) (path : Path) : Prop :=
  s.lineMap? path = (s.find? path).map fun policy => LineMap.ofSource policy.source

namespace Host

namespace Task

-- Whether the next step of a task puts in what the line map table has of the path, or takes it out.
def remaps? (path : Path) : Task → Option Bool
  | load own phase => if own = path ∧ phase.isMapping = true then some true else none
  | unload own .eraseLineMap => if own = path then some false else none
  | clear .clearLineMaps => some false
  | _ => none

def reenters? (path : Path) : Task → Option Bool
  | load own phase => if own = path ∧ phase.isPublishing = true then some true else none
  | unload own .erasePolicy => if own = path then some false else none
  | clear .clearPolicies => some false
  | _ => none

def erases (path : Path) : Task → Bool
  | unload own .erasePolicy => own = path
  | _ => false

def clears : Task → Bool
  | clear .clearLineMaps => true
  | _ => false

def halfway (path : Path) (task : Task) : Bool := task.enters path || task.erases path || task.clears

theorem halfway_none (path : Path) (task : Task) :
    task.halfway path = false ↔ task.enters path = false ∧ task.erases path = false ∧ task.clears = false := by
  rw [halfway, Bool.or_eq_false_iff, Bool.or_eq_false_iff, and_assoc]

end Task

namespace Crowd

variable (s : Surroundings) (path : Path) (c : Crowd)

def lastChange (change : Task → Option Bool) (c : Crowd) (now : Bool) : List (Surroundings × Nat) → Bool
  | [] => now
  | turn :: rest =>
      lastChange change (c.step turn.1 turn.2) (((c.tasks[turn.2]?).bind change).getD now) rest

def overlaps (tasks : List Task) : Bool :=
  tasks.any (Task.enters path) && tasks.any fun task => task.erases path || task.clears

theorem overlaps_perm (tasks others : List Task) (same : tasks.Perm others) :
    overlaps path tasks = overlaps path others := by
  rw [overlaps, overlaps, same.any_eq, same.any_eq]

theorem apart_entering (task : Task) (others : List Task) (apart : overlaps path (task :: others) = false)
    (enters : task.enters path = true) : ∀ other ∈ others, other.erases path = false ∧ other.clears = false := by
  rcases Bool.and_eq_false_iff.mp apart with still | still
  · rw [List.any_cons, enters] at still
    cases still
  · intro other inside
    have spared := List.any_eq_false.mp still other (List.mem_cons_of_mem _ inside)
    simpa using spared

theorem apart_removing (task : Task) (others : List Task) (apart : overlaps path (task :: others) = false)
    (removes : task.erases path = true ∨ task.clears = true) : ∀ other ∈ others, other.enters path = false := by
  rcases Bool.and_eq_false_iff.mp apart with still | still
  · intro other inside
    simpa using List.any_eq_false.mp still other (List.mem_cons_of_mem _ inside)
  · rw [List.any_cons, Bool.or_eq_true .. |>.mpr removes] at still
    cases still

-- What the tables hold of a path while tasks are halfway through what they do to it, and while none is.
structure Aligned (store : Store) (tasks : List Task) : Prop where
  entering : ∀ task ∈ tasks, task.enters path = true → (store.lineMap? path).isSome = true
  erasing : ∀ task ∈ tasks, task.erases path = true → store.lineMap? path = none
  clearing : ∀ task ∈ tasks, task.clears = true → store.find? path = none
  level : (∀ task ∈ tasks, task.halfway path = false) → (store.lineMap? path).isSome = (store.find? path).isSome

theorem aligned_perm (store : Store) (tasks others : List Task) (same : tasks.Perm others)
    (aligned : Aligned path store tasks) : Aligned path store others :=
  ⟨fun task inside => aligned.entering task (same.mem_iff.mpr inside),
    fun task inside => aligned.erasing task (same.mem_iff.mpr inside),
    fun task inside => aligned.clearing task (same.mem_iff.mpr inside),
    fun idle => aligned.level fun task inside => idle task (same.mem_iff.mp inside)⟩

-- A step that leaves what the tables hold of the path, by a task that is not halfway before or after it.
theorem aligned_still (store after : Store) (task next : Task) (others : List Task)
    (policy : after.find? path = store.find? path) (lineMap : after.lineMap? path = store.lineMap? path)
    (idle : task.halfway path = false) (rests : next.halfway path = false)
    (aligned : Aligned path store (task :: others)) : Aligned path after (next :: others) := by
  obtain ⟨_, entering⟩ := List.forall_mem_cons.mp aligned.entering
  obtain ⟨_, erasing⟩ := List.forall_mem_cons.mp aligned.erasing
  obtain ⟨_, clearing⟩ := List.forall_mem_cons.mp aligned.clearing
  obtain ⟨enters, erases, clears⟩ := (Task.halfway_none path next).mp rests
  refine ⟨?_, ?_, ?_, ?_⟩
  · rw [lineMap]
    exact List.forall_mem_cons.mpr ⟨fun entering => absurd (enters.symm.trans entering) Bool.false_ne_true, entering⟩
  · rw [lineMap]
    exact List.forall_mem_cons.mpr ⟨fun erasing => absurd (erases.symm.trans erasing) Bool.false_ne_true, erasing⟩
  · rw [policy]
    exact List.forall_mem_cons.mpr ⟨fun clearing => absurd (clears.symm.trans clearing) Bool.false_ne_true, clearing⟩
  · intro all
    rw [lineMap, policy]
    exact aligned.level (List.forall_mem_cons.mpr ⟨idle, (List.forall_mem_cons.mp all).2⟩)

theorem aligned_mapped (store : Store) (lock : Lock) (policy : Policy) (others : List Task) (own : policy.path = path)
    (apart : overlaps path (.load path (.publishPolicy lock policy) :: others) = false) :
    Aligned path (store.putLineMap policy.path policy.lineMap) (.load path (.publishPolicy lock policy) :: others) := by
  have found : (store.putLineMap policy.path policy.lineMap).lineMap? path = some policy.lineMap :=
    own ▸ Store.put_line_map_found store policy.path policy.lineMap
  have enters : (Task.load path (.publishPolicy lock policy)).enters path = true := Task.enters_load path _
  have spared := apart_entering path _ others apart enters
  refine ⟨?_, ?_, ?_, ?_⟩
  · intro _ _ _
    rw [found]
    rfl
  · refine List.forall_mem_cons.mpr ⟨fun erasing => Bool.noConfusion erasing, fun other inside erasing => ?_⟩
    exact absurd ((spared other inside).1.symm.trans erasing) Bool.false_ne_true
  · refine List.forall_mem_cons.mpr ⟨fun clearing => Bool.noConfusion clearing, fun other inside clearing => ?_⟩
    exact absurd ((spared other inside).2.symm.trans clearing) Bool.false_ne_true
  · intro idle
    have rests := ((Task.halfway_none path _).mp (idle _ List.mem_cons_self)).1
    exact absurd (rests.symm.trans enters) Bool.false_ne_true

theorem aligned_entered (store : Store) (lock : Lock) (policy : Policy) (result : LoadResult) (others : List Task)
    (own : policy.path = path) (apart : overlaps path (.load path (.publishPolicy lock policy) :: others) = false)
    (aligned : Aligned path store (.load path (.publishPolicy lock policy) :: others)) :
    Aligned path (store.putPolicy policy) (.load path (.retire lock result) :: others) := by
  have found : (store.putPolicy policy).find? path = some policy := own ▸ Store.put_policy_found store policy
  have enters : (Task.load path (.publishPolicy lock policy)).enters path = true := Task.enters_load path _
  have mapped : (store.lineMap? path).isSome = true := aligned.entering _ List.mem_cons_self enters
  have spared := apart_entering path _ others apart enters
  refine ⟨fun _ _ _ => mapped, ?_, ?_, ?_⟩
  · refine List.forall_mem_cons.mpr ⟨fun erasing => Bool.noConfusion erasing, fun other inside erasing => ?_⟩
    exact absurd ((spared other inside).1.symm.trans erasing) Bool.false_ne_true
  · refine List.forall_mem_cons.mpr ⟨fun clearing => Bool.noConfusion clearing, fun other inside clearing => ?_⟩
    exact absurd ((spared other inside).2.symm.trans clearing) Bool.false_ne_true
  · intro _
    rw [found]
    exact mapped

theorem move_aligned (own : Path) (before after : LoadPhase) (host : Host) (locks : Locks) (others : List Task)
    (move : Move s own c before after host locks) (placed : before.Placed own)
    (first : overlaps path (.load own before :: others) = false)
    (last : overlaps path (.load own after :: others) = false)
    (aligned : Aligned path c.host.store (.load own before :: others)) :
    Aligned path host.store (.load own after :: others) := by
  have touch := move_touch s own c before after host locks move
  by_cases mine : own = path
  · subst mine
    cases touch with
    | mapped lock policy =>
        exact aligned_mapped own _ lock policy others (placed.policy policy List.mem_cons_self) last
    | entered lock policy =>
        exact aligned_entered own _ lock policy _ others (placed.policy policy List.mem_cons_self) first aligned
    | none _ _ _ same _ early late _ =>
        refine aligned_still own _ _ (.load own before) _ others (by rw [same]) (by rw [same]) ?_ ?_ aligned
        · exact (Task.halfway_none own _).mpr ⟨(Task.enters_load own before).trans early, rfl, rfl⟩
        · exact (Task.halfway_none own _).mpr ⟨(Task.enters_load own after).trans late, rfl, rfl⟩
  · obtain ⟨policy, lineMap⟩ := touch_other path c.host host own before after touch placed mine
    have idle (phase : LoadPhase) : (Task.load own phase).halfway path = false :=
      (Task.halfway_none path _).mpr ⟨by simp [Task.enters, mine], rfl, rfl⟩
    exact aligned_still path _ _ (.load own before) _ others policy lineMap (idle before) (idle after) aligned

theorem aligned_removed (store after : Store) (task next : Task) (others : List Task)
    (apart : ∀ other ∈ others, other.enters path = false)
    (policy : after.find? path = store.find? path ∨ after.find? path = none)
    (lineMap : after.lineMap? path = store.lineMap? path ∨ after.lineMap? path = none)
    (enters : next.enters path = false) (erases : next.erases path = true → after.lineMap? path = none)
    (clears : next.clears = true → after.find? path = none)
    (done : next.halfway path = false → after.lineMap? path = none ∧ after.find? path = none)
    (aligned : Aligned path store (task :: others)) : Aligned path after (next :: others) := by
  obtain ⟨_, erasing⟩ := List.forall_mem_cons.mp aligned.erasing
  obtain ⟨_, clearing⟩ := List.forall_mem_cons.mp aligned.clearing
  refine ⟨?_, List.forall_mem_cons.mpr ⟨erases, ?_⟩, List.forall_mem_cons.mpr ⟨clears, ?_⟩, ?_⟩
  · intro other inside entering
    have quiet : ∀ other ∈ next :: others, other.enters path = false := List.forall_mem_cons.mpr ⟨enters, apart⟩
    exact absurd ((quiet other inside).symm.trans entering) Bool.false_ne_true
  · exact fun other inside halfway => lineMap.elim (·.trans (erasing other inside halfway)) id
  · exact fun other inside halfway => policy.elim (·.trans (clearing other inside halfway)) id
  · intro idle
    obtain ⟨unmapped, absent⟩ := done (idle _ List.mem_cons_self)
    rw [unmapped, absent]
    rfl

theorem unload_aligned (own : Path) (phase : UnloadPhase) (h : Host) (others : List Task)
    (first : overlaps path (.unload own phase :: others) = false)
    (last : overlaps path (.unload own (stepUnload own phase h).1 :: others) = false)
    (aligned : Aligned path h.store (.unload own phase :: others)) :
    Aligned path (stepUnload own phase h).2.store (.unload own (stepUnload own phase h).1 :: others) := by
  by_cases mine : own = path
  · subst mine
    obtain ⟨policy, lineMap⟩ := unload_less own own phase h
    cases phase with
    | eraseLineMap =>
        have erases : (Task.unload own .erasePolicy).erases own = true := decide_eq_true rfl
        refine aligned_removed own _ _ _ _ others (apart_removing own _ others last (Or.inl erases)) policy lineMap rfl
          (fun _ => Store.erase_line_map_gone _ own) (fun clears => nomatch clears) ?_ aligned
        intro idle
        have rests := ((Task.halfway_none own _).mp idle).2.1
        exact absurd (rests.symm.trans erases) Bool.false_ne_true
    | erasePolicy =>
        have erases : (Task.unload own .erasePolicy).erases own = true := decide_eq_true rfl
        have unmapped := aligned.erasing _ List.mem_cons_self erases
        exact aligned_removed own _ _ _ _ others (apart_removing own _ others first (Or.inl erases)) policy lineMap rfl
          (fun erases => nomatch erases) (fun clears => nomatch clears)
          (fun _ => ⟨unmapped, Store.erase_policy_gone _ own⟩) aligned
    | finished found => exact aligned
  · have idle (phase : UnloadPhase) : (Task.unload own phase).halfway path = false := by
      refine (Task.halfway_none path _).mpr ⟨rfl, ?_, rfl⟩
      cases phase <;> simp [Task.erases, mine]
    refine aligned_still path _ _ _ _ others ?_ ?_ (idle _) (idle _) aligned
    · cases phase with
      | erasePolicy => exact Store.erase_policy_other _ own path mine
      | _ => rfl
    · cases phase with
      | eraseLineMap => exact Store.erase_line_map_other _ own path (Ne.symm mine)
      | _ => rfl

theorem clear_aligned (phase : ClearPhase) (h : Host) (others : List Task)
    (first : overlaps path (.clear phase :: others) = false)
    (last : overlaps path (.clear (stepClear phase h).1 :: others) = false)
    (aligned : Aligned path h.store (.clear phase :: others)) :
    Aligned path (stepClear phase h).2.store (.clear (stepClear phase h).1 :: others) := by
  obtain ⟨policy, lineMap⟩ := clear_less path phase h
  cases phase with
  | clearPolicies =>
      refine aligned_removed path _ _ _ _ others (apart_removing path _ others last (Or.inr rfl)) policy lineMap rfl
        (fun erases => nomatch erases) (fun _ => rfl) ?_ aligned
      intro idle
      cases ((Task.halfway_none path _).mp idle).2.2
  | clearLineMaps =>
      have absent := aligned.clearing _ List.mem_cons_self rfl
      exact aligned_removed path _ _ _ _ others (apart_removing path _ others first (Or.inr rfl)) policy lineMap rfl
        (fun erases => nomatch erases) (fun clears => nomatch clears) (fun _ => ⟨rfl, absent⟩) aligned
  | finished => exact aligned

theorem step_aligned (i : Nat) (placed : ∀ task ∈ c.tasks, task.Placed) (first : overlaps path c.tasks = false)
    (last : overlaps path (c.step s i).tasks = false) (aligned : Aligned path c.host.store c.tasks) :
    Aligned path (c.step s i).host.store (c.step s i).tasks := by
  -- The invariant speaks of the moments without an overlap, so that of each step both ends may be assumed to be such.
  refine step_kept s c (fun h _ tasks => overlaps path tasks = false → Aligned path h.store tasks) i ?_ ?_ ?_ ?_
    (fun _ => aligned) last
  · intro h _ tasks others same kept apart
    exact aligned_perm path h.store tasks others same (kept ((overlaps_perm path tasks others same).trans apart))
  · intro own phase others same kept apart
    have before := (overlaps_perm path _ _ same).symm.trans first
    have mine := placed _ (same.mem_iff.mpr List.mem_cons_self)
    exact move_aligned s path c own phase _ _ _ others (step_load_move s own c phase) mine before apart (kept before)
  · intro own phase others same kept apart
    have before := (overlaps_perm path _ _ same).symm.trans first
    exact unload_aligned path own phase c.host others before apart (kept before)
  · intro phase others same kept apart
    have before := (overlaps_perm path _ _ same).symm.trans first
    exact clear_aligned path phase c.host others before apart (kept before)

theorem run_aligned (schedule : List (Surroundings × Nat)) (guarded : Guarded c.locks c.tasks)
    (matched : Matched path c.host.store c.tasks)
    (apart : ∀ past, past <+: schedule → overlaps path (c.run past).tasks = false)
    (aligned : Aligned path c.host.store c.tasks) :
    Aligned path (c.run schedule).host.store (c.run schedule).tasks := by
  induction schedule generalizing c with
  | nil => exact aligned
  | cons turn rest ih =>
      have first := apart [] List.nil_prefix
      have second := apart [turn] ⟨rest, rfl⟩
      refine ih (c.step turn.1 turn.2) (step_guarded turn.1 c turn.2 guarded)
        (step_matched turn.1 path c turn.2 guarded matched) ?_
        (step_aligned turn.1 path c turn.2 matched.placed first second aligned)
      exact fun past inside => apart (turn :: past) (List.cons_prefix_cons.mpr ⟨rfl, inside⟩)

theorem load_changed (own : Path) (h after : Host) (before next : LoadPhase) (touch : Touch own h before next after)
    (placed : before.Placed own) :
    (after.store.lineMap? path).isSome = ((Task.load own before).remaps? path).getD (h.store.lineMap? path).isSome ∧
      (after.store.find? path).isSome = ((Task.load own before).reenters? path).getD (h.store.find? path).isSome := by
  by_cases mine : own = path
  · subst mine
    have remaps : (Task.load own before).remaps? own = if before.isMapping then some true else none := by
      simp [Task.remaps?]
    have reenters : (Task.load own before).reenters? own = if before.isPublishing then some true else none := by
      simp [Task.reenters?]
    rw [remaps, reenters]
    cases touch with
    | mapped lock policy =>
        have here : policy.path = own := placed.policy policy List.mem_cons_self
        have found : (h.store.putLineMap policy.path policy.lineMap).lineMap? own = some policy.lineMap :=
          here ▸ Store.put_line_map_found h.store policy.path policy.lineMap
        exact ⟨congrArg Option.isSome found, rfl⟩
    | entered lock policy =>
        have here : policy.path = own := placed.policy policy List.mem_cons_self
        have found : (h.store.putPolicy policy).find? own = some policy := here ▸ Store.put_policy_found h.store policy
        exact ⟨rfl, congrArg Option.isSome found⟩
    | none _ _ _ same unmapped early _ _ =>
        rw [same, unmapped, early]
        exact ⟨rfl, rfl⟩
  · obtain ⟨policy, lineMap⟩ := touch_other path h after own before next touch placed mine
    simp [Task.remaps?, Task.reenters?, policy, lineMap, mine]

theorem unload_changed (own : Path) (phase : UnloadPhase) (h : Host) :
    ((stepUnload own phase h).2.store.lineMap? path).isSome =
        ((Task.unload own phase).remaps? path).getD (h.store.lineMap? path).isSome ∧
      ((stepUnload own phase h).2.store.find? path).isSome =
        ((Task.unload own phase).reenters? path).getD (h.store.find? path).isSome := by
  cases phase with
  | eraseLineMap =>
      refine ⟨?_, rfl⟩
      by_cases mine : own = path
      · subst mine
        simp [Task.remaps?, stepUnload, updateStore, Store.erase_line_map_gone]
      · simp [Task.remaps?, stepUnload, updateStore, mine, Store.erase_line_map_other _ own path (Ne.symm mine)]
  | erasePolicy =>
      refine ⟨rfl, ?_⟩
      by_cases mine : own = path
      · subst mine
        simp [Task.reenters?, stepUnload, updateStore, Store.erase_policy_gone]
      · simp [Task.reenters?, stepUnload, updateStore, mine, Store.erase_policy_other _ own path mine]
  | finished found => exact ⟨rfl, rfl⟩

theorem step_changed (i : Nat) (placed : ∀ task ∈ c.tasks, task.Placed) :
    ((c.step s i).host.store.lineMap? path).isSome =
        ((c.tasks[i]?).bind (Task.remaps? path)).getD (c.host.store.lineMap? path).isSome ∧
      ((c.step s i).host.store.find? path).isSome =
        ((c.tasks[i]?).bind (Task.reenters? path)).getD (c.host.store.find? path).isSome := by
  unfold step
  cases held : c.tasks[i]? with
  | none => exact ⟨rfl, rfl⟩
  | some task =>
      cases task with
      | load own phase =>
          have touch := move_touch s own c phase _ _ _ (step_load_move s own c phase)
          exact load_changed path own c.host _ phase _ touch (placed _ (List.mem_of_getElem? held))
      | unload own phase => exact unload_changed path own phase c.host
      | clear phase => cases phase <;> exact ⟨rfl, rfl⟩

theorem run_changed (schedule : List (Surroundings × Nat)) (guarded : Guarded c.locks c.tasks)
    (matched : Matched path c.host.store c.tasks) :
    ((c.run schedule).host.store.lineMap? path).isSome =
        lastChange (Task.remaps? path) c (c.host.store.lineMap? path).isSome schedule ∧
      ((c.run schedule).host.store.find? path).isSome =
        lastChange (Task.reenters? path) c (c.host.store.find? path).isSome schedule := by
  induction schedule generalizing c with
  | nil => exact ⟨rfl, rfl⟩
  | cons turn rest ih =>
      obtain ⟨lineMap, policy⟩ := step_changed turn.1 path c turn.2 matched.placed
      have later := ih (c.step turn.1 turn.2) (step_guarded turn.1 c turn.2 guarded)
        (step_matched turn.1 path c turn.2 guarded matched)
      rwa [lineMap, policy] at later

theorem paired_level (store : Store)
    (matched : ∀ policy, store.find? path = some policy → ∀ m, store.lineMap? path = some m → m = policy.lineMap) :
    store.Paired path ↔ (store.lineMap? path).isSome = (store.find? path).isSome := by
  rw [Store.Paired]
  cases found : store.find? path with
  | none => cases store.lineMap? path <;> simp
  | some policy =>
      cases mapped : store.lineMap? path with
      | none => simp
      | some m => simp [matched policy found m mapped, Policy.lineMap]

-- What the two tables hold of a path after a run: a line map next to a policy is that of the source of the policy, which
-- is what the path was read as; they hold both or neither if that is how they were last changed, and so they do when
-- all is done and no load has met a removal halfway.
structure Coherent (h : Host) (tasks : List Task) (schedule : List (Surroundings × Nat)) : Prop where
  matched : ∀ policy, ((start h tasks).run schedule).host.store.find? path = some policy →
    ∀ m, ((start h tasks).run schedule).host.store.lineMap? path = some m → m = .ofSource policy.source
  read : ∀ policy, ((start h tasks).run schedule).host.store.find? path = some policy →
    (∃ old ∈ h.store.policies, old.path = path ∧ old.source = policy.source) ∨
      ∃ turn ∈ schedule, turn.1.workspace.tree.read path = .ok policy.source
  last : ((start h tasks).run schedule).host.store.Paired path ↔
    lastChange (Task.remaps? path) (start h tasks) (h.store.find? path).isSome schedule =
      lastChange (Task.reenters? path) (start h tasks) (h.store.find? path).isSome schedule
  apart : (∀ past, past <+: schedule → overlaps path ((start h tasks).run past).tasks = false) →
    (∀ task ∈ ((start h tasks).run schedule).tasks, task.isFinished = true) →
    ((start h tasks).run schedule).host.store.Paired path

theorem idle_halfway (task : Task) (idle : task.isStarting = true ∨ task.isFinished = true) :
    task.halfway path = false := by
  cases task with
  | load own phase =>
      have quiet : phase.isPublishing = false := by
        cases phase <;> first | rfl | exact idle.elim Bool.noConfusion Bool.noConfusion
      exact (Task.halfway_none path _).mpr ⟨by simp [Task.enters, quiet], rfl, rfl⟩
  | unload own phase => cases phase <;> first | rfl | exact idle.elim Bool.noConfusion Bool.noConfusion
  | clear phase => cases phase <;> first | rfl | exact idle.elim Bool.noConfusion Bool.noConfusion

theorem tables_coherent (h : Host) (path : Path) (tasks : List Task) (schedule : List (Surroundings × Nat))
    (starting : ∀ task ∈ tasks, task.isStarting = true) (paired : h.store.Paired path) :
    Coherent path h tasks schedule := by
  have guarded := start_guarded (start h tasks).locks tasks starting
  have known (policy : Policy) (found : h.store.find? path = some policy) (m : LineMap)
      (mapped : h.store.lineMap? path = some m) : m = policy.lineMap := by
    rw [Store.Paired, found, mapped] at paired
    exact Option.some.inj paired
  have level := (paired_level path h.store known).mp paired
  have first := start_matched path h tasks starting known
  have final := run_matched path (start h tasks) schedule guarded first
  refine ⟨final.matched, ?_, ?_, ?_⟩
  · intro policy found
    have own : policy.path = path := by simpa using List.find?_some found
    subst own
    exact run_read h tasks schedule starting policy (List.mem_of_find?_eq_some found)
  · obtain ⟨lineMap, policy⟩ := run_changed path (start h tasks) schedule guarded first
    rw [paired_level path _ final.matched, lineMap, policy]
    change lastChange _ _ (h.store.lineMap? path).isSome _ = lastChange _ _ (h.store.find? path).isSome _ ↔ _
    rw [level]
  · intro apart finished
    have idle (task : Task) (inside : task ∈ tasks) := (Task.halfway_none path task).mp
      (idle_halfway path task (Or.inl (starting task inside)))
    have aligned : Aligned path h.store tasks := by
      refine ⟨?_, ?_, ?_, fun _ => level⟩
      · exact fun task inside enters => absurd ((idle task inside).1.symm.trans enters) Bool.false_ne_true
      · exact fun task inside erases => absurd ((idle task inside).2.1.symm.trans erases) Bool.false_ne_true
      · exact fun task inside clears => absurd ((idle task inside).2.2.symm.trans clears) Bool.false_ne_true
    have done := run_aligned path (start h tasks) schedule guarded first apart aligned
    refine (paired_level path _ final.matched).mpr (done.level fun task inside => ?_)
    exact idle_halfway path task (Or.inr (finished task inside))

-- A load of a path around whose compilation that path is unloaded, another one loaded and unloaded, and all cleared. The
-- unload of the path takes its steps far apart, while the load of the path does not yet enter anything.
def passing : List Task :=
  [.load ⟨true, ["srv", "a.rego"]⟩ .lookup, .unload ⟨true, ["srv", "a.rego"]⟩ .eraseLineMap,
   .load ⟨true, ["srv", "b.rego"]⟩ .lookup, .clear .clearPolicies]

def passingSchedule : List (Surroundings × Nat) :=
  (List.replicate 8 0 ++ [1] ++ List.replicate 13 2 ++ [1, 3, 3] ++ List.replicate 5 0).map fun i =>
    (permissive twoPolicies ["srv"], i)

theorem tables_coherent_passing :
    (∀ task ∈ passing, task.isStarting = true) ∧ idle.store.Paired ⟨true, ["srv", "a.rego"]⟩ ∧
      (∀ past, past <+: passingSchedule →
        overlaps ⟨true, ["srv", "a.rego"]⟩ ((start idle passing).run past).tasks = false) ∧
      (∀ task ∈ ((start idle passing).run passingSchedule).tasks, task.isFinished = true) ∧
      (((start idle passing).run passingSchedule).host.store.find? ⟨true, ["srv", "a.rego"]⟩).isSome = true ∧
      (((start idle passing).run passingSchedule).host.store.find? ⟨true, ["srv", "b.rego"]⟩).isSome = false ∧
      Coherent ⟨true, ["srv", "a.rego"]⟩ idle passing passingSchedule := by
  have empty : idle.store.Paired ⟨true, ["srv", "a.rego"]⟩ := rfl
  have apart : ∀ past ∈ passingSchedule.inits,
      overlaps ⟨true, ["srv", "a.rego"]⟩ ((start idle passing).run past).tasks = false := by
    decide +kernel
  exact ⟨by decide, empty, fun past inside => apart past ((List.mem_inits _ _).mpr inside), by decide +kernel,
    by decide +kernel, by decide +kernel, tables_coherent idle _ passing passingSchedule (by decide) empty⟩

def partingSchedule : List (Surroundings × Nat) :=
  (List.replicate 9 0 ++ [1, 1] ++ List.replicate 4 0).map fun i => (permissive twoPolicies ["srv"], i)

theorem unload_parts_tables :
    ¬ ∀ (h : Host) (path : Path) (tasks : List Task) (schedule : List (Surroundings × Nat)),
      (∀ task ∈ tasks, task.isStarting = true) → h.store.Paired path →
        (∀ task ∈ ((start h tasks).run schedule).tasks, task.isFinished = true) →
          ((start h tasks).run schedule).host.store.Paired path := by
  intro together
  let tasks : List Task :=
    [.load ⟨true, ["srv", "a.rego"]⟩ .lookup, .unload ⟨true, ["srv", "a.rego"]⟩ .eraseLineMap]
  have paired := together idle ⟨true, ["srv", "a.rego"]⟩ tasks partingSchedule (by decide) rfl (by decide +kernel)
  have same := congrArg Option.isSome paired
  rw [Option.isSome_map] at same
  exact absurd same (by decide +kernel)

end Crowd

end Host

end PolicyHost
