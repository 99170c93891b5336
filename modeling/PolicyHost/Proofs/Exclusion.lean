import PolicyHost.Proofs.Reachable
import PolicyHost.Proofs.Tables

/-!
Loads of one path exclude each other. A load between fetching its lock and retiring it finds that very lock in
the table, for a lock that somebody else still owns is not taken out; and no two tasks hold one lock. So whoever
compiles a path holds the lock that the table has for it, and is alone.
-/

set_option autoImplicit false

namespace PolicyHost.Host

namespace LoadPhase

-- From fetching the lock until the table is done with.
def isAttached : LoadPhase → Bool
  | release _ _ => false
  | drop _ _ => false
  | _ => true

def isHolding : LoadPhase → Bool
  | acquire _ => false
  | drop _ _ => false
  | _ => true

def attached? (phase : LoadPhase) : Option Lock := if phase.isAttached then phase.lock? else none

def held? (phase : LoadPhase) : Option Lock := if phase.isHolding then phase.lock? else none

theorem compiling_lock (phase : LoadPhase) (compiling : phase.isCompiling = true) :
    ∃ lock, phase.lock? = some lock ∧ phase.attached? = some lock ∧ phase.held? = some lock := by
  cases phase <;> first | exact ⟨_, rfl, rfl, rfl⟩ | cases compiling

end LoadPhase

namespace Task

def attached? : Task → Option (Path × Lock)
  | load path phase => phase.attached?.map fun lock => (path, lock)
  | _ => none

def held? : Task → Option Lock
  | load _ phase => phase.held?
  | _ => none

theorem attached_lock (task : Task) (path : Path) (lock : Lock) (attached : task.attached? = some (path, lock)) :
    task.lock? = some lock := by
  cases task with
  | load own phase =>
      obtain ⟨other, held, same⟩ := Option.map_eq_some_iff.mp attached
      cases same
      unfold LoadPhase.attached? at held
      split at held
      · exact held
      · cases held
  | unload own phase => cases attached
  | clear phase => cases attached

def compiles (path : Path) : Task → Bool
  | load own phase => own = path && phase.isCompiling
  | _ => false

end Task

namespace Crowd

variable (s : Surroundings) (path : Path) (c : Crowd)

theorem stage_locked (h after : Host) (phase next : LoadPhase) (stage : Stage s path h phase next after) :
    next.attached? = phase.attached? ∧ next.held? = phase.held? := by
  cases stage <;> exact ⟨rfl, rfl⟩

-- What tasks own, have taken and find in the table. Who stands where in the list does not count.
structure Guarded (locks : Locks) (tasks : List Task) : Prop where
  listed : ∀ task ∈ tasks, ∀ path lock, task.attached? = some (path, lock) → locks.table.lookup path = some lock
  taken : ∀ lock ∈ tasks.filterMap Task.held?, lock ∈ locks.taken
  alone : (tasks.filterMap Task.held?).Nodup

theorem guarded_perm (locks : Locks) (tasks others : List Task) (same : tasks.Perm others)
    (guarded : Guarded locks tasks) : Guarded locks others := by
  have held := same.filterMap Task.held?
  refine ⟨?_, ?_, held.nodup_iff.mp guarded.alone⟩
  · exact fun task inside => guarded.listed task (same.mem_iff.mpr inside)
  · exact fun lock inside => guarded.taken lock (held.mem_iff.mpr inside)

-- A step that leaves the locks alone, at most that its task is done with the table.
theorem guarded_quiet (locks : Locks) (task next : Task) (others : List Task)
    (attached : next.attached? = none ∨ next.attached? = task.attached?) (held : next.held? = task.held?)
    (guarded : Guarded locks (task :: others)) : Guarded locks (next :: others) := by
  have same : (next :: others).filterMap Task.held? = (task :: others).filterMap Task.held? := by
    rw [List.filterMap_cons, List.filterMap_cons, held]
  obtain ⟨mine, rest⟩ := List.forall_mem_cons.mp guarded.listed
  refine ⟨List.forall_mem_cons.mpr ⟨?_, rest⟩, same ▸ guarded.taken, same ▸ guarded.alone⟩
  intro path lock here
  rcases attached with bare | kept
  · rw [bare] at here
    cases here
  · exact mine path lock (kept ▸ here)

theorem fetch_lookup (locks : Locks) (path : Path) :
    (locks.fetch path).2.table.lookup path = some (locks.fetch path).1 ∧
      (locks.fetch path).2.taken = locks.taken ∧
      ∀ other lock, locks.table.lookup other = some lock → (locks.fetch path).2.table.lookup other = some lock := by
  unfold Locks.fetch
  cases found : locks.table.lookup path with
  | some lock => exact ⟨found, rfl, fun _ _ held => held⟩
  | none =>
      refine ⟨by simp, rfl, fun other lock held => ?_⟩
      have different : (other == path) = false := by
        refine beq_eq_false_iff_ne.mpr fun same => ?_
        rw [same, found] at held
        cases held
      simp only [List.lookup_cons, different, held]

theorem guarded_fetched (path : Path) (locks : Locks) (others : List Task)
    (guarded : Guarded locks (.load path .fetch :: others)) :
    Guarded (locks.fetch path).2 (.load path (.acquire (locks.fetch path).1) :: others) := by
  obtain ⟨mine, taken, kept⟩ := fetch_lookup locks path
  refine ⟨List.forall_mem_cons.mpr ⟨?_, ?_⟩, ?_, guarded.alone⟩
  · rintro own lock ⟨⟩
    exact mine
  · intro task inside other lock here
    exact kept other lock (guarded.listed task (List.mem_cons_of_mem _ inside) other lock here)
  · rw [taken]
    exact guarded.taken

theorem guarded_acquired (path : Path) (lock : Lock) (locks : Locks) (others : List Task) (free : lock ∉ locks.taken)
    (guarded : Guarded locks (.load path (.acquire lock) :: others)) :
    Guarded (locks.take lock) (.load path (.recheck lock) :: others) := by
  have held : (Task.load path (.recheck lock) :: others).filterMap Task.held? =
      lock :: others.filterMap Task.held? := rfl
  have before : (Task.load path (.acquire lock) :: others).filterMap Task.held? = others.filterMap Task.held? := rfl
  have taken := guarded.taken
  have alone := guarded.alone
  rw [before] at taken alone
  obtain ⟨mine, rest⟩ := List.forall_mem_cons.mp guarded.listed
  refine ⟨List.forall_mem_cons.mpr ⟨mine, rest⟩, ?_, ?_⟩
  · rw [held]
    exact List.forall_mem_cons.mpr
      ⟨List.mem_cons_self, fun other inside => List.mem_cons_of_mem _ (taken other inside)⟩
  · rw [held]
    exact List.nodup_cons.mpr ⟨fun inside => free (taken lock inside), alone⟩

-- A lock has two owners only if nobody else is on the way with it.
theorem guarded_retired (path : Path) (lock : Lock) (result : LoadResult) (locks : Locks) (others : List Task)
    (owners : Nat) (counted : owners = locks.table.countP (fun entry => entry.2 = lock) +
      (Task.load path (.retire lock result) :: others).countP fun task => task.lock? = some lock)
    (guarded : Guarded locks (.load path (.retire lock result) :: others)) :
    Guarded (locks.retire path lock owners) (.load path (.release lock result) :: others) := by
  obtain ⟨mine, rest⟩ := List.forall_mem_cons.mp guarded.listed
  have own : locks.table.lookup path = some lock := mine path lock rfl
  unfold Locks.retire
  by_cases two : locks.table.lookup path = some lock ∧ owners = 2
  · rw [if_pos two]
    refine ⟨List.forall_mem_cons.mpr ⟨?_, ?_⟩, guarded.taken, guarded.alone⟩
    · rintro other held ⟨⟩
    · intro task inside other held here
      have listed := rest task inside other held here
      have different : other ≠ path := by
        rintro rfl
        have same : held = lock := Option.some.inj (listed.symm.trans own)
        have entry : 0 < locks.table.countP fun entry => entry.2 = lock :=
          List.countP_pos_iff.mpr ⟨(other, lock), mem_of_lookup _ _ _ own, decide_eq_true rfl⟩
        have owner : 0 < others.countP fun task => task.lock? = some lock :=
          List.countP_pos_iff.mpr ⟨task, inside, decide_eq_true (same ▸ Task.attached_lock task other held here)⟩
        have mine : (Task.load other (.retire lock result) :: others).countP (fun task => task.lock? = some lock) =
            others.countP (fun task => task.lock? = some lock) + 1 := List.countP_cons_of_pos (decide_eq_true rfl)
        omega
      rw [lookup_filter _ _ _ different]
      exact listed
  · rw [if_neg two]
    exact guarded_quiet locks (.load path (.retire lock result)) _ others (Or.inl rfl) rfl guarded

theorem guarded_released (path : Path) (lock : Lock) (result : LoadResult) (locks : Locks) (others : List Task)
    (guarded : Guarded locks (.load path (.release lock result) :: others)) :
    Guarded (locks.release lock) (.load path (.drop lock result) :: others) := by
  have held : (Task.load path (.release lock result) :: others).filterMap Task.held? =
      lock :: others.filterMap Task.held? := rfl
  have after : (Task.load path (.drop lock result) :: others).filterMap Task.held? =
      others.filterMap Task.held? := rfl
  have taken := guarded.taken
  have alone := guarded.alone
  rw [held] at taken alone
  obtain ⟨gone, distinct⟩ := List.nodup_cons.mp alone
  refine ⟨?_, ?_, after ▸ distinct⟩
  · refine List.forall_mem_cons.mpr ⟨?_, (List.forall_mem_cons.mp guarded.listed).2⟩
    rintro other kept ⟨⟩
  · rw [after]
    intro other inside
    have different : other ≠ lock := fun same => gone (same ▸ inside)
    exact List.mem_filter.mpr ⟨taken other (List.mem_cons_of_mem _ inside), decide_eq_true different⟩

theorem move_guarded (before after : LoadPhase) (host : Host) (locks : Locks) (others : List Task)
    (move : Move s path c before after host locks) (same : c.tasks.Perm (.load path before :: others))
    (guarded : Guarded c.locks (.load path before :: others)) : Guarded locks (.load path after :: others) := by
  have quiet (after : LoadPhase) (attached : after.attached? = none ∨ after.attached? = before.attached?)
      (held : after.held? = before.held?) : Guarded c.locks (.load path after :: others) := by
    refine guarded_quiet c.locks (.load path before) _ others ?_ held guarded
    refine attached.imp (fun bare => ?_) fun kept => ?_
    · simp only [Task.attached?, bare, Option.map_none]
    · simp only [Task.attached?, kept]
  cases move with
  | hit policy found => exact quiet _ (Or.inl rfl) rfl
  | missed absent => exact quiet _ (Or.inl rfl) rfl
  | fetched => exact guarded_fetched path c.locks others guarded
  | waited lock taken => exact guarded
  | acquired lock free => exact guarded_acquired path lock c.locks others free guarded
  | found lock policy found => exact quiet _ (Or.inr rfl) rfl
  | absent lock absent => exact quiet _ (Or.inr rfl) rfl
  | compiled _ _ _ stage =>
      obtain ⟨attached, held⟩ := stage_locked s path c.host host before after stage
      exact quiet after (Or.inr attached) held
  | entered lock policy => exact quiet _ (Or.inr rfl) rfl
  | retired lock result =>
      refine guarded_retired path lock result c.locks others (c.owners lock) ?_ guarded
      rw [owners, same.countP_eq]
  | released lock result => exact guarded_released path lock result c.locks others guarded
  | dropped lock result => exact quiet _ (Or.inl rfl) rfl
  | rested result => exact guarded

theorem step_guarded (i : Nat) (guarded : Guarded c.locks c.tasks) :
    Guarded (c.step s i).locks (c.step s i).tasks := by
  unfold step
  cases held : c.tasks[i]? with
  | none => exact guarded
  | some task =>
      obtain ⟨others, same, changed⟩ := set_perm c.tasks i task held
      have mine := guarded_perm _ _ _ same guarded
      cases task with
      | load path phase =>
          exact guarded_perm _ _ _ (changed _).symm
            (move_guarded s path c phase _ _ _ others (step_load_move s path c phase) same mine)
      | unload path phase =>
          exact guarded_perm _ _ _ (changed _).symm
            (guarded_quiet c.locks (.unload path phase) _ others (Or.inl rfl) rfl mine)
      | clear phase =>
          exact guarded_perm _ _ _ (changed _).symm
            (guarded_quiet c.locks (.clear phase) _ others (Or.inl rfl) rfl mine)

theorem starting_unlocked (task : Task) (starting : task.isStarting = true) :
    task.attached? = none ∧ task.held? = none := by
  cases task with
  | load path phase => cases phase <;> first | exact ⟨rfl, rfl⟩ | cases starting
  | unload path phase => exact ⟨rfl, rfl⟩
  | clear phase => exact ⟨rfl, rfl⟩

theorem start_guarded (locks : Locks) (tasks : List Task) (starting : ∀ task ∈ tasks, task.isStarting = true) :
    Guarded locks tasks := by
  have bare : tasks.filterMap Task.held? = [] :=
    List.filterMap_eq_nil_iff.mpr fun task inside => (starting_unlocked task (starting task inside)).2
  refine ⟨fun task inside path lock here => ?_, by simp [bare], by simp [bare]⟩
  rw [(starting_unlocked task (starting task inside)).1] at here
  cases here

theorem run_guarded (schedule : List (Surroundings × Nat)) (guarded : Guarded c.locks c.tasks) :
    Guarded (c.run schedule).locks (c.run schedule).tasks := by
  induction schedule generalizing c with
  | nil => exact guarded
  | cons turn rest ih => exact ih (c.step turn.1 turn.2) (step_guarded turn.1 c turn.2 guarded)

theorem compiling_listed (locks : Locks) (tasks : List Task) (task : Task) (inside : task ∈ tasks)
    (compiles : task.compiles path = true) (guarded : Guarded locks tasks) :
    ∃ lock, locks.table.lookup path = some lock ∧ task.held? = some lock := by
  cases task with
  | load own phase =>
      obtain ⟨mine, compiling⟩ := Bool.and_eq_true_iff.mp compiles
      obtain rfl := of_decide_eq_true mine
      obtain ⟨lock, _, attached, held⟩ := LoadPhase.compiling_lock phase compiling
      refine ⟨lock, guarded.listed _ inside own lock ?_, held⟩
      rw [Task.attached?, attached, Option.map_some]
  | unload own phase => cases compiles
  | clear phase => cases compiles

theorem guarded_alone (locks : Locks) (tasks : List Task) (guarded : Guarded locks tasks) :
    tasks.countP (Task.compiles path) ≤ 1 := by
  cases listed : locks.table.lookup path with
  | none =>
      have none : tasks.countP (Task.compiles path) = 0 := by
        refine List.countP_eq_zero.mpr fun task inside compiles => ?_
        obtain ⟨lock, found, _⟩ := compiling_listed path locks tasks task inside compiles guarded
        rw [listed] at found
        cases found
      rw [none]
      exact Nat.zero_le 1
  | some lock =>
      calc
        tasks.countP (Task.compiles path) ≤ tasks.countP fun task => (task.held?.map (· == lock)).getD false := by
          refine List.countP_mono_left fun task inside compiles => ?_
          obtain ⟨other, found, held⟩ := compiling_listed path locks tasks task inside compiles guarded
          have same : other = lock := Option.some.inj (found.symm.trans listed)
          simp [held, same]
        _ = (tasks.filterMap Task.held?).count lock := List.countP_filterMap.symm
        _ ≤ 1 := List.nodup_iff_count.mp guarded.alone lock

theorem compiling_alone (h : Host) (path : Path) (tasks : List Task) (schedule : List (Surroundings × Nat))
    (starting : ∀ task ∈ tasks, task.isStarting = true) :
    ((start h tasks).run schedule).tasks.countP (Task.compiles path) ≤ 1 :=
  guarded_alone path _ _ (run_guarded (start h tasks) schedule (start_guarded _ tasks starting))

end Crowd

end PolicyHost.Host
