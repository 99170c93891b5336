import PolicyHost.Proofs.Exclusion

/-!
What is left in the table of locks when all loads have returned. A load that retires its lock leaves it in the table
where somebody else owns it. That is either a load that is still on its way, which retires the lock in its turn, or
one that has released the lock and not yet let go of it, which does not. So a lock is left for a path exactly where
the last load to retire it has met one of the latter kind.
-/

set_option autoImplicit false

namespace PolicyHost.Host

namespace LoadPhase

def retiring? : LoadPhase → Option Lock
  | retire lock _ => some lock
  | _ => none

def lingering? : LoadPhase → Option Lock
  | drop lock _ => some lock
  | _ => none

theorem lock_stations (phase : LoadPhase) (lock : Lock) (owned : phase.lock? = some lock) :
    phase.attached? = some lock ∨ phase.held? = some lock ∨ phase.lingering? = some lock := by
  cases phase with
  | lookup => cases owned
  | fetch => cases owned
  | release _ _ => exact Or.inr (Or.inl owned)
  | drop _ _ => exact Or.inr (Or.inr owned)
  | finished _ => cases owned
  | _ => exact Or.inl owned

theorem lingering_lock (phase : LoadPhase) (lock : Lock) (lingers : phase.lingering? = some lock) :
    phase.lock? = some lock := by
  cases phase with
  | drop _ _ => exact lingers
  | _ => cases lingers

end LoadPhase

namespace Task

def retiring? (path : Path) : Task → Option Lock
  | load own phase => if own = path then phase.retiring? else none
  | _ => none

def lingering? : Task → Option Lock
  | load _ phase => phase.lingering?
  | _ => none

def attends (path : Path) (task : Task) : Bool := task.attached?.any fun entry => entry.1 = path

theorem attends_iff (path : Path) (task : Task) :
    task.attends path = true ↔ ∃ lock, task.attached? = some (path, lock) := by
  unfold attends
  cases task.attached? with
  | none => simp
  | some entry =>
      obtain ⟨own, lock⟩ := entry
      simp [eq_comm]

theorem lingering_lock (task : Task) (lock : Lock) (lingers : task.lingering? = some lock) :
    task.lock? = some lock := by
  cases task with
  | load path phase => exact phase.lingering_lock lock lingers
  | unload path phase => cases lingers
  | clear phase => cases lingers

theorem lock_stations (task : Task) (lock : Lock) (owned : task.lock? = some lock) :
    (∃ path, task.attached? = some (path, lock)) ∨ task.held? = some lock ∨ task.lingering? = some lock := by
  cases task with
  | load path phase =>
      refine (phase.lock_stations lock owned).imp_left fun attached => ⟨path, ?_⟩
      rw [attached?, attached, Option.map_some]
  | unload path phase => cases owned
  | clear phase => cases owned

end Task

namespace Crowd

variable (s : Surroundings) (path : Path) (c : Crowd)

-- Where the next step of a task is to retire the lock of the path: whether somebody has released that lock and still
-- owns it.
def crosses? (i : Nat) : Option Bool :=
  (c.tasks[i]?.bind (Task.retiring? path)).map fun lock => c.tasks.any fun task => task.lingering? = some lock

def lastCrosses (c : Crowd) (before : Bool) : List (Surroundings × Nat) → Bool
  | [] => before
  | turn :: rest => lastCrosses (c.step turn.1 turn.2) ((crosses? path c turn.2).getD before) rest

structure Numbered (locks : Locks) : Prop where
  paths : (locks.table.map Prod.fst).Nodup
  distinct : (locks.table.map Prod.snd).Nodup
  below : ∀ entry ∈ locks.table, entry.2 < locks.next

theorem numbered_fetch (locks : Locks) (numbered : Numbered locks) : Numbered (locks.fetch path).2 := by
  unfold Locks.fetch
  cases found : locks.table.lookup path with
  | some lock => exact numbered
  | none =>
      refine ⟨List.nodup_cons.mpr ⟨?_, numbered.paths⟩, List.nodup_cons.mpr ⟨?_, numbered.distinct⟩, ?_⟩
      · intro inside
        obtain ⟨entry, listed, same⟩ := List.mem_map.mp inside
        have absent := List.lookup_eq_none_iff.mp found entry listed
        simp [same] at absent
      · intro inside
        obtain ⟨entry, listed, same⟩ := List.mem_map.mp inside
        exact Nat.lt_irrefl _ (same ▸ numbered.below entry listed)
      · intro entry inside
        rcases List.mem_cons.mp inside with rfl | old
        · exact Nat.lt_succ_self _
        · exact Nat.lt_succ_of_lt (numbered.below entry old)

theorem numbered_retire (locks : Locks) (lock : Lock) (owners : Nat) (numbered : Numbered locks) :
    Numbered (locks.retire path lock owners) := by
  unfold Locks.retire
  split
  · have fewer : (locks.table.filter fun entry => entry.1 ≠ path).Sublist locks.table := List.filter_sublist
    exact ⟨(fewer.map Prod.fst).nodup numbered.paths, (fewer.map Prod.snd).nodup numbered.distinct,
      fun entry inside => numbered.below entry (fewer.subset inside)⟩
  · exact numbered

theorem move_numbered (before after : LoadPhase) (host : Host) (locks : Locks)
    (move : Move s path c before after host locks) (numbered : Numbered c.locks) : Numbered locks := by
  cases move with
  | fetched => exact numbered_fetch path c.locks numbered
  | acquired lock free => exact ⟨numbered.paths, numbered.distinct, numbered.below⟩
  | retired lock result => exact numbered_retire path c.locks lock _ numbered
  | released lock result => exact ⟨numbered.paths, numbered.distinct, numbered.below⟩
  | _ => exact numbered

theorem listed_once (locks : Locks) (lock : Lock) (numbered : Numbered locks)
    (listed : locks.table.lookup path = some lock) : locks.table.countP (fun entry => entry.2 = lock) = 1 := by
  have inside : lock ∈ locks.table.map Prod.snd := List.mem_map.mpr ⟨_, mem_of_lookup _ _ _ listed, rfl⟩
  calc
    locks.table.countP (fun entry => entry.2 = lock) = (locks.table.map Prod.snd).count lock := by
      rw [List.count, List.countP_map]
      refine List.countP_congr fun entry _ => ?_
      simp
    _ = 1 := List.count_eq_one_of_mem numbered.distinct inside

theorem listed_path (locks : Locks) (other : Path) (lock : Lock) (numbered : Numbered locks)
    (listed : locks.table.lookup path = some lock) (again : locks.table.lookup other = some lock) : other = path := by
  have first := mem_of_lookup _ _ _ listed
  have second := mem_of_lookup _ _ _ again
  exact congrArg Prod.fst (List.inj_on_of_nodup_map numbered.distinct second first rfl)

-- A path has a lock in the table where a load attends to it, or where the last retirement has left one.
def Left (locks : Locks) (tasks : List Task) (crossed : Bool) : Prop :=
  (locks.table.lookup path).isSome = (tasks.any (Task.attends path) || crossed)

theorem left_perm (locks : Locks) (tasks others : List Task) (crossed : Bool) (same : tasks.Perm others)
    (left : Left path locks tasks crossed) : Left path locks others crossed := by
  rwa [Left, ← same.any_eq]

theorem left_quiet (locks after : Locks) (task next : Task) (others : List Task) (crossed : Bool)
    (listed : after.table.lookup path = locks.table.lookup path) (attends : next.attends path = task.attends path)
    (left : Left path locks (task :: others) crossed) : Left path after (next :: others) crossed := by
  unfold Left at left ⊢
  rw [listed, left, List.any_cons, List.any_cons, attends]

theorem fetch_other (locks : Locks) (other : Path) (different : other ≠ path) :
    (locks.fetch other).2.table.lookup path = locks.table.lookup path := by
  unfold Locks.fetch
  cases locks.table.lookup other with
  | some lock => rfl
  | none =>
      have missed : (path == other) = false := beq_eq_false_iff_ne.mpr (Ne.symm different)
      simp only [List.lookup_cons, missed]

theorem retire_other (locks : Locks) (other : Path) (lock : Lock) (owners : Nat) (different : other ≠ path) :
    (locks.retire other lock owners).table.lookup path = locks.table.lookup path := by
  unfold Locks.retire
  split
  · exact lookup_filter _ _ _ (Ne.symm different)
  · rfl

theorem left_fetched (locks : Locks) (others : List Task) (crossed : Bool) :
    Left path (locks.fetch path).2 (.load path (.acquire (locks.fetch path).1) :: others) crossed := by
  obtain ⟨mine, _, _⟩ := fetch_lookup locks path
  have attends : (Task.load path (.acquire (locks.fetch path).1)).attends path = true :=
    (Task.attends_iff path _).mpr ⟨_, rfl⟩
  rw [Left, mine, List.any_cons, attends]
  rfl

-- Where nobody else owns the lock it goes, and nobody attends to the path.
theorem left_retired_alone (lock : Lock) (result : LoadResult) (locks : Locks) (others : List Task) (owners : Nat)
    (two : owners = 2) (alone : ∀ task ∈ others, task.lock? ≠ some lock)
    (guarded : Guarded locks (.load path (.retire lock result) :: others)) :
    Left path (locks.retire path lock owners) (.load path (.release lock result) :: others)
      (others.any fun task => task.lingering? = some lock) := by
  have listed : locks.table.lookup path = some lock := guarded.listed _ List.mem_cons_self path lock rfl
  have gone : (locks.retire path lock owners).table.lookup path = none := by
    rw [Locks.retire, if_pos ⟨listed, two⟩]
    refine List.lookup_eq_none_iff.mpr fun entry inside => ?_
    have different := of_decide_eq_true (List.mem_filter.mp inside).2
    exact bne_iff_ne.mpr (Ne.symm different)
  have mine : (Task.load path (.release lock result)).attends path = false := rfl
  have unattended : others.any (Task.attends path) = false := by
    refine List.any_eq_false.mpr fun task inside attends => ?_
    obtain ⟨other, attached⟩ := (Task.attends_iff path task).mp attends
    have found := guarded.listed task (List.mem_cons_of_mem _ inside) path other attached
    have same : other = lock := Option.some.inj (found.symm.trans listed)
    exact alone task inside (same ▸ Task.attached_lock task path other attached)
  have settled : (others.any fun task => task.lingering? = some lock) = false := by
    refine List.any_eq_false.mpr fun task inside lingers => ?_
    exact alone task inside (Task.lingering_lock task lock (of_decide_eq_true lingers))
  rw [Left, gone, List.any_cons, mine, unattended, settled]
  rfl

-- Another owner attends to the path or lingers, since the lock is held once.
theorem left_retired_shared (lock : Lock) (result : LoadResult) (locks : Locks) (others : List Task) (owners : Nat)
    (more : owners ≠ 2) (task : Task) (inside : task ∈ others) (owned : task.lock? = some lock)
    (numbered : Numbered locks) (guarded : Guarded locks (.load path (.retire lock result) :: others)) :
    Left path (locks.retire path lock owners) (.load path (.release lock result) :: others)
      (others.any fun task => task.lingering? = some lock) := by
  have listed : locks.table.lookup path = some lock := guarded.listed _ List.mem_cons_self path lock rfl
  have kept : (locks.retire path lock owners).table.lookup path = some lock := by
    rw [Locks.retire, if_neg fun both => more both.2]
    exact listed
  have either : (others.any (Task.attends path) || others.any fun task => task.lingering? = some lock) = true := by
    rw [Bool.or_eq_true]
    rcases Task.lock_stations task lock owned with ⟨other, attached⟩ | held | lingers
    · have found := guarded.listed task (List.mem_cons_of_mem _ inside) other lock attached
      obtain rfl := listed_path path locks other lock numbered listed found
      exact Or.inl (List.any_eq_true.mpr ⟨task, inside, (Task.attends_iff other task).mpr ⟨lock, attached⟩⟩)
    · have twice : (Task.load path (.retire lock result) :: others).filterMap Task.held? =
          lock :: others.filterMap Task.held? := rfl
      have alone := guarded.alone
      rw [twice] at alone
      exact absurd (List.mem_filterMap.mpr ⟨task, inside, held⟩) (List.nodup_cons.mp alone).1
    · exact Or.inr (List.any_eq_true.mpr ⟨task, inside, decide_eq_true lingers⟩)
  have mine : (Task.load path (.release lock result)).attends path = false := rfl
  rw [Left, kept, List.any_cons, mine, Bool.false_or, either]
  rfl

theorem left_retired (lock : Lock) (result : LoadResult) (locks : Locks) (others : List Task) (owners : Nat)
    (counted : owners = locks.table.countP (fun entry => entry.2 = lock) +
      (Task.load path (.retire lock result) :: others).countP fun task => task.lock? = some lock)
    (numbered : Numbered locks) (guarded : Guarded locks (.load path (.retire lock result) :: others)) :
    Left path (locks.retire path lock owners) (.load path (.release lock result) :: others)
      (others.any fun task => task.lingering? = some lock) := by
  have listed : locks.table.lookup path = some lock := guarded.listed _ List.mem_cons_self path lock rfl
  have mine : (Task.load path (.retire lock result) :: others).countP (fun task => task.lock? = some lock) =
      others.countP (fun task => task.lock? = some lock) + 1 := List.countP_cons_of_pos (decide_eq_true rfl)
  rw [listed_once path locks lock numbered listed, mine] at counted
  by_cases shared : ∃ task ∈ others, task.lock? = some lock
  · obtain ⟨task, inside, owned⟩ := shared
    have others_own : 0 < others.countP fun task => task.lock? = some lock :=
      List.countP_pos_iff.mpr ⟨task, inside, decide_eq_true owned⟩
    exact left_retired_shared path lock result locks others owners (by omega) task inside owned numbered guarded
  · have none : others.countP (fun task => task.lock? = some lock) = 0 :=
      List.countP_eq_zero.mpr fun task inside owned => shared ⟨task, inside, of_decide_eq_true owned⟩
    have alone : ∀ task ∈ others, task.lock? ≠ some lock := fun task inside owned => shared ⟨task, inside, owned⟩
    exact left_retired_alone path lock result locks others owners (by omega) alone guarded

theorem move_left (own : Path) (before after : LoadPhase) (host : Host) (locks : Locks) (others : List Task)
    (crossed : Bool) (move : Move s own c before after host locks) (same : c.tasks.Perm (.load own before :: others))
    (numbered : Numbered c.locks) (guarded : Guarded c.locks (.load own before :: others))
    (left : Left path c.locks (.load own before :: others) crossed) :
    Left path locks (.load own after :: others)
      ((((Task.load own before).retiring? path).map fun lock =>
        c.tasks.any fun task => task.lingering? = some lock).getD crossed) := by
  have quiet (silent : before.retiring? = none) (listed : locks.table.lookup path = c.locks.table.lookup path)
      (attached : after.attached? = before.attached?) :
      Left path locks (.load own after :: others)
        ((((Task.load own before).retiring? path).map fun lock =>
          c.tasks.any fun task => task.lingering? = some lock).getD crossed) := by
    have none : (Task.load own before).retiring? path = none := by simp [Task.retiring?, silent]
    rw [none]
    refine left_quiet path c.locks locks (.load own before) _ others crossed listed ?_ left
    rw [Task.attends, Task.attends, Task.attached?, Task.attached?, attached]
  cases move with
  | fetched =>
      by_cases mine : own = path
      · subst mine
        have none : (Task.load own .fetch).retiring? own = none := by simp [Task.retiring?, LoadPhase.retiring?]
        rw [none]
        exact left_fetched own c.locks others crossed
      · have none : (Task.load own .fetch).retiring? path = none := if_neg mine
        rw [none]
        refine left_quiet path c.locks _ (.load own .fetch) _ others crossed (fetch_other path c.locks own mine) ?_ left
        simp [Task.attends, Task.attached?, LoadPhase.attached?, LoadPhase.isAttached, LoadPhase.lock?, mine]
  | compiled _ _ _ stage =>
      have silent : before.retiring? = none := by cases stage <;> rfl
      exact quiet silent rfl (stage_locked s own c.host host before after stage).1
  | retired lock result =>
      by_cases mine : own = path
      · subst mine
        have retiring : (Task.load own (.retire lock result)).retiring? own = some lock := if_pos rfl
        have lingers : (c.tasks.any fun task => task.lingering? = some lock) =
            others.any fun task => task.lingering? = some lock := same.any_eq
        rw [retiring, Option.map_some, Option.getD_some, lingers]
        refine left_retired own lock result c.locks others (c.owners lock) ?_ numbered guarded
        rw [owners, same.countP_eq]
      · have none : (Task.load own (.retire lock result)).retiring? path = none := if_neg mine
        rw [none]
        refine left_quiet path c.locks _ (.load own (.retire lock result)) _ others crossed
          (retire_other path c.locks own lock _ mine) ?_ left
        simp [Task.attends, Task.attached?, LoadPhase.attached?, LoadPhase.isAttached, LoadPhase.lock?, mine]
  | _ => exact quiet rfl rfl rfl

-- What the locks and the tasks have to do with each other, for all paths. A taken lock is one that a task holds.
structure Registered (locks : Locks) (tasks : List Task) : Prop where
  guarded : Guarded locks tasks
  numbered : Numbered locks
  occupied : ∀ lock ∈ locks.taken, lock ∈ tasks.filterMap Task.held?

theorem move_occupied (before after : LoadPhase) (host : Host) (locks : Locks) (others : List Task)
    (move : Move s path c before after host locks)
    (occupied : ∀ lock ∈ c.locks.taken, lock ∈ (Task.load path before :: others).filterMap Task.held?) :
    ∀ lock ∈ locks.taken, lock ∈ (Task.load path after :: others).filterMap Task.held? := by
  have quiet (taken : locks.taken = c.locks.taken) (held : after.held? = before.held?) :
      ∀ lock ∈ locks.taken, lock ∈ (Task.load path after :: others).filterMap Task.held? := by
    have same : (Task.load path after :: others).filterMap Task.held? =
        (Task.load path before :: others).filterMap Task.held? := by
      rw [List.filterMap_cons, List.filterMap_cons, Task.held?, Task.held?, held]
    rw [taken, same]
    exact occupied
  cases move with
  | fetched => exact quiet (fetch_lookup c.locks path).2.1 rfl
  | acquired lock free =>
      intro other taken
      rcases List.mem_cons.mp taken with rfl | old
      · exact List.mem_cons_self
      · exact List.mem_cons_of_mem _ (occupied other old)
  | compiled _ _ _ stage => exact quiet rfl (stage_locked s path c.host host before after stage).2
  | retired lock result =>
      refine quiet ?_ rfl
      unfold Locks.retire
      split <;> rfl
  | released lock result =>
      intro other taken
      obtain ⟨old, different⟩ := List.mem_filter.mp taken
      exact (List.mem_cons.mp (occupied other old)).resolve_left (of_decide_eq_true different)
  | _ => exact quiet rfl rfl

theorem occupied_perm (locks : Locks) (tasks others : List Task) (same : tasks.Perm others)
    (occupied : ∀ lock ∈ locks.taken, lock ∈ tasks.filterMap Task.held?) :
    ∀ lock ∈ locks.taken, lock ∈ others.filterMap Task.held? :=
  fun lock taken => (same.filterMap Task.held?).mem_iff.mp (occupied lock taken)

theorem step_registered (i : Nat) (registered : Registered c.locks c.tasks) :
    Registered (c.step s i).locks (c.step s i).tasks := by
  have kept : Numbered (c.step s i).locks ∧
      ∀ lock ∈ (c.step s i).locks.taken, lock ∈ (c.step s i).tasks.filterMap Task.held? := by
    refine step_kept s c (fun _ locks tasks => Numbered locks ∧ ∀ lock ∈ locks.taken, lock ∈ tasks.filterMap Task.held?)
      i ?_ ?_ ?_ ?_ ⟨registered.numbered, registered.occupied⟩
    · intro _ locks tasks others same before
      exact ⟨before.1, occupied_perm locks tasks others same before.2⟩
    · intro own phase others _ before
      have move := step_load_move s own c phase
      exact ⟨move_numbered s own c phase _ _ _ move before.1, move_occupied s own c phase _ _ _ others move before.2⟩
    · exact fun own phase others _ before => before
    · exact fun phase others _ before => before
  exact ⟨step_guarded s c i registered.guarded, kept.1, kept.2⟩

theorem start_registered (h : Host) (tasks : List Task) (starting : ∀ task ∈ tasks, task.isStarting = true) :
    Registered (start h tasks).locks (start h tasks).tasks :=
  ⟨start_guarded _ tasks starting, ⟨List.nodup_nil, List.nodup_nil, fun _ inside => nomatch inside⟩,
    fun _ taken => nomatch taken⟩

theorem run_registered (schedule : List (Surroundings × Nat)) (registered : Registered c.locks c.tasks) :
    Registered (c.run schedule).locks (c.run schedule).tasks := by
  induction schedule generalizing c with
  | nil => exact registered
  | cons turn rest ih => exact ih (c.step turn.1 turn.2) (step_registered turn.1 c turn.2 registered)

theorem step_left (i : Nat) (crossed : Bool) (registered : Registered c.locks c.tasks)
    (left : Left path c.locks c.tasks crossed) :
    Left path (c.step s i).locks (c.step s i).tasks ((crosses? path c i).getD crossed) := by
  unfold step crosses?
  cases held : c.tasks[i]? with
  | none => exact left
  | some task =>
      obtain ⟨others, same, changed⟩ := set_perm c.tasks i task held
      have mine := left_perm path _ _ _ crossed same left
      cases task with
      | load own phase =>
          exact left_perm path _ _ _ _ (changed _).symm
            (move_left s path c own phase _ _ _ others crossed (step_load_move s own c phase) same registered.numbered
              (guarded_perm _ _ _ same registered.guarded) mine)
      | unload own phase =>
          exact left_perm path _ _ _ crossed (changed _).symm
            (left_quiet path c.locks _ (.unload own phase) _ others crossed rfl rfl mine)
      | clear phase =>
          exact left_perm path _ _ _ crossed (changed _).symm
            (left_quiet path c.locks _ (.clear phase) _ others crossed rfl rfl mine)

theorem run_left (schedule : List (Surroundings × Nat)) (crossed : Bool) (registered : Registered c.locks c.tasks)
    (left : Left path c.locks c.tasks crossed) :
    Left path (c.run schedule).locks (c.run schedule).tasks (lastCrosses path c crossed schedule) := by
  induction schedule generalizing c crossed with
  | nil => exact left
  | cons turn rest ih =>
      exact ih (c.step turn.1 turn.2) _ (step_registered turn.1 c turn.2 registered)
        (step_left turn.1 path c turn.2 crossed registered left)

structure Leftover (c : Crowd) (crossed : Path → Bool) : Prop where
  paths : ∀ path, (∃ lock, (path, lock) ∈ c.locks.table) ↔ crossed path = true
  single : (c.locks.table.map Prod.fst).Nodup
  unowned : ∀ entry ∈ c.locks.table, c.owners entry.2 = 1
  free : c.locks.taken = []
  drained : (∀ path, crossed path = false) → c.locks.table = []

theorem returned_bare (task : Task) (returned : ∀ path phase, task = .load path phase → task.isFinished = true) :
    task.lock? = none ∧ task.attached? = none ∧ task.held? = none := by
  cases task with
  | load path phase =>
      have finished := returned path phase rfl
      cases phase with
      | finished result => exact ⟨rfl, rfl, rfl⟩
      | _ => cases finished
  | unload path phase => exact ⟨rfl, rfl, rfl⟩
  | clear phase => exact ⟨rfl, rfl, rfl⟩

theorem lookup_listed (table : List (Path × Lock)) (path : Path) :
    (∃ lock, (path, lock) ∈ table) ↔ (table.lookup path).isSome = true := by
  constructor
  · rintro ⟨lock, inside⟩
    refine Option.isSome_iff_ne_none.mpr fun absent => ?_
    have different := List.lookup_eq_none_iff.mp absent _ inside
    simp at different
  · intro found
    obtain ⟨lock, held⟩ := Option.isSome_iff_exists.mp found
    exact ⟨lock, mem_of_lookup _ _ _ held⟩

theorem locks_left (h : Host) (tasks : List Task) (schedule : List (Surroundings × Nat))
    (starting : ∀ task ∈ tasks, task.isStarting = true)
    (returned : ∀ path phase, .load path phase ∈ ((start h tasks).run schedule).tasks →
      (Task.load path phase).isFinished = true) :
    Leftover ((start h tasks).run schedule) fun path => lastCrosses path (start h tasks) false schedule := by
  have registered := run_registered (start h tasks) schedule (start_registered h tasks starting)
  have bare (task : Task) (inside : task ∈ ((start h tasks).run schedule).tasks) :=
    returned_bare task fun path phase same => same ▸ returned path phase (same ▸ inside)
  have paths (path : Path) : (∃ lock, (path, lock) ∈ ((start h tasks).run schedule).locks.table) ↔
      lastCrosses path (start h tasks) false schedule = true := by
    have unattended : tasks.any (Task.attends path) = false := by
      refine List.any_eq_false.mpr fun task inside attends => ?_
      obtain ⟨lock, attached⟩ := (Task.attends_iff path task).mp attends
      rw [(starting_unlocked task (starting task inside)).1] at attached
      cases attached
    have first : Left path (start h tasks).locks (start h tasks).tasks false := by
      rw [Left, start, unattended]
      rfl
    have left := run_left path (start h tasks) schedule false (start_registered h tasks starting) first
    have gone : ((start h tasks).run schedule).tasks.any (Task.attends path) = false := by
      refine List.any_eq_false.mpr fun task inside attends => ?_
      obtain ⟨lock, attached⟩ := (Task.attends_iff path task).mp attends
      rw [(bare task inside).2.1] at attached
      cases attached
    rw [Left, gone, Bool.false_or] at left
    rw [lookup_listed, left]
  refine ⟨paths, registered.numbered.paths, ?_, ?_, ?_⟩
  · intro entry inside
    have owned : ((start h tasks).run schedule).tasks.countP (fun task => task.lock? = some entry.2) = 0 := by
      refine List.countP_eq_zero.mpr fun task here owned => ?_
      rw [(bare task here).1] at owned
      cases owned
    obtain ⟨lock, found⟩ := Option.isSome_iff_exists.mp ((lookup_listed _ _).mp ⟨entry.2, inside⟩)
    have same : lock = entry.2 := congrArg Prod.snd
      (List.inj_on_of_nodup_map registered.numbered.paths (mem_of_lookup _ _ _ found) inside rfl)
    rw [owners, owned, ← same, listed_once entry.1 _ lock registered.numbered found]
  · refine List.eq_nil_iff_forall_not_mem.mpr fun lock taken => ?_
    obtain ⟨task, inside, held⟩ := List.mem_filterMap.mp (registered.occupied lock taken)
    rw [(bare task inside).2.2] at held
    cases held
  · intro none
    refine List.eq_nil_iff_forall_not_mem.mpr fun entry inside => ?_
    have crossed := (paths entry.1).mp ⟨entry.2, inside⟩
    rw [none entry.1] at crossed
    cases crossed

def queue : List Path :=
  [⟨true, ["srv", "a.rego"]⟩, ⟨true, ["srv", "b.rego"]⟩, ⟨true, ["srv", "a.rego"]⟩, ⟨true, ["srv", "a.rego"]⟩]

def queueSchedule : List (Surroundings × Nat) :=
  ([0, 0, 2, 2, 3, 3] ++ List.replicate 10 0 ++ [2, 1, 0, 2, 2, 2] ++ List.replicate 12 1 ++
    [3, 2, 3, 3, 3, 3]).map fun i => (permissive twoPolicies ["srv"], i)

theorem locks_left_queue :
    (∀ task ∈ queue.map fun key => Task.load key .lookup, task.isStarting = true) ∧
      (∀ task ∈ ((start idle (queue.map fun key => .load key .lookup)).run queueSchedule).tasks,
        task.isFinished = true) ∧
      ((start idle (queue.map fun key => .load key .lookup)).run queueSchedule).locks.table = [] ∧
      Leftover ((start idle (queue.map fun key => .load key .lookup)).run queueSchedule) fun path =>
        lastCrosses path (start idle (queue.map fun key => .load key .lookup)) false queueSchedule := by
  have finished : ∀ task ∈ ((start idle (queue.map fun key => .load key .lookup)).run queueSchedule).tasks,
      task.isFinished = true := by
    decide +kernel
  exact ⟨by decide, finished, by decide +kernel,
    locks_left idle _ queueSchedule (by decide) fun path phase inside => finished _ inside⟩

-- The second of two loads finds the policy and retires the lock while the first has released it and still owns it.
def crossingSchedule : List (Surroundings × Nat) :=
  ([0, 0, 1, 1] ++ List.replicate 10 0 ++ [1, 1, 1, 0, 1, 1]).map fun i => (permissive twoPolicies ["srv"], i)

theorem crossing_leaves_lock :
    ¬ ∀ (h : Host) (keys : List Path) (schedule : List (Surroundings × Nat)),
      (∀ task ∈ ((start h (keys.map fun key => .load key .lookup)).run schedule).tasks, task.isFinished = true) →
        ((start h (keys.map fun key => .load key .lookup)).run schedule).locks.table = [] := by
  intro drained
  have empty := drained idle [⟨true, ["srv", "a.rego"]⟩, ⟨true, ["srv", "a.rego"]⟩] crossingSchedule (by decide +kernel)
  exact absurd empty (by decide +kernel)

end Crowd

end PolicyHost.Host
