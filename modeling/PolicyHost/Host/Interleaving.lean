import PolicyHost.Host.Load

/-!
Requests at the same time. A load, an unload or a clearing is a task that makes atomic steps, and a
schedule says whose step is next. Loads of one path exclude each other by a lock that the first of them
puts into a table and the last takes out: a lock is taken out where nobody but the table and the task
itself owns it.
-/

set_option autoImplicit false

namespace PolicyHost.Host

abbrev Lock := Nat

structure Locks where
  table : List (Path × Lock)
  taken : List Lock
  next : Lock
  deriving DecidableEq, Inhabited, Repr

namespace Locks

def empty : Locks := ⟨[], [], 0⟩

def fetch (l : Locks) (path : Path) : Lock × Locks :=
  match l.table.lookup path with
  | some lock => (lock, l)
  | none => (l.next, { l with table := (path, l.next) :: l.table, next := l.next + 1 })

def take (l : Locks) (lock : Lock) : Locks := { l with taken := lock :: l.taken }

def release (l : Locks) (lock : Lock) : Locks := { l with taken := l.taken.filter (· ≠ lock) }

-- Takes a lock out of the table, if it is the one of the path and has two owners.
def retire (l : Locks) (path : Path) (lock : Lock) (owners : Nat) : Locks :=
  if l.table.lookup path = some lock ∧ owners = 2 then
    { l with table := l.table.filter fun entry => entry.1 ≠ path }
  else l

end Locks

abbrev LoadResult := Except Failure LoadOutcome

inductive LoadPhase where
  | lookup
  | fetch
  | acquire (lock : Lock)
  | recheck (lock : Lock)
  | read (lock : Lock)
  | probe (lock : Lock) (draft : Draft)
  | build (lock : Lock) (draft : Draft)
  | instantiate (lock : Lock) (draft : Draft) (artifact : Artifact)
  | publishLineMap (lock : Lock) (policy : Policy)
  | publishPolicy (lock : Lock) (policy : Policy)
  | retire (lock : Lock) (result : LoadResult)
  | release (lock : Lock) (result : LoadResult)
  | drop (lock : Lock) (result : LoadResult)
  | finished (result : LoadResult)

namespace LoadPhase

def lock? : LoadPhase → Option Lock
  | lookup => none
  | fetch => none
  | acquire lock => some lock
  | recheck lock => some lock
  | read lock => some lock
  | probe lock _ => some lock
  | build lock _ => some lock
  | instantiate lock _ _ => some lock
  | publishLineMap lock _ => some lock
  | publishPolicy lock _ => some lock
  | retire lock _ => some lock
  | release lock _ => some lock
  | drop lock _ => some lock
  | finished _ => none

def isCompiling : LoadPhase → Bool
  | read _ => true
  | probe _ _ => true
  | build _ _ => true
  | instantiate _ _ _ => true
  | publishLineMap _ _ => true
  | publishPolicy _ _ => true
  | _ => false

end LoadPhase

inductive UnloadPhase where
  | eraseLineMap
  | erasePolicy
  | finished (found : Bool)
  deriving DecidableEq, Inhabited, Repr

inductive ClearPhase where
  | clearPolicies
  | clearLineMaps
  | finished
  deriving DecidableEq, Inhabited, Repr

inductive Task where
  | load (path : Path) (phase : LoadPhase)
  | unload (path : Path) (phase : UnloadPhase)
  | clear (phase : ClearPhase)

namespace Task

def lock? : Task → Option Lock
  | load _ phase => phase.lock?
  | _ => none

def isFinished : Task → Bool
  | load _ (.finished _) => true
  | unload _ (.finished _) => true
  | clear .finished => true
  | _ => false

def loaded? : Task → Option LoadResult
  | load _ (.finished result) => some result
  | _ => none

end Task

structure Crowd where
  host : Host
  locks : Locks
  tasks : List Task

namespace Crowd

def owners (c : Crowd) (lock : Lock) : Nat :=
  c.locks.table.countP (fun entry => entry.2 = lock) + c.tasks.countP fun task => task.lock? = some lock

def proceed {α : Type} (lock : Lock) (next : α → LoadPhase) : Except Failure α → LoadPhase
  | .ok a => next a
  | .error failure => .retire lock (.error failure)

-- One step of a load. A load that waits for its lock stays where it is.
def stepLoad (s : Surroundings) (path : Path) (phase : LoadPhase) (c : Crowd) :
    LoadPhase × Host × Locks :=
  match phase with
  | .lookup =>
      match c.host.store.find? path with
      | some policy => (.finished (.ok (policy.outcome true)), c.host, c.locks)
      | none => (.fetch, c.host, c.locks)
  | .fetch =>
      let (lock, locks) := c.locks.fetch path
      (.acquire lock, c.host, locks)
  | .acquire lock =>
      if lock ∈ c.locks.taken then (.acquire lock, c.host, c.locks)
      else (.recheck lock, c.host, c.locks.take lock)
  | .recheck lock =>
      match c.host.store.find? path with
      | some policy => (.retire lock (.ok (policy.outcome true)), c.host, c.locks)
      | none => (.read lock, c.host, c.locks)
  | .read lock => (proceed lock (.probe lock) (draft s path), c.host, c.locks)
  | .probe lock d => (.build lock d, probe s c.host, c.locks)
  | .build lock d =>
      let (result, host) := (build s d).run.run c.host
      (proceed lock (.instantiate lock d) result, host, c.locks)
  | .instantiate lock d artifact =>
      let (result, host) := (instantiate s d artifact).run.run c.host
      (proceed lock (.publishLineMap lock) result, host, c.locks)
  | .publishLineMap lock policy => (.publishPolicy lock policy, publishLineMap policy c.host, c.locks)
  | .publishPolicy lock policy =>
      (.retire lock (.ok (policy.outcome false)), publishPolicy policy c.host, c.locks)
  | .retire lock result => (.release lock result, c.host, c.locks.retire path lock (c.owners lock))
  | .release lock result => (.drop lock result, c.host, c.locks.release lock)
  | .drop _ result => (.finished result, c.host, c.locks)
  | .finished result => (.finished result, c.host, c.locks)

def stepUnload (path : Path) (phase : UnloadPhase) (h : Host) : UnloadPhase × Host :=
  match phase with
  | .eraseLineMap => (.erasePolicy, h.updateStore (·.eraseLineMap path))
  | .erasePolicy => (.finished (h.store.find? path).isSome, h.updateStore (·.erasePolicy path))
  | .finished found => (.finished found, h)

def stepClear (phase : ClearPhase) (h : Host) : ClearPhase × Host :=
  match phase with
  | .clearPolicies => (.clearLineMaps, h.updateStore (·.clearPolicies))
  | .clearLineMaps => (.finished, h.updateStore (·.clearLineMaps))
  | .finished => (.finished, h)

def step (s : Surroundings) (c : Crowd) (i : Nat) : Crowd :=
  match c.tasks[i]? with
  | none => c
  | some (.load path phase) =>
      let (phase, host, locks) := stepLoad s path phase c
      { host, locks, tasks := c.tasks.set i (.load path phase) }
  | some (.unload path phase) =>
      let (phase, host) := stepUnload path phase c.host
      { c with host, tasks := c.tasks.set i (.unload path phase) }
  | some (.clear phase) =>
      let (phase, host) := stepClear phase c.host
      { c with host, tasks := c.tasks.set i (.clear phase) }

def run (c : Crowd) (schedule : List (Surroundings × Nat)) : Crowd :=
  schedule.foldl (fun c turn => c.step turn.1 turn.2) c

def start (h : Host) (tasks : List Task) : Crowd := { host := h, locks := .empty, tasks }

def turns : Nat := 16

def inTurn (s : Surroundings) (tasks : Nat) : List (Surroundings × Nat) :=
  (List.replicate (turns * tasks) ((List.range tasks).map fun i => (s, i))).flatten

end Crowd

def loadTogether (s : Surroundings) (path : String) (base : Option String) (callers : Nat) (h : Host) :
    List LoadResult × Host :=
  match s.workspace.resolve path base with
  | .error failure => (List.replicate callers (.error failure), h)
  | .ok key =>
      let c := (Crowd.start h (List.replicate callers (.load key .lookup))).run (Crowd.inTurn s callers)
      (c.tasks.filterMap Task.loaded?, c.host)

end PolicyHost.Host
