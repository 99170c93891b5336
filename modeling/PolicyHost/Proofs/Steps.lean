import Mathlib.Data.List.Perm.Basic
import PolicyHost.Host.Interleaving
import PolicyHost.Proofs.Loads

set_option autoImplicit false

namespace PolicyHost.Host.Crowd

variable (s : Surroundings) (path : Path)

-- The stages of a compilation up to the last one. None of them touches the locks or the loaded policies.
inductive Stage (h : Host) : LoadPhase → LoadPhase → Host → Prop where
  | read (lock : Lock) (d : Draft) (drafted : draft s path = .ok d) : Stage h (.read lock) (.probe lock d) h
  | unread (lock : Lock) (failure : Failure) (bad : draft s path = .error failure) :
      Stage h (.read lock) (.retire lock (.error failure)) h
  | probed (lock : Lock) (d : Draft) : Stage h (.probe lock d) (.build lock d) (probe s h)
  | built (lock : Lock) (d : Draft) (artifact : Artifact)
      (built : Build.run s.toolchain s.workspace.tree (buildRequest h d) = .ok artifact) :
      Stage h (.build lock d) (.instantiate lock d artifact) (h.record (.build (buildRequest h d)))
  | unbuilt (lock : Lock) (d : Draft) (failure : Failure)
      (bad : Build.run s.toolchain s.workspace.tree (buildRequest h d) = .error failure) :
      Stage h (.build lock d) (.retire lock (.error failure)) (h.record (.build (buildRequest h d)))
  | instantiated (lock : Lock) (d : Draft) (artifact : Artifact) (executable : Executable)
      (loaded : s.runtime.load artifact = .ok executable) :
      Stage h (.instantiate lock d artifact) (.publishLineMap lock (compiledPolicy h d artifact executable))
        { h.record .load with nextOrder := h.nextOrder + 1 }
  | refused (lock : Lock) (d : Draft) (artifact : Artifact) (fault : Wasm.Fault)
      (bad : s.runtime.load artifact = .error fault) :
      Stage h (.instantiate lock d artifact) (.retire lock (.error (loadFailure fault))) (h.record .load)
  | mapped (lock : Lock) (policy : Policy) :
      Stage h (.publishLineMap lock policy) (.publishPolicy lock policy) (publishLineMap policy h)

variable (c : Crowd)

inductive Move : LoadPhase → LoadPhase → Host → Locks → Prop where
  | hit (policy : Policy) (found : c.host.store.find? path = some policy) :
      Move .lookup (.finished (.ok (policy.outcome true))) c.host c.locks
  | missed (absent : c.host.store.find? path = none) : Move .lookup .fetch c.host c.locks
  | fetched : Move .fetch (.acquire (c.locks.fetch path).1) c.host (c.locks.fetch path).2
  | waited (lock : Lock) (taken : lock ∈ c.locks.taken) : Move (.acquire lock) (.acquire lock) c.host c.locks
  | acquired (lock : Lock) (free : lock ∉ c.locks.taken) :
      Move (.acquire lock) (.recheck lock) c.host (c.locks.take lock)
  | found (lock : Lock) (policy : Policy) (found : c.host.store.find? path = some policy) :
      Move (.recheck lock) (.retire lock (.ok (policy.outcome true))) c.host c.locks
  | absent (lock : Lock) (absent : c.host.store.find? path = none) : Move (.recheck lock) (.read lock) c.host c.locks
  | compiled (before after : LoadPhase) (host : Host) (stage : Stage s path c.host before after host) :
      Move before after host c.locks
  | entered (lock : Lock) (policy : Policy) :
      Move (.publishPolicy lock policy) (.retire lock (.ok (policy.outcome false))) (publishPolicy policy c.host)
        c.locks
  | retired (lock : Lock) (result : LoadResult) :
      Move (.retire lock result) (.release lock result) c.host (c.locks.retire path lock (c.owners lock))
  | released (lock : Lock) (result : LoadResult) :
      Move (.release lock result) (.drop lock result) c.host (c.locks.release lock)
  | dropped (lock : Lock) (result : LoadResult) : Move (.drop lock result) (.finished result) c.host c.locks
  | rested (result : LoadResult) : Move (.finished result) (.finished result) c.host c.locks

theorem step_load_move (phase : LoadPhase) :
    Move s path c phase (stepLoad s path phase c).1 (stepLoad s path phase c).2.1 (stepLoad s path phase c).2.2 := by
  cases phase with
  | lookup =>
      simp only [stepLoad]
      cases found : c.host.store.find? path with
      | none => exact .missed found
      | some policy => exact .hit policy found
  | fetch => exact .fetched
  | acquire lock =>
      by_cases taken : lock ∈ c.locks.taken
      · simpa only [stepLoad, if_pos taken] using .waited lock taken
      · simpa only [stepLoad, if_neg taken] using .acquired lock taken
  | recheck lock =>
      simp only [stepLoad]
      cases found : c.host.store.find? path with
      | none => exact .absent lock found
      | some policy => exact .found lock policy found
  | read lock =>
      simp only [stepLoad]
      cases drafted : draft s path with
      | error failure => exact .compiled _ _ _ (.unread lock failure drafted)
      | ok d => exact .compiled _ _ _ (.read lock d drafted)
  | probe lock d => exact .compiled _ _ _ (.probed lock d)
  | build lock d =>
      simp only [stepLoad, build_run]
      cases built : Build.run s.toolchain s.workspace.tree (buildRequest c.host d) with
      | error failure => exact .compiled _ _ _ (.unbuilt lock d failure built)
      | ok artifact => exact .compiled _ _ _ (.built lock d artifact built)
  | instantiate lock d artifact =>
      simp only [stepLoad, instantiate_run]
      cases loaded : s.runtime.load artifact with
      | error fault => exact .compiled _ _ _ (.refused lock d artifact fault loaded)
      | ok executable => exact .compiled _ _ _ (.instantiated lock d artifact executable loaded)
  | publishLineMap lock policy => exact .compiled _ _ _ (.mapped lock policy)
  | publishPolicy lock policy => exact .entered lock policy
  | retire lock result => exact .retired lock result
  | release lock result => exact .released lock result
  | drop lock result => exact .dropped lock result
  | finished result => exact .rested result

theorem set_perm (tasks : List Task) (i : Nat) (task : Task) (held : tasks[i]? = some task) :
    ∃ others, tasks.Perm (task :: others) ∧ ∀ next, (tasks.set i next).Perm (next :: others) := by
  obtain ⟨inside, same⟩ := List.getElem?_eq_some_iff.mp held
  refine ⟨tasks.eraseIdx i, ?_, fun next => ?_⟩
  · rw [← same]
    exact (List.getElem_cons_eraseIdx_perm inside).symm
  · exact List.set_perm_cons_eraseIdx inside next

-- What holds of a host, its locks and the tasks, in whatever order these stand, holds after a step of whichever task if
-- it does after a step of the first one.
theorem step_kept (holds : Host → Locks → List Task → Prop) (i : Nat)
    (perm : ∀ h locks tasks others, tasks.Perm others → holds h locks tasks → holds h locks others)
    (load : ∀ own phase others, c.tasks.Perm (.load own phase :: others) →
      holds c.host c.locks (.load own phase :: others) →
      holds (stepLoad s own phase c).2.1 (stepLoad s own phase c).2.2 (.load own (stepLoad s own phase c).1 :: others))
    (unload : ∀ own phase others, c.tasks.Perm (.unload own phase :: others) →
      holds c.host c.locks (.unload own phase :: others) →
      holds (stepUnload own phase c.host).2 c.locks (.unload own (stepUnload own phase c.host).1 :: others))
    (clear : ∀ phase others, c.tasks.Perm (.clear phase :: others) → holds c.host c.locks (.clear phase :: others) →
      holds (stepClear phase c.host).2 c.locks (.clear (stepClear phase c.host).1 :: others))
    (before : holds c.host c.locks c.tasks) : holds (c.step s i).host (c.step s i).locks (c.step s i).tasks := by
  unfold step
  cases held : c.tasks[i]? with
  | none => exact before
  | some task =>
      obtain ⟨others, same, changed⟩ := set_perm c.tasks i task held
      have mine := perm _ _ _ _ same before
      cases task with
      | load own phase => exact perm _ _ _ _ (changed _).symm (load own phase others same mine)
      | unload own phase => exact perm _ _ _ _ (changed _).symm (unload own phase others same mine)
      | clear phase => exact perm _ _ _ _ (changed _).symm (clear phase others same mine)

end PolicyHost.Host.Crowd
