import PolicyHost.Host.Request
import PolicyHost.Proofs.Records
import PolicyHost.Proofs.Steps

set_option autoImplicit false

namespace PolicyHost.Host

namespace LoadPhase

-- The policy that a load has compiled and not yet entered.
def pending : LoadPhase → List Policy
  | publishLineMap _ policy => [policy]
  | publishPolicy _ policy => [policy]
  | _ => []

def draft? : LoadPhase → Option Draft
  | probe _ d => some d
  | build _ d => some d
  | instantiate _ d _ => some d
  | _ => none

end LoadPhase

namespace Task

def pending : Task → List Policy
  | load _ phase => phase.pending
  | _ => []

def draft? : Task → Option Draft
  | load _ phase => phase.draft?
  | _ => none

def isStarting : Task → Bool
  | load _ .lookup => true
  | unload _ .eraseLineMap => true
  | clear .clearPolicies => true
  | _ => false

theorem starting_bare (task : Task) (starting : task.isStarting = true) : task.pending = [] ∧ task.draft? = none := by
  cases task with
  | load path phase => cases phase <;> first | exact ⟨rfl, rfl⟩ | cases starting
  | unload path phase => exact ⟨rfl, rfl⟩
  | clear phase => exact ⟨rfl, rfl⟩

end Task

namespace Crowd

variable (s : Surroundings) (path : Path) (c : Crowd)

theorem stage_effect (h after : Host) (phase next : LoadPhase) (stage : Stage s path h phase next after)
    (known : ∀ d, phase.draft? = some d → d.Faithful) : Effect h after phase.pending next.pending := by
  cases stage with
  | read lock d drafted => exact .still _ (unmoved_refl h)
  | unread lock failure bad => exact .still _ (unmoved_refl h)
  | probed lock d => exact .still _ (unmoved_probe s h)
  | built lock d artifact built => exact .still _ (unmoved_record h _)
  | unbuilt lock d failure bad => exact .still _ (unmoved_record h _)
  | instantiated lock d artifact executable loaded =>
      exact .made (compiledPolicy h d artifact executable) rfl
        (compiled_policy_faithful h d artifact executable (known d rfl)) rfl rfl rfl
  | refused lock d artifact fault bad => exact .still _ (unmoved_record h _)
  | mapped lock policy => exact .still _ ⟨rfl, rfl, rfl⟩

theorem step_load_effect (phase : LoadPhase) (known : ∀ d, phase.draft? = some d → d.Faithful) :
    Effect c.host (stepLoad s path phase c).2.1 phase.pending (stepLoad s path phase c).1.pending := by
  have move := step_load_move s path c phase
  generalize stepLoad s path phase c = outcome at move ⊢
  obtain ⟨next, after, locks⟩ := outcome
  cases move with
  | compiled _ _ _ stage => exact stage_effect s path c.host after phase next stage known
  | entered lock policy => exact .entered policy rfl rfl rfl
  | _ => exact .still _ (unmoved_refl _)

theorem step_load_draft (phase : LoadPhase) (known : ∀ d, phase.draft? = some d → d.Faithful) (d : Draft)
    (held : (stepLoad s path phase c).1.draft? = some d) : d.Faithful := by
  have move := step_load_move s path c phase
  generalize stepLoad s path phase c = outcome at move held
  obtain ⟨next, after, locks⟩ := outcome
  cases move with
  | compiled _ _ _ stage =>
      cases stage with
      | read lock other drafted =>
          cases held
          exact (drafted_source s path d drafted).2.2
      | probed lock other => exact known d held
      | built lock other artifact built => exact known d held
      | _ => cases held
  | _ => cases held

theorem step_unload_effect (phase : UnloadPhase) (h : Host) : Effect h (stepUnload path phase h).2 [] [] := by
  cases phase with
  | eraseLineMap => exact .still _ ⟨rfl, rfl, rfl⟩
  | erasePolicy => exact .dropped _ (fun p => p.path ≠ path) rfl rfl rfl
  | finished found => exact .still _ (unmoved_refl h)

theorem step_clear_effect (phase : ClearPhase) (h : Host) : Effect h (stepClear phase h).2 [] [] := by
  cases phase with
  | clearPolicies => exact .dropped _ (fun _ => false) (List.filter_false _).symm rfl rfl
  | clearLineMaps => exact .still _ ⟨rfl, rfl, rfl⟩
  | finished => exact .still _ (unmoved_refl h)

-- Of the tasks only what they have compiled and what they have read counts, whatever locks they hold.
structure Orderly (config : Config) : Prop where
  kept : Kept config c.host (c.tasks.flatMap Task.pending)
  drafts : ∀ task ∈ c.tasks, ∀ d, task.draft? = some d → d.Faithful

theorem set_orderly (config : Config) (i : Nat) (task next : Task) (after : Host) (locks : Locks)
    (held : c.tasks[i]? = some task) (effect : Effect c.host after task.pending next.pending)
    (known : ∀ d, next.draft? = some d → d.Faithful) (orderly : Orderly c config) :
    Orderly ⟨after, locks, c.tasks.set i next⟩ config := by
  obtain ⟨others, same, changed⟩ := set_perm c.tasks i task held
  constructor
  · have mine := kept_perm config c.host _ _ (same.flatMap_right Task.pending) orderly.kept
    refine kept_perm config after _ _ ((changed next).flatMap_right Task.pending).symm ?_
    exact kept_effect config c.host after _ _ _ effect mine
  · intro other inside
    rcases List.mem_cons.mp ((changed next).mem_iff.mp inside) with head | old
    · exact head ▸ known
    · exact orderly.drafts other (same.mem_iff.mpr (List.mem_cons_of_mem _ old))

theorem step_orderly (config : Config) (i : Nat) (orderly : Orderly c config) : Orderly (c.step s i) config := by
  unfold step
  cases held : c.tasks[i]? with
  | none => exact orderly
  | some task =>
      have known := orderly.drafts task (List.mem_of_getElem? held)
      cases task with
      | load path phase =>
          exact set_orderly c config i _ _ _ _ held (step_load_effect s path c phase known)
            (step_load_draft s path c phase known) orderly
      | unload path phase =>
          exact set_orderly c config i _ (.unload path (stepUnload path phase c.host).1) _ _ held
            (step_unload_effect path phase c.host) (fun _ none => nomatch none) orderly
      | clear phase =>
          exact set_orderly c config i _ (.clear (stepClear phase c.host).1) _ _ held
            (step_clear_effect phase c.host) (fun _ none => nomatch none) orderly

theorem run_orderly (config : Config) (schedule : List (Surroundings × Nat)) (orderly : Orderly c config) :
    Orderly (c.run schedule) config := by
  induction schedule generalizing c with
  | nil => exact orderly
  | cons turn rest ih => exact ih (c.step turn.1 turn.2) (step_orderly turn.1 c config turn.2 orderly)

theorem start_orderly (config : Config) (h : Host) (tasks : List Task)
    (starting : ∀ task ∈ tasks, task.isStarting = true) (kept : Kept config h []) :
    Orderly (start h tasks) config := by
  have bare : tasks.flatMap Task.pending = [] :=
    List.flatMap_eq_nil_iff.mpr fun task inside => (Task.starting_bare task (starting task inside)).1
  refine ⟨by simpa only [start, bare] using kept, ?_⟩
  intro task inside d held
  rw [(Task.starting_bare task (starting task inside)).2] at held
  cases held

theorem run_kept (config : Config) (h : Host) (tasks : List Task) (schedule : List (Surroundings × Nat))
    (starting : ∀ task ∈ tasks, task.isStarting = true) (kept : Kept config h []) :
    Kept config ((start h tasks).run schedule).host [] :=
  kept_loaded config _ _ (run_orderly _ config schedule (start_orderly config h tasks starting kept)).kept

end Crowd

variable (config : Config) (s : Surroundings) (h : Host)

theorem compiled_kept (path : Path) (policy : Policy) (after : Host)
    (compiled : CompileCase s h path (.ok policy) after) (kept : Kept config h []) : Kept config after [] := by
  obtain ⟨_, order, origin⟩ := compiled_policy s h path policy after compiled
  obtain ⟨store, next, same⟩ := compiled_host s h path policy after compiled
  have made : Kept config { h with nextOrder := h.nextOrder + 1 } [policy] :=
    kept_made config h _ policy [] order origin.toFaithful rfl rfl rfl kept
  have entered : Effect { h with nextOrder := h.nextOrder + 1 } after [policy] [] :=
    .entered policy (congrArg Store.policies store) next same
  exact kept_effect config _ after _ _ [] entered made

theorem load_kept (path : String) (base : Option String) (kept : Kept config h []) :
    Kept config ((load s path base).run.run h).2 [] := by
  have loaded := load_cases s h path base
  generalize (load s path base).run.run h = outcome at loaded ⊢
  obtain ⟨result, after⟩ := outcome
  cases loaded with
  | refused failure bad => exact kept
  | hit key policy resolved found => exact kept
  | failed key failure _ resolved absent compiled =>
      exact kept_unmoved config h after [] (unmoved_failed s h key failure after compiled) kept
  | fresh key policy _ resolved absent compiled => exact compiled_kept config s h key policy after compiled kept

theorem load_together_kept (path : String) (base : Option String) (callers : Nat) (kept : Kept config h []) :
    Kept config (loadTogether s path base callers h).2 [] := by
  unfold loadTogether
  cases s.workspace.resolve path base with
  | error failure => exact kept
  | ok key =>
      refine Crowd.run_kept config h _ _ ?_ kept
      intro task inside
      rw [List.eq_of_mem_replicate inside]
      rfl

theorem unload_kept (path : String) (kept : Kept config h []) : Kept config (unload s path h).2 [] :=
  kept_effect config h _ [] [] []
    (.dropped [] (fun p => p.path ≠ unloadKey s path) rfl rfl rfl) kept

theorem clear_kept (kept : Kept config h []) : Kept config h.clear [] :=
  kept_effect config h _ [] [] [] (.dropped [] (fun _ => false) (List.filter_false _).symm rfl rfl) kept

theorem answer_kept (request : Request) (kept : Kept config h []) : Kept config (h.answer s request).2 [] := by
  cases request with
  | load path base => exact load_kept config s h path base kept
  | loadTogether path base callers => exact load_together_kept config s h path base callers kept
  | evaluate input package rule => exact kept
  | explain input package rule options =>
      exact kept_unmoved config h _ [] (unmoved_explain s input package rule options h) kept
  | unload path => exact unload_kept config s h path kept
  | clear => exact clear_kept config h kept
  | find package => exact kept
  | lineMap path => exact kept_unmoved config h _ [] (unmoved_line_map s path h) kept

theorem new_host (started : Host.new config = .ok h) :
    h = { config, store := .empty, nextOrder := 0, probed := none, calls := [] } := by
  unfold Host.new at started
  cases checked : config.check with
  | error failure => simp [checked, bind, Except.bind] at started
  | ok _ => simpa [checked, bind, Except.bind, pure, Except.pure, eq_comm] using started

theorem new_kept (started : Host.new config = .ok h) : Kept config h [] := by
  rw [new_host config h started]
  refine ⟨rfl, List.nodup_nil, List.nodup_nil, ?_, ?_⟩
  · intro p inside
    cases inside
  · intro p inside
    cases inside

inductive Reachable : Host → Prop where
  | new (h : Host) (started : Host.new config = .ok h) : Reachable h
  | answered (s : Surroundings) (request : Request) (h : Host) (before : Reachable h) :
      Reachable (h.answer s request).2
  | gathered (tasks : List Task) (schedule : List (Surroundings × Nat)) (h : Host) (before : Reachable h)
      (starting : ∀ task ∈ tasks, task.isStarting = true) : Reachable ((Crowd.start h tasks).run schedule).host

theorem reachable_kept (reachable : Reachable config h) : Kept config h [] := by
  induction reachable with
  | new h started => exact new_kept config h started
  | answered s request h before ih => exact answer_kept config s h request ih
  | gathered tasks schedule h before starting ih => exact Crowd.run_kept config h tasks schedule starting ih

end PolicyHost.Host
