import PolicyHost.Proofs.Reachable

set_option autoImplicit false

namespace PolicyHost.Host

structure Origin (s : Surroundings) (config : Config) (p : Policy) : Prop extends CompiledIn s config p where
  named : ∃ path base, s.workspace.resolve path base = .ok p.path

theorem effect_config (before after : Host) (mine others : List Policy) (effect : Effect before after mine others) :
    after.config = before.config := by
  cases effect with
  | still _ unmoved => exact unmoved.config
  | made policy order faithful policies next config => exact config
  | entered policy policies next config => exact config
  | dropped _ keep policies next config => exact config

theorem effect_policies (before after : Host) (mine others : List Policy) (effect : Effect before after mine others)
    (p : Policy) (loaded : p ∈ after.store.policies) : p ∈ before.store.policies ∨ p ∈ mine := by
  cases effect with
  | still _ unmoved => exact Or.inl (unmoved.policies ▸ loaded)
  | made policy order faithful policies next config => exact Or.inl (policies ▸ loaded)
  | entered policy policies next config =>
      rw [policies] at loaded
      exact (List.mem_append.mp loaded).imp_left List.mem_of_mem_filter
  | dropped _ keep policies next config =>
      rw [policies] at loaded
      exact Or.inl (List.mem_of_mem_filter loaded)

section Loads

variable (s : Surroundings) (config : Config) (path : Path)

def draftRequest (d : Draft) : Toolchain.BuildRequest :=
  Build.request d.path.text d.packages d.rules config.defaultRule

-- All that a load has found out is as its surroundings have it.
def LoadPhase.Grounded : LoadPhase → Prop
  | probe _ d => draft s path = .ok d
  | build _ d => draft s path = .ok d
  | instantiate _ d artifact =>
      draft s path = .ok d ∧ Build.run s.toolchain s.workspace.tree (draftRequest config d) = .ok artifact
  | publishLineMap _ policy => policy.path = path ∧ CompiledIn s config policy
  | publishPolicy _ policy => policy.path = path ∧ CompiledIn s config policy
  | _ => True

theorem grounded_draft (phase : LoadPhase) (grounded : phase.Grounded s config path) (d : Draft)
    (held : phase.draft? = some d) : d.Faithful := by
  have drafted : draft s path = .ok d := by
    cases phase with
    | probe lock other => exact (Option.some.inj held) ▸ grounded
    | build lock other => exact (Option.some.inj held) ▸ grounded
    | instantiate lock other artifact => exact (Option.some.inj held) ▸ grounded.1
    | _ => cases held
  exact (drafted_source s path d drafted).2.2

theorem grounded_pending (phase : LoadPhase) (grounded : phase.Grounded s config path) (p : Policy)
    (held : p ∈ phase.pending) : p.path = path ∧ CompiledIn s config p := by
  cases phase with
  | publishLineMap lock policy => exact List.mem_singleton.mp held ▸ grounded
  | publishPolicy lock policy => exact List.mem_singleton.mp held ▸ grounded
  | _ => cases held

namespace Crowd

variable (c : Crowd)

theorem stage_grounded (h after : Host) (phase next : LoadPhase) (stage : Stage s path h phase next after)
    (configured : h.config = config) (grounded : phase.Grounded s config path) : next.Grounded s config path := by
  cases stage with
  | read lock d drafted => exact drafted
  | probed lock d => exact grounded
  | built lock d artifact built => exact ⟨grounded, configured ▸ built⟩
  | instantiated lock d artifact executable loaded =>
      obtain ⟨drafted, built⟩ := grounded
      rw [← configured] at built
      obtain ⟨same, _, compiled⟩ :=
        compiled_policy s h path _ _ (.entered d artifact executable drafted built loaded)
      exact ⟨same, configured ▸ compiled⟩
  | mapped lock policy => exact grounded
  | _ => trivial

theorem step_load_grounded (phase : LoadPhase) (configured : c.host.config = config)
    (grounded : phase.Grounded s config path) : (stepLoad s path phase c).1.Grounded s config path := by
  have move := step_load_move s path c phase
  generalize stepLoad s path phase c = outcome at move ⊢
  obtain ⟨next, after, locks⟩ := outcome
  cases move with
  | compiled _ _ _ stage => exact stage_grounded s config path c.host after phase next stage configured grounded
  | _ => trivial

-- Loads of one path under way in unchanging surroundings. What they enter next to the policies that were there
-- before is compiled in these surroundings.
structure Grounded (before : List Policy) : Prop where
  configured : c.host.config = config
  loads : ∀ task ∈ c.tasks, ∃ phase, task = .load path phase ∧ phase.Grounded s config path
  policies : ∀ p ∈ c.host.store.policies, p ∈ before ∨ p.path = path ∧ CompiledIn s config p

theorem step_grounded (before : List Policy) (i : Nat) (grounded : Grounded s config path c before) :
    Grounded s config path (c.step s i) before := by
  unfold step
  cases held : c.tasks[i]? with
  | none => exact grounded
  | some task =>
      obtain ⟨phase, rfl, known⟩ := grounded.loads task (List.mem_of_getElem? held)
      have effect := step_load_effect s path c phase (grounded_draft s config path phase known)
      refine ⟨(effect_config _ _ _ _ effect).trans grounded.configured, ?_, ?_⟩
      · intro other inside
        rcases List.mem_or_eq_of_mem_set inside with old | rfl
        · exact grounded.loads other old
        · exact ⟨_, rfl, step_load_grounded s config path c phase grounded.configured known⟩
      · intro p loaded
        rcases effect_policies _ _ _ _ effect p loaded with old | mine
        · exact grounded.policies p old
        · exact Or.inr (grounded_pending s config path phase known p mine)

theorem run_grounded (before : List Policy) (schedule : List (Surroundings × Nat))
    (same : ∀ turn ∈ schedule, turn.1 = s) (grounded : Grounded s config path c before) :
    Grounded s config path (c.run schedule) before := by
  induction schedule generalizing c with
  | nil => exact grounded
  | cons turn rest ih =>
      obtain ⟨here, others⟩ := List.forall_mem_cons.mp same
      refine ih (c.step turn.1 turn.2) others ?_
      rw [here]
      exact step_grounded s config path c before turn.2 grounded

end Crowd

end Loads

variable (config : Config) (s : Surroundings) (h : Host)

structure Entering (path : String) (base : Option String) (p : Policy) : Prop where
  resolved : s.workspace.resolve path base = .ok p.path
  absent : h.store.find? p.path = none
  compiled : CompiledIn s h.config p
  reply : (h.answer s (.load path base)).1 = .loaded (.ok (p.outcome false))

theorem load_entering (path : String) (base : Option String) (p : Policy)
    (loaded : p ∈ ((load s path base).run.run h).2.store.policies) :
    p ∈ h.store.policies ∨ Entering s h path base p := by
  have reply : (h.answer s (.load path base)).1 = .loaded ((load s path base).run.run h).1 := rfl
  have cases := load_cases s h path base
  generalize (load s path base).run.run h = outcome at cases loaded reply
  obtain ⟨result, after⟩ := outcome
  cases cases with
  | refused failure bad => exact Or.inl loaded
  | hit key policy resolved found => exact Or.inl loaded
  | failed key failure _ resolved absent compiled =>
      have same := (unmoved_failed s h key failure after compiled).policies
      exact Or.inl (same ▸ loaded)
  | fresh key policy _ resolved absent compiled =>
      obtain ⟨own, _, origin⟩ := compiled_policy s h key policy after compiled
      obtain ⟨store, _, _⟩ := compiled_host s h key policy after compiled
      rw [store] at loaded
      rcases List.mem_append.mp loaded with old | last
      · exact Or.inl (List.mem_of_mem_filter old)
      · rw [List.mem_singleton.mp last]
        exact Or.inr ⟨own ▸ resolved, own ▸ absent, origin, reply⟩

theorem answer_entering (request : Request) (p : Policy) (loaded : p ∈ (h.answer s request).2.store.policies) :
    p ∈ h.store.policies ∨ (∃ path base, request = .load path base ∧ Entering s h path base p) ∨
      ∃ path base callers, request = .loadTogether path base callers := by
  cases request with
  | load path base =>
      exact (load_entering s h path base p loaded).imp_right fun entering => Or.inl ⟨path, base, rfl, entering⟩
  | loadTogether path base callers => exact Or.inr (Or.inr ⟨path, base, callers, rfl⟩)
  | evaluate input package rule => exact Or.inl loaded
  | explain input package rule options =>
      exact Or.inl ((unmoved_explain s input package rule options h).policies ▸ loaded)
  | unload path => exact Or.inl (List.mem_of_mem_filter loaded)
  | clear => cases loaded
  | find package => exact Or.inl loaded
  | lineMap path => exact Or.inl ((unmoved_line_map s path h).policies ▸ loaded)

theorem load_together_origin (path : String) (base : Option String) (callers : Nat) (configured : h.config = config)
    (p : Policy) (loaded : p ∈ (loadTogether s path base callers h).2.store.policies) :
    p ∈ h.store.policies ∨ Origin s config p := by
  unfold loadTogether at loaded
  cases resolved : s.workspace.resolve path base with
  | error failure =>
      simp only [resolved] at loaded
      exact Or.inl loaded
  | ok key =>
      simp only [resolved] at loaded
      have same : ∀ turn ∈ Crowd.inTurn s callers, turn.1 = s := by
        intro turn inside
        obtain ⟨round, held, taken⟩ := List.mem_flatten.mp inside
        rw [List.eq_of_mem_replicate held] at taken
        obtain ⟨i, _, rfl⟩ := List.mem_map.mp taken
        rfl
      have start : Crowd.Grounded s config key (Crowd.start h (List.replicate callers (.load key .lookup)))
          h.store.policies := by
        refine ⟨configured, ?_, fun p inside => Or.inl inside⟩
        intro task inside
        exact ⟨.lookup, List.eq_of_mem_replicate inside, trivial⟩
      have final := Crowd.run_grounded s config key _ h.store.policies _ same start
      refine (final.policies p loaded).imp_right ?_
      rintro ⟨own, compiled⟩
      exact ⟨compiled, path, base, own ▸ resolved⟩

theorem answer_origin (request : Request) (configured : h.config = config) (p : Policy)
    (loaded : p ∈ (h.answer s request).2.store.policies) : p ∈ h.store.policies ∨ Origin s config p := by
  rcases answer_entering s h request p loaded with old | ⟨path, base, _, entering⟩ | ⟨path, base, callers, rfl⟩
  · exact Or.inl old
  · exact Or.inr ⟨configured ▸ entering.compiled, path, base, entering.resolved⟩
  · exact load_together_origin config s h path base callers configured p loaded

theorem after_reachable (requests : List (Surroundings × Request)) (reachable : Reachable config h) :
    Reachable config (h.after requests) := by
  induction requests generalizing h with
  | nil => exact reachable
  | cons turn rest ih => exact ih _ (.answered turn.1 turn.2 h reachable)

def Sourced (requests : List (Surroundings × Request)) : Prop :=
  ∀ p ∈ h.store.policies, ∃ turn ∈ requests, Origin turn.1 config p

theorem after_sourced (past requests : List (Surroundings × Request)) (kept : Kept config h [])
    (sourced : Sourced config h past) : Sourced config (h.after requests) (past ++ requests) := by
  induction requests generalizing past h with
  | nil =>
      rw [List.append_nil]
      exact sourced
  | cons turn rest ih =>
      have next : Sourced config (h.answer turn.1 turn.2).2 (past ++ [turn]) := by
        intro p loaded
        rcases answer_origin config turn.1 h turn.2 kept.configured p loaded with old | fresh
        · obtain ⟨earlier, inside, origin⟩ := sourced p old
          exact ⟨earlier, List.mem_append_left _ inside, origin⟩
        · exact ⟨turn, List.mem_append_right _ List.mem_cons_self, fresh⟩
      have rest := ih _ (past ++ [turn]) (answer_kept config turn.1 h turn.2 kept) next
      rwa [List.append_assoc] at rest

theorem new_sourced (requests : List (Surroundings × Request)) (started : Host.new config = .ok h) :
    Sourced config (h.after requests) requests := by
  refine after_sourced config h [] requests (new_kept config h started) ?_
  rw [new_host config h started]
  exact fun p loaded => nomatch loaded

end PolicyHost.Host
