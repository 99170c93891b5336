import PolicyHost.Host.Load

set_option autoImplicit false

namespace PolicyHost.Host

section Actions

variable {α β : Type}

theorem run_bind (x : Action α) (next : α → Action β) (h : Host) :
    (x >>= next).run.run h =
      match x.run.run h with
      | (.ok a, h) => (next a).run.run h
      | (.error failure, h) => (.error failure, h) := by
  change (ExceptT.bindCont next (x h).1) (x h).2 = _
  generalize outcome : x h = r
  obtain ⟨result, after⟩ := r
  have same : x.run.run h = (result, after) := outcome
  rw [same]
  cases result <;> rfl

theorem run_pure (a : α) (h : Host) : (pure a : Action α).run.run h = (.ok a, h) := rfl

theorem run_settled (r : Except Failure α) (h : Host) : (settled r).run.run h = (r, h) := rfl

theorem run_modify (change : Host → Host) (h : Host) :
    (modify change : Action PUnit).run.run h = (.ok ⟨⟩, change h) := rfl

theorem run_get (h : Host) : (get : Action Host).run.run h = (.ok h, h) := rfl

end Actions

variable (s : Surroundings) (h : Host)

theorem probe_store : (probe s h).store = h.store := by
  unfold probe
  cases h.probed <;> rfl

theorem probe_config : (probe s h).config = h.config := by
  unfold probe
  cases h.probed <;> rfl

theorem probe_order : (probe s h).nextOrder = h.nextOrder := by
  unfold probe
  cases h.probed <;> rfl

def buildRequest (d : Draft) : Toolchain.BuildRequest :=
  Build.request d.path.text d.packages d.rules h.config.defaultRule

def asked (d : Draft) : Host := (probe s h).record (.build (buildRequest h d))

def compiledPolicy (d : Draft) (artifact : Artifact) (executable : Executable) : Policy :=
  { path := d.path
    packages := d.packages
    rules := Build.compiledRules d.rules h.config.defaultRule
    size := artifact.size
    order := h.nextOrder
    source := d.source
    executable }

def entered (d : Draft) (policy : Policy) : Host :=
  publishPolicy policy
    (publishLineMap policy { (asked s h d).record .load with nextOrder := h.nextOrder + 1 })

theorem build_run (d : Draft) :
    (build s d).run.run h =
      (Build.run s.toolchain s.workspace.tree (buildRequest h d), h.record (.build (buildRequest h d))) := by
  simp only [build, run_bind, run_get, run_modify, run_settled, buildRequest]

theorem build_asked (d : Draft) :
    (build s d).run.run (probe s h) =
      (Build.run s.toolchain s.workspace.tree (buildRequest h d), asked s h d) := by
  have same : buildRequest (probe s h) d = buildRequest h d := by rw [buildRequest, probe_config, buildRequest]
  rw [build_run, same, asked]

theorem instantiate_run (d : Draft) (artifact : Artifact) :
    (instantiate s d artifact).run.run h =
      match s.runtime.load artifact with
      | .error fault => (.error (loadFailure fault), h.record .load)
      | .ok executable =>
          (.ok (compiledPolicy h d artifact executable), { h.record .load with nextOrder := h.nextOrder + 1 }) := by
  simp only [instantiate, run_bind, run_modify]
  cases s.runtime.load artifact <;> rfl

inductive CompileCase (path : Path) : Except Failure Policy → Host → Prop where
  | undrafted (failure : Failure) (bad : draft s path = .error failure) : CompileCase path (.error failure) h
  | unbuilt (d : Draft) (failure : Failure) (drafted : draft s path = .ok d)
      (bad : Build.run s.toolchain s.workspace.tree (buildRequest h d) = .error failure) :
      CompileCase path (.error failure) (asked s h d)
  | unloaded (d : Draft) (artifact : Artifact) (fault : Wasm.Fault) (drafted : draft s path = .ok d)
      (built : Build.run s.toolchain s.workspace.tree (buildRequest h d) = .ok artifact)
      (bad : s.runtime.load artifact = .error fault) :
      CompileCase path (.error (loadFailure fault)) ((asked s h d).record .load)
  | entered (d : Draft) (artifact : Artifact) (executable : Executable) (drafted : draft s path = .ok d)
      (built : Build.run s.toolchain s.workspace.tree (buildRequest h d) = .ok artifact)
      (loaded : s.runtime.load artifact = .ok executable) :
      CompileCase path (.ok (compiledPolicy h d artifact executable))
        (entered s h d (compiledPolicy h d artifact executable))

theorem compile_cases (path : Path) :
    CompileCase s h path ((compile s path).run.run h).1 ((compile s path).run.run h).2 := by
  simp only [compile, run_bind, run_settled, run_modify]
  cases drafted : draft s path with
  | error failure => exact .undrafted failure drafted
  | ok d =>
      simp only [build_asked]
      cases built : Build.run s.toolchain s.workspace.tree (buildRequest h d) with
      | error failure => exact .unbuilt d failure drafted built
      | ok artifact =>
          simp only [instantiate_run]
          cases loaded : s.runtime.load artifact with
          | error fault => exact .unloaded d artifact fault drafted built loaded
          | ok executable =>
              have same : compiledPolicy (asked s h d) d artifact executable = compiledPolicy h d artifact executable := by
                simp only [compiledPolicy, asked, record, probe_config, probe_order]
              have order : (asked s h d).nextOrder = h.nextOrder := probe_order s h
              simp only [same, order, run_pure]
              exact .entered d artifact executable drafted built loaded

inductive LoadCase (path : String) (base : Option String) : Except Failure LoadOutcome → Host → Prop where
  | refused (failure : Failure) (bad : s.workspace.resolve path base = .error failure) :
      LoadCase path base (.error failure) h
  | hit (key : Path) (policy : Policy) (resolved : s.workspace.resolve path base = .ok key)
      (found : h.store.find? key = some policy) : LoadCase path base (.ok (policy.outcome true)) h
  | failed (key : Path) (failure : Failure) (after : Host) (resolved : s.workspace.resolve path base = .ok key)
      (absent : h.store.find? key = none) (compiled : CompileCase s h key (.error failure) after) :
      LoadCase path base (.error failure) after
  | fresh (key : Path) (policy : Policy) (after : Host) (resolved : s.workspace.resolve path base = .ok key)
      (absent : h.store.find? key = none) (compiled : CompileCase s h key (.ok policy) after) :
      LoadCase path base (.ok (policy.outcome false)) after

theorem load_cases (path : String) (base : Option String) :
    LoadCase s h path base ((load s path base).run.run h).1 ((load s path base).run.run h).2 := by
  simp only [load, run_bind, run_settled]
  cases resolved : s.workspace.resolve path base with
  | error failure => exact .refused failure resolved
  | ok key =>
      simp only [run_get]
      cases found : h.store.find? key with
      | some policy => exact .hit key policy resolved found
      | none =>
          have compiled := compile_cases s h key
          simp only [run_bind]
          generalize (compile s key).run.run h = outcome at compiled ⊢
          obtain ⟨result, after⟩ := outcome
          cases result with
          | error failure => exact .failed key failure after resolved found compiled
          | ok policy => exact .fresh key policy after resolved found compiled

structure Draft.Faithful (d : Draft) : Prop where
  packages : d.packages = Source.packages d.source
  declared : d.packages.isEmpty = false
  rules : d.rules = Source.rules d.source

theorem drafted_source (path : Path) (d : Draft) (drafted : draft s path = .ok d) :
    d.path = path ∧ s.workspace.tree.read path = .ok d.source ∧ d.Faithful := by
  unfold draft at drafted
  cases held : s.workspace.tree.read path with
  | error fault => simp [held] at drafted
  | ok source =>
      simp only [held] at drafted
      split at drafted
      · cases drafted
      · next declared =>
          cases drafted
          exact ⟨rfl, rfl, rfl, by simpa using declared, rfl⟩

structure Faithful (config : Config) (p : Policy) : Prop where
  packages : p.packages = Source.packages p.source
  declared : p.packages.isEmpty = false
  rules : p.rules = Build.compiledRules (Source.rules p.source) config.defaultRule

-- Where a policy comes from: the text at its path, and what the toolchain builds from that path.
structure CompiledIn (config : Config) (p : Policy) : Prop extends Faithful config p where
  read : s.workspace.tree.read p.path = .ok p.source
  built : ∃ bundle artifact,
    s.toolchain.build s.workspace.tree
        (Build.request p.path.text p.packages (Source.rules p.source) config.defaultRule) = .ok bundle ∧
      bundle.artifact = .ok artifact ∧ artifact.size = p.size ∧ s.runtime.load artifact = .ok p.executable

theorem compiled_policy_faithful (d : Draft) (artifact : Artifact) (executable : Executable)
    (faithful : d.Faithful) : Faithful h.config (compiledPolicy h d artifact executable) := by
  refine ⟨faithful.packages, faithful.declared, ?_⟩
  simp only [compiledPolicy, faithful.rules]

theorem run_bundle (toolchain : Toolchain) (tree : FileTree) (request : Toolchain.BuildRequest) (artifact : Artifact)
    (built : Build.run toolchain tree request = .ok artifact) :
    ∃ bundle, toolchain.build tree request = .ok bundle ∧ bundle.artifact = .ok artifact := by
  unfold Build.run at built
  cases answered : toolchain.build tree request with
  | error fault => simp [answered] at built
  | ok bundle => exact ⟨bundle, rfl, by simpa [answered] using built⟩

theorem compiled_policy (path : Path) (policy : Policy) (after : Host)
    (compiled : CompileCase s h path (.ok policy) after) :
    policy.path = path ∧ policy.order = h.nextOrder ∧ CompiledIn s h.config policy := by
  cases compiled with
  | entered d artifact executable drafted built loaded =>
      obtain ⟨pathEq, read, faithful⟩ := drafted_source s path d drafted
      obtain ⟨bundle, answered, held⟩ := run_bundle _ _ _ _ built
      refine ⟨pathEq, rfl, compiled_policy_faithful h d artifact executable faithful, ?_, bundle, artifact, ?_,
        held, rfl, loaded⟩
      · simpa only [compiledPolicy, pathEq] using read
      · simpa only [buildRequest, compiledPolicy, faithful.rules] using answered

theorem compiled_host (path : Path) (policy : Policy) (after : Host)
    (compiled : CompileCase s h path (.ok policy) after) :
    after.store = (h.store.putLineMap policy.path policy.lineMap).putPolicy policy ∧
      after.nextOrder = h.nextOrder + 1 ∧ after.config = h.config := by
  cases compiled with
  | entered d artifact executable drafted built loaded =>
      have store : (asked s h d).store = h.store := probe_store s h
      have config : (asked s h d).config = h.config := probe_config s h
      simp only [entered, publishPolicy, publishLineMap, updateStore, record, store, config, and_self]

-- A policy that can be compiled is compiled: no compilation of its path fails.
theorem failed_uncompiled (path : Path) (failure : Failure) (after : Host)
    (compiled : CompileCase s h path (.error failure) after) (p : Policy) (same : p.path = path) :
    ¬ CompiledIn s h.config p := by
  intro origin
  obtain ⟨bundle, artifact, answered, held, _, loads⟩ := origin.built
  have declared : (Source.packages p.source).isEmpty = false := origin.packages ▸ origin.declared
  have drafts : draft s path =
      .ok { path, source := p.source, packages := Source.packages p.source, rules := Source.rules p.source } := by
    simp [draft, ← same, origin.read, declared]
  rw [origin.packages, same] at answered
  cases compiled with
  | undrafted failure bad =>
      rw [drafts] at bad
      cases bad
  | unbuilt d failure drafted bad =>
      rw [drafts] at drafted
      cases drafted
      simp [Build.run, buildRequest, answered, held] at bad
  | unloaded d other fault drafted built bad =>
      rw [drafts] at drafted
      cases drafted
      have alike : artifact = other := by simpa [Build.run, buildRequest, answered, held] using built
      rw [← alike, loads] at bad
      cases bad

theorem failed_host (path : Path) (failure : Failure) (after : Host)
    (compiled : CompileCase s h path (.error failure) after) :
    after.store = h.store ∧ after.nextOrder = h.nextOrder ∧ after.config = h.config := by
  cases compiled with
  | undrafted failure bad => exact ⟨rfl, rfl, rfl⟩
  | unbuilt d failure drafted bad => exact ⟨probe_store s h, probe_order s h, probe_config s h⟩
  | unloaded d artifact fault drafted built bad => exact ⟨probe_store s h, probe_order s h, probe_config s h⟩

theorem diagnosed_kind (source output : String) :
    (Build.diagnose source output).kind ∈ [Failure.Kind.syntaxError, .compilationError] := by
  unfold Build.diagnose
  dsimp only
  split
  · exact List.mem_cons_self
  · split
    · exact List.mem_cons_of_mem _ List.mem_cons_self
    · exact List.mem_cons_of_mem _ List.mem_cons_self

theorem build_fault_kind (source : String) (fault : Toolchain.Fault) :
    (Build.failureOf source fault).kind ∈ [Failure.Kind.syntaxError, .compilationError] := by
  have bare : (Build.faultFailure source fault).kind ∈ [Failure.Kind.syntaxError, .compilationError] := by
    cases fault with
    | failed command status stderr stdout => exact diagnosed_kind source stderr
    | _ => simp [Build.faultFailure, Build.compilation]
  unfold Build.failureOf
  cases fault.retryable with
  | false => exact bare
  | true => exact bare

theorem artifact_failure_kind (bundle : Bundle) (failure : Failure) (missing : bundle.artifact = .error failure) :
    failure.kind = .artifactLoadError := by
  unfold Bundle.artifact at missing
  split at missing
  · cases missing
  · split at missing
    · cases missing
      rfl
    · cases missing
      rfl

theorem run_failure_kind (toolchain : Toolchain) (tree : FileTree) (request : Toolchain.BuildRequest)
    (failure : Failure) (bad : Build.run toolchain tree request = .error failure) :
    failure.kind ∈ [Failure.Kind.syntaxError, .compilationError, .artifactLoadError] := by
  unfold Build.run at bad
  cases answered : toolchain.build tree request with
  | error fault =>
      simp only [answered, Except.error.injEq] at bad
      have kind := build_fault_kind request.source fault
      rw [bad] at kind
      simp only [List.mem_cons, List.not_mem_nil, or_false] at kind ⊢
      exact kind.imp_right Or.inl
  | ok bundle =>
      simp only [answered] at bad
      simp [artifact_failure_kind bundle failure bad]

theorem draft_failure_kind (path : Path) (failure : Failure) (bad : draft s path = .error failure) :
    failure.kind ∈ [Failure.Kind.fileNotFound, .invalidNamespace] := by
  unfold draft at bad
  cases held : s.workspace.tree.read path with
  | error fault =>
      simp only [held, Except.error.injEq] at bad
      subst bad
      cases fault <;> simp [unreadable]
  | ok source =>
      simp only [held] at bad
      split at bad
      · cases bad
        simp [withoutPackage]
      · cases bad

theorem compile_failure_kind (path : Path) (failure : Failure) (after : Host)
    (compiled : CompileCase s h path (.error failure) after) :
    failure.kind ∈ [Failure.Kind.fileNotFound, .invalidNamespace, .syntaxError, .compilationError,
      .artifactLoadError] := by
  cases compiled with
  | undrafted failure bad =>
      have kind := draft_failure_kind s path failure bad
      simp only [List.mem_cons, List.not_mem_nil, or_false] at kind ⊢
      exact kind.elim Or.inl fun kind => Or.inr (Or.inl kind)
  | unbuilt d failure drafted bad =>
      have kind := run_failure_kind _ _ _ failure bad
      exact List.mem_cons_of_mem _ (List.mem_cons_of_mem _ kind)
  | unloaded d artifact fault drafted built bad => simp [loadFailure]

-- Surroundings with given files, in which every policy compiles and allows everything.
def permissive (tree : FileTree) (directory : Location) : Surroundings :=
  { workspace := { tree, directory }
    toolchain :=
      .answering (.ok ⟨0, 70, 0⟩) (.ok (.ofFiles [(Bundle.artifactName, .bytes Artifact.header)])) (.ok .null)
    runtime := .answering [] fun _ _ => .ok (some (.bool true)) }

def only (text : String) : Surroundings :=
  permissive { nodes := [(["srv"], .directory), (["srv", "a.rego"], .file (Text.encode text))] } ["srv"]

def twoPolicies : FileTree :=
  { nodes :=
      [(["srv"], .directory), (["srv", "a.rego"], .file (Text.encode "package shared\nallow := true\n")),
       (["srv", "b.rego"], .file (Text.encode "package shared\ndeny := true\n"))] }

def idle : Host := { config := {}, store := .empty, nextOrder := 0, probed := none, calls := [] }

end PolicyHost.Host
