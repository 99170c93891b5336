import PolicyHost.Proofs.Loads
import PolicyHost.Proofs.Store
import PolicyHost.Proofs.Walks

set_option autoImplicit false

namespace PolicyHost.Host

open FileTree (SameShape Settled)

theorem inside_names (p base : Path) (inside : p.isInside base = true) :
    p.rooted = base.rooted ∧ base.names <+: p.names := by
  simpa [Path.isInside] using inside

theorem absolute_rooted (w : Workspace) (text : String) (p : Path) (ok : w.absolute text = .ok p) :
    p.rooted = true := by
  unfold Workspace.absolute Path.absolute? at ok
  split at ok
  · next found =>
      split at found
      · cases found
      · cases found
        cases ok
        rfl
  · cases ok

theorem confined_key (w : Workspace) (text : String) (root key : Path) (ok : w.confined text root = .ok key) :
    key.isInside root = true ∧ w.escapes key root = false := by
  unfold Workspace.confined at ok
  dsimp only at ok
  split at ok
  · next accepted =>
      cases ok
      simpa using accepted
  · cases ok

theorem resolve_inside (w : Workspace) (text base : String) (key : Path)
    (ok : w.resolve text (some base) = .ok key) :
    ∃ root, w.absolute base = .ok root ∧ root.rooted = true ∧ key.rooted = true ∧
      root.names <+: key.names ∧ w.escapes key root = false := by
  simp only [Workspace.resolve, bind, Except.bind] at ok
  cases seen : w.absolute base with
  | error failure => simp [seen] at ok
  | ok root =>
      simp only [seen] at ok
      obtain ⟨inside, contained⟩ := confined_key w text root key ok
      have rooted := absolute_rooted w base root seen
      obtain ⟨same, names⟩ := inside_names key root inside
      exact ⟨root, rfl, rooted, same.trans rooted, names, contained⟩

-- The links of a base are followed before those below it, so the check is never left out for a path
-- that leads somewhere.
theorem located_inside (w : Workspace) (key root : Path) (place : Location) (names : root.names <+: key.names)
    (contained : w.escapes key root = false) (located : w.tree.locate key = .ok place) :
    ∃ allowed, w.tree.locate root = .ok allowed ∧ allowed <+: place := by
  obtain ⟨allowed, found⟩ := FileTree.locate_front w.tree key root place names located
  refine ⟨allowed, found, ?_⟩
  simpa [Workspace.escapes, located, found] using contained

def SourceWithin (t : FileTree) (root : Path) (p : Policy) : Prop :=
  ∃ allowed place content, t.locate root = .ok allowed ∧ Settled t allowed ∧
    t.locate p.path = .ok place ∧ Settled t place ∧ t.get? place = some (.file content) ∧
    Text.decode? content = some p.source ∧ allowed <+: place

theorem compiled_source_within (s : Surroundings) (config : Config) (p : Policy) (root : Path)
    (compiled : CompiledIn s config p) (names : root.names <+: p.path.names)
    (contained : s.workspace.escapes p.path root = false) : SourceWithin s.workspace.tree root p := by
  obtain ⟨place, content, located, file, text⟩ := FileTree.read_file _ _ _ compiled.read
  obtain ⟨allowed, found, inside⟩ := located_inside s.workspace p.path root place names contained located
  exact ⟨allowed, place, content, found, FileTree.locate_settled _ _ _ found, located,
    FileTree.locate_settled _ _ _ located, file, text, inside⟩

theorem resolve_same_shape (w v : Workspace) (text : String) (base : Option String)
    (directory : v.directory = w.directory) (same : SameShape w.tree v.tree) :
    v.resolve text base = w.resolve text base := by
  have locate : ∀ p, v.tree.locate p = w.tree.locate p := fun p => (FileTree.locate_same_shape _ _ p same).symm
  unfold Workspace.resolve Workspace.confined Workspace.escapes Workspace.absolute
  simp only [locate, directory]

theorem load_confined (s : Surroundings) (h after : Host) (path base : String) (result : Except Failure LoadOutcome)
    (run : (load s path (some base)).run.run h = (result, after)) :
    (∀ outcome, result = .ok outcome → outcome.cached = false →
      ∃ root policy, s.workspace.absolute base = .ok root ∧ outcome = policy.outcome false ∧
        after.store.find? policy.path = some policy ∧ CompiledIn s h.config policy ∧
        policy.path.rooted = true ∧ root.names <+: policy.path.names ∧
        SourceWithin s.workspace.tree root policy) ∧
    (∀ failure, result = .error failure → failure.kind = .pathSecurityError →
      after = h ∧ ∀ other : Surroundings, other.workspace.directory = s.workspace.directory →
        SameShape s.workspace.tree other.workspace.tree →
        (load other path (some base)).run.run h = (.error failure, h)) := by
  have cases := load_cases s h path (some base)
  rw [run] at cases
  constructor
  · intro outcome succeeded new
    subst succeeded
    cases cases with
    | hit key policy resolved found => cases new
    | fresh key policy after resolved absent compiled =>
        obtain ⟨root, seen, _, rooted, names, contained⟩ := resolve_inside s.workspace path base key resolved
        obtain ⟨pathEq, _, origin⟩ := compiled_policy s h key policy after compiled
        obtain ⟨store, _, _⟩ := compiled_host s h key policy after compiled
        rw [← pathEq] at rooted names contained
        refine ⟨root, policy, seen, rfl, ?_, origin, rooted, names,
          compiled_source_within s h.config policy root origin names contained⟩
        rw [store]
        exact Store.put_policy_found _ policy
  · intro failure failed security
    subst failed
    cases cases with
    | failed key failure after resolved absent compiled =>
        have kind := compile_failure_kind s h key failure after compiled
        simp [security] at kind
    | refused failure bad =>
        refine ⟨rfl, fun other directory same => ?_⟩
        have alike := resolve_same_shape s.workspace other.workspace path (some base) directory same
        simp only [load, run_bind, run_settled, alike, bad]

def linkedTree : FileTree :=
  { nodes :=
      [(["srv", "base"], .directory), (["srv", "base", "team"], .directory),
       (["srv", "base", "team", "p.rego"], .file (Text.encode "package authz\nallow := true\n")),
       (["srv", "base", "in.rego"], .link "team/../team/p.rego"), (["srv", "base", "out.rego"], .link "/srv/q.rego"),
       (["srv"], .directory), (["srv", "q.rego"], .file (Text.encode "package authz\nallow := true\n"))] }

theorem load_confined_links :
    (∃ root policy, (permissive linkedTree ["srv"]).workspace.absolute "base/." = .ok root ∧
      policy.outcome false =
        { path := "/srv/base/in.rego", packages := ["authz"], rules := ["allow"], cached := false
          size := 8, estimate := 65560 } ∧
      SourceWithin linkedTree root policy) ∧
    ((load (permissive linkedTree ["srv"]) "out.rego" (some "base/.")).run.run idle).2 = idle := by
  constructor
  · obtain ⟨root, policy, seen, told, _, _, _, _, within⟩ :=
      (load_confined (permissive linkedTree ["srv"]) idle _ "in.rego" "base/." _ rfl).1
        { path := "/srv/base/in.rego", packages := ["authz"], rules := ["allow"], cached := false
          size := 8, estimate := 65560 } (by rfl) rfl
    exact ⟨root, policy, seen, told.symm, within⟩
  · exact ((load_confined (permissive linkedTree ["srv"]) idle _ "out.rego" "base/." _ rfl).2
      (Workspace.outside "out.rego" ⟨true, ["srv", "base"]⟩) (by rfl) rfl).1

end PolicyHost.Host
