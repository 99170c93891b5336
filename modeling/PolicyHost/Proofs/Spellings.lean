import PolicyHost.Proofs.Confinement
import PolicyHost.Proofs.Paths
import PolicyHost.Proofs.Reachable

set_option autoImplicit false

namespace PolicyHost

namespace Path

structure Tidy (names : List String) : Prop where
  genuine : Genuine names
  upless : ".." ∉ names

theorem step_upless (place : Location) (segment : String) (upless : ".." ∉ place) : ".." ∉ step place segment := by
  by_cases up : segment = ".."
  · rw [step, if_pos up]
    exact fun inside => upless (List.dropLast_subset place inside)
  · by_cases counted : counts segment = true
    · rw [step, if_neg up, if_pos counted]
      simp [upless, Ne.symm up]
    · rwa [step, if_neg up, if_neg counted]

theorem follow_upless (place : Location) (names : List String) (upless : ".." ∉ place) : ".." ∉ follow place names := by
  induction names generalizing place with
  | nil => exact upless
  | cons name rest ih => exact ih (step place name) (step_upless place name upless)

theorem from_place_tidy (place : Location) (text : String) (tidy : Tidy place) : Tidy (fromPlace place text).names := by
  refine ⟨from_place_genuine place text tidy.genuine, follow_upless _ _ ?_⟩
  split
  · exact List.not_mem_nil
  · exact tidy.upless

theorem step_name (place : Location) (name : String) (counted : counts name = true) (other : name ≠ "..") :
    step place name = place ++ [name] := by
  rw [step, if_neg other, if_pos counted]

theorem follow_tidy (place : Location) (names : List String) (tidy : Tidy names) :
    follow place names = place ++ names := by
  induction names generalizing place with
  | nil => exact (List.append_nil place).symm
  | cons name rest ih =>
      obtain ⟨here, others⟩ := List.forall_mem_cons.mp tidy.genuine
      have different : name ≠ ".." := fun same => tidy.upless (same ▸ List.mem_cons_self)
      have upless : ".." ∉ rest := fun inside => tidy.upless (List.mem_cons_of_mem _ inside)
      rw [follow, List.foldl_cons, step_name place name here.2 different]
      exact (ih (place ++ [name]) ⟨others, upless⟩).trans (List.append_cons place name rest).symm

-- Steps that lead back to where they began.
inductive Detour : List String → Prop where
  | point : Detour ["."]
  | slash : Detour [""]
  | around (name : String) (tidy : Tidy [name]) : Detour [name, ".."]

-- The names of a place as they may be written, with detours anywhere.
inductive Respelled (names : List String) : List String → Prop where
  | plain : Respelled names names
  | longer (front detour back : List String) (idle : Detour detour) (spelled : Respelled names (front ++ back)) :
      Respelled names (front ++ detour ++ back)

def Spells (p : Path) (text : String) : Prop := ∃ names, Respelled p.names names ∧ text = (ofLocation names).text

theorem follow_detour (place : Location) (detour : List String) (idle : Detour detour) : follow place detour = place := by
  cases idle with
  | point => rfl
  | slash => rfl
  | around name tidy =>
      have different : name ≠ ".." := fun same => tidy.upless (same ▸ List.mem_cons_self)
      change step (step place name) ".." = place
      rw [step_name place name (tidy.genuine name List.mem_cons_self).2 different, step, if_pos rfl, List.dropLast_concat]

theorem follow_append (place : Location) (front back : List String) :
    follow place (front ++ back) = follow (follow place front) back := List.foldl_append

theorem follow_respelled (place : Location) (names other : List String) (spelled : Respelled names other) :
    follow place other = follow place names := by
  induction spelled with
  | plain => rfl
  | longer front detour back idle _ ih =>
      rw [follow_append, follow_append, follow_detour _ detour idle, ← follow_append]
      exact ih

theorem detour_bare (detour : List String) (idle : Detour detour) : Bare detour := by
  cases idle with
  | point => decide
  | slash => decide
  | around name tidy =>
      exact List.forall_mem_cons.mpr ⟨(tidy.genuine name List.mem_cons_self).1, by simp⟩

theorem respelled_bare (names other : List String) (bare : Bare names) (spelled : Respelled names other) : Bare other := by
  induction spelled with
  | plain => exact bare
  | longer front detour back idle _ ih =>
      obtain ⟨before, behind⟩ := List.forall_mem_append.mp ih
      exact List.forall_mem_append.mpr ⟨List.forall_mem_append.mpr ⟨before, detour_bare detour idle⟩, behind⟩

variable (p : Path)

theorem spells_text (rooted : p.rooted = true) : p.Spells p.text := by
  refine ⟨p.names, .plain, ?_⟩
  rw [ofLocation, ← rooted]

theorem location_text (names : List String) :
    (ofLocation names).text.toList = '/' :: ['/'].intercalate (names.map String.toList) := by
  simp [text, ofLocation]

theorem spelled_filled (text : String) (spelled : p.Spells text) : text.isEmpty = false := by
  obtain ⟨names, _, rfl⟩ := spelled
  rw [← Bool.not_eq_true, String.isEmpty_iff]
  intro none
  have written := location_text names
  rw [none] at written
  cases written

theorem from_place_text (place names : List String) (bare : Bare names) :
    fromPlace place (ofLocation names).text = ofLocation (follow [] names) := by
  have plain : (ofLocation names).Plain := ⟨rfl, bare⟩
  have rooted : isRooted (ofLocation names).text = true := by
    rw [isRooted, location_text]
    rfl
  rw [fromPlace, if_pos rooted, segments_text _ plain]
  by_cases none : (ofLocation names).names = []
  · have bareNames : names = [] := none
    rw [if_pos none, bareNames]
    rfl
  · rw [if_neg none]
    rfl

theorem from_place_spelled (place : Location) (text : String) (rooted : p.rooted = true) (tidy : Tidy p.names)
    (spelled : p.Spells text) : fromPlace place text = p := by
  obtain ⟨names, respelled, rfl⟩ := spelled
  rw [from_place_text place names (respelled_bare p.names names (genuine_bare p.names tidy.genuine) respelled),
    follow_respelled [] p.names names respelled, follow_tidy [] p.names tidy, List.nil_append, ofLocation, ← rooted]

end Path

namespace Workspace

variable (w : Workspace) (text : String) (base : Option String) (p : Path)

theorem resolve_tidy (key : Path) (tidy : Path.Tidy w.directory) (ok : w.resolve text base = .ok key) :
    key.rooted = true ∧ Path.Tidy key.names := by
  rcases resolve_from w text base key ok with rfl | ⟨root, rfl⟩
  · exact ⟨rfl, Path.from_place_tidy w.directory text tidy⟩
  · exact ⟨rfl, Path.from_place_tidy _ text (Path.from_place_tidy w.directory root tidy)⟩

theorem absolute_spelled (rooted : p.rooted = true) (tidy : Path.Tidy p.names) (spelled : p.Spells text) :
    Path.absolute? w.directory text = some p := by
  have filled : ¬ text.isEmpty = true := by
    simp [Path.spelled_filled p text spelled]
  rw [Path.absolute?, if_neg filled, Path.from_place_spelled p w.directory text rooted tidy spelled]

theorem resolve_anywhere (rooted : p.rooted = true) (tidy : Path.Tidy p.names) (spelled : p.Spells text) :
    w.resolve text none = .ok p := by
  simp only [resolve, absolute, absolute_spelled w text p rooted tidy spelled]

theorem resolve_spelled (path : String) (rooted : p.rooted = true) (tidy : Path.Tidy p.names) (spelled : p.Spells text)
    (ok : w.resolve path base = .ok p) : w.resolve text base = .ok p := by
  cases base with
  | none => exact resolve_anywhere w text p rooted tidy spelled
  | some base =>
      cases seen : w.absolute base with
      | error failure => simp [resolve, seen, bind, Except.bind] at ok
      | ok root =>
          have accepted : w.confined path root = .ok p := by
            simpa only [resolve, seen, bind, Except.bind] using ok
          obtain ⟨inside, contained⟩ := Host.confined_key w path root p accepted
          have same := Path.from_place_spelled p root.names text rooted tidy spelled
          simp only [resolve, seen, bind, Except.bind, confined, same, inside, contained]
          rfl

end Workspace

namespace Host

variable (s : Surroundings) (h : Host) (path : String) (base : Option String)

theorem load_hit (key : Path) (policy : Policy) (resolved : s.workspace.resolve path base = .ok key)
    (found : h.store.find? key = some policy) :
    (load s path base).run.run h = (.ok (policy.outcome true), h) := by
  simp only [load, run_bind, run_settled, resolved, run_get, found, run_pure]

theorem load_present (key : Path) (outcome : LoadOutcome) (after : Host)
    (resolved : s.workspace.resolve path base = .ok key)
    (loaded : (load s path base).run.run h = (.ok outcome, after)) :
    ∃ policy, after.store.find? key = some policy ∧ outcome = policy.outcome outcome.cached := by
  have cases := load_cases s h path base
  rw [loaded] at cases
  cases cases with
  | hit other policy same found =>
      rw [resolved] at same
      cases same
      exact ⟨policy, found, rfl⟩
  | fresh other policy _ same absent compiled =>
      rw [resolved] at same
      cases same
      obtain ⟨pathEq, _, _⟩ := compiled_policy s h key policy after compiled
      obtain ⟨store, _, _⟩ := compiled_host s h key policy after compiled
      refine ⟨policy, ?_, rfl⟩
      rw [store, ← pathEq]
      exact Store.put_policy_found _ policy

theorem unload_found (key : Path) (policy : Policy) (same : unloadKey s path = key)
    (distinct : (h.store.policies.map Policy.path).Nodup) (found : h.store.find? key = some policy) :
    (unload s path h).1 = true ∧
      ∀ p, p ∈ (unload s path h).2.store.policies ↔ p ∈ h.store.policies ∧ p ≠ policy := by
  subst same
  refine ⟨congrArg Option.isSome found, fun p => ?_⟩
  obtain ⟨loaded, pathEq⟩ := (Store.find_path _ distinct _ policy).mp found
  have kept : p ∈ (unload s path h).2.store.policies ↔ p ∈ h.store.policies ∧ decide (p.path ≠ unloadKey s path) = true :=
    List.mem_filter
  rw [kept, decide_eq_true_iff]
  refine and_congr_right fun inside => not_congr ⟨fun other => ?_, fun own => own ▸ pathEq⟩
  exact List.inj_on_of_nodup_map distinct inside loaded (other.trans pathEq.symm)

structure Names (s : Surroundings) (h : Host) (base : Option String) (policy : Policy) (text : String) : Prop where
  found : (load s text none).run.run h = (.ok (policy.outcome true), h)
  foundInside : (load s text base).run.run h = (.ok (policy.outcome true), h)
  unloaded : (unload s text h).1 = true
  left : ∀ p, p ∈ (unload s text h).2.store.policies ↔ p ∈ h.store.policies ∧ p ≠ policy

theorem spelled_names (text : String) (key : Path) (policy : Policy) (rooted : key.rooted = true)
    (tidy : Path.Tidy key.names) (resolved : s.workspace.resolve path base = .ok key)
    (distinct : (h.store.policies.map Policy.path).Nodup) (found : h.store.find? key = some policy)
    (spelled : key.Spells text) : Names s h base policy text := by
  have anywhere := Workspace.resolve_anywhere s.workspace text key rooted tidy spelled
  have inside := Workspace.resolve_spelled s.workspace text base key path rooted tidy spelled resolved
  have unloading : unloadKey s text = key := by
    rw [unloadKey, Workspace.absolute_spelled s.workspace text key rooted tidy spelled, Option.getD_some]
  obtain ⟨told, left⟩ := unload_found s h text key policy unloading distinct found
  exact ⟨load_hit s h text none key policy anywhere found, load_hit s h text base key policy inside found, told, left⟩

-- The working directory and the file tree stay as they are; the toolchain and the runtime may be others later.
theorem keys_canonical (config : Config) (s : Surroundings) (path : String) (base : Option String) (key : Path)
    (tidy : Path.Tidy s.workspace.directory) (resolved : s.workspace.resolve path base = .ok key) :
    key.rooted = true ∧ "." ∉ key.names ∧ ".." ∉ key.names ∧ key.Spells key.text ∧
      (∀ text, key.Spells text →
        s.workspace.resolve text none = .ok key ∧ s.workspace.resolve text base = .ok key) ∧
      ∀ (h after : Host) (outcome : LoadOutcome), Reachable config h →
        (load s path base).run.run h = (.ok outcome, after) →
        ∃ policy, after.store.find? key = some policy ∧ outcome = policy.outcome outcome.cached ∧
          ∀ (t : Surroundings) (text : String), t.workspace = s.workspace → key.Spells text →
            Names t after base policy text := by
  obtain ⟨rooted, neat⟩ := Workspace.resolve_tidy s.workspace path base key tidy resolved
  refine ⟨rooted, ?_, neat.upless, Path.spells_text key rooted, ?_, ?_⟩
  · intro inside
    have counted := (neat.genuine "." inside).2
    revert counted
    decide
  · intro text spelled
    exact ⟨Workspace.resolve_anywhere s.workspace text key rooted neat spelled,
      Workspace.resolve_spelled s.workspace text base key path rooted neat spelled resolved⟩
  · intro h after outcome reachable loaded
    obtain ⟨policy, found, same⟩ := load_present s h path base key outcome after resolved loaded
    have kept : Kept config after [] := by
      have kept := load_kept config s h path base (reachable_kept config h reachable)
      rwa [loaded] at kept
    refine ⟨policy, found, same, fun t text alike spelled => ?_⟩
    exact spelled_names t after path base text key policy rooted neat (alike ▸ resolved) kept.paths found spelled

theorem link_spelled : (⟨true, ["srv", "base", "in.rego"]⟩ : Path).Spells "/srv//base/x/.././in.rego/" := by
  refine ⟨["srv", "", "base", "x", "..", ".", "in.rego", ""], ?_, by decide +kernel⟩
  refine .longer ["srv", "", "base", "x", "..", ".", "in.rego"] [""] [] .slash ?_
  refine .longer ["srv", "", "base", "x", ".."] ["."] ["in.rego"] .point ?_
  refine .longer ["srv", "", "base"] ["x", ".."] ["in.rego"] (.around "x" ⟨by decide, by decide⟩) ?_
  exact .longer ["srv"] [""] ["base", "in.rego"] .slash .plain

theorem keys_canonical_link :
    Path.Tidy ["srv"] ∧
      (permissive linkedTree ["srv"]).workspace.resolve "in.rego" (some "base/.") =
        .ok ⟨true, ["srv", "base", "in.rego"]⟩ ∧
      ∃ policy, Names (permissive linkedTree ["srv"])
        ((load (permissive linkedTree ["srv"]) "in.rego" (some "base/.")).run.run idle).2 (some "base/.") policy
        "/srv//base/x/.././in.rego/" := by
  have tidy : Path.Tidy ["srv"] := ⟨by decide, by decide⟩
  have resolved : (permissive linkedTree ["srv"]).workspace.resolve "in.rego" (some "base/.") =
      .ok ⟨true, ["srv", "base", "in.rego"]⟩ := by rfl
  obtain ⟨_, _, _, _, _, loads⟩ := keys_canonical {} (permissive linkedTree ["srv"]) "in.rego" (some "base/.") _ tidy resolved
  have loaded : (((load (permissive linkedTree ["srv"]) "in.rego" (some "base/.")).run.run idle).1).isOk = true := by
    decide +kernel
  cases result : (load (permissive linkedTree ["srv"]) "in.rego" (some "base/.")).run.run idle with
  | mk answer after =>
      rw [result] at loaded
      cases answer with
      | error failure => cases loaded
      | ok outcome =>
          obtain ⟨policy, _, _, names⟩ := loads idle after outcome (.new idle rfl) result
          exact ⟨tidy, resolved, policy, names _ _ rfl link_spelled⟩

end Host

end PolicyHost
