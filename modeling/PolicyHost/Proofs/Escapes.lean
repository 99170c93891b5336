import PolicyHost.Proofs.Confinement
import PolicyHost.Proofs.Ways

/-!
What the check of links lets through. A path inside its base is refused if its links lead out to something that
the system finds, and only then: where nothing stands at the end of the way, or the way is too long, the path is
taken although it leads out of the base, and is refused as soon as a file is put there.
-/

set_option autoImplicit false

namespace PolicyHost

namespace FileTree

-- Two trees that differ in one place, where the second has a file and the first has nothing.
structure Filled (t u : FileTree) (place : Location) : Prop where
  missing : t.get? place = none
  file : ∃ content, u.get? place = some (.file content)
  elsewhere : ∀ other, other ≠ place → u.get? other = t.get? other

theorem filled_kept (t u : FileTree) (place other : Location) (node : Node) (filled : Filled t u place)
    (stands : t.get? other = some node) : u.get? other = some node := by
  have different : other ≠ place := by
    rintro rfl
    rw [filled.missing] at stands
    cases stands
  rw [filled.elsewhere other different, stands]

theorem filled_links (t u : FileTree) (place other : Location) (target : String) (filled : Filled t u place)
    (bare : t.get? other ≠ some (.link target)) : u.get? other ≠ some (.link target) := by
  intro points
  by_cases same : other = place
  · obtain ⟨content, file⟩ := filled.file
    rw [same, file] at points
    cases points
  · rw [filled.elsewhere other same] at points
    exact bare points

theorem filled_leads (t u : FileTree) (place : Location) (links : Nat) (start there : Location)
    (segments : List String) (filled : Filled t u place) (leads : Leads t Anyhow links start segments there) :
    Leads u Anyhow links start segments there := by
  refine leads_carried t u _ _ _ _ _ _ leads (fun other target => filled_kept t u place other _ filled) ?_
  exact fun other _ bare _ => ⟨fun target => filled_links t u place other target filled (bare target), trivial⟩

theorem filled_found (t u : FileTree) (place there : Location) (p : Path) (filled : Filled t u place)
    (found : Found t p there) : Found u p there := by
  obtain ⟨links, within, leads⟩ := found.way
  refine ⟨found.bare, links, within, ?_⟩
  refine leads_carried t u _ _ _ _ _ _ leads (fun other target => filled_kept t u place other _ filled) ?_
  intro other rest bare stands
  refine ⟨fun target => filled_links t u place other target filled (bare target), ?_⟩
  rcases stands with directory | ⟨⟨content, file⟩, last⟩
  · exact Or.inl (filled_kept t u place other _ filled directory)
  · exact Or.inr ⟨⟨content, filled_kept t u place other _ filled file⟩, last⟩

theorem found_stands (t : FileTree) (p : Path) (place : Location) (found : Found t p place) :
    t.get? place ≠ none := by
  intro missing
  rcases locate_settled t p place ((locate_iff t p place).mpr found) with solid | ⟨_, content, file⟩
  · have directory := solid place (List.prefix_refl place)
    rw [missing] at directory
    cases directory
  · rw [missing] at file
    cases file

end FileTree

namespace Workspace

open FileTree (Anyhow Filled Found Leads Loopless)

theorem escapes_iff (w : Workspace) (key root : Path) (links : Nat) (allowed place : Location)
    (existing : Found w.tree root allowed) (leads : Leads w.tree Anyhow links [] key.names place) :
    w.escapes key root = true ↔ Found w.tree key place ∧ ¬ allowed <+: place := by
  have base : w.tree.locate root = .ok allowed := (FileTree.locate_iff _ _ _).mpr existing
  cases located : w.tree.locate key with
  | error fault =>
      have lost : ¬ Found w.tree key place := by
        intro found
        rw [(FileTree.locate_iff _ _ _).mpr found] at located
        cases located
      simp [escapes, located, lost]
  | ok there =>
      have found : Found w.tree key there := (FileTree.locate_iff _ _ _).mp located
      obtain ⟨more, also⟩ := FileTree.found_leads _ _ _ found
      obtain ⟨_, rfl⟩ := FileTree.leads_unique _ _ _ _ _ _ _ _ _ leads also
      rw [← List.isPrefixOf_iff_prefix, Bool.not_eq_true]
      simp [escapes, located, base, found]

structure Judged (w : Workspace) (text base : String) (root key : Path) (allowed place : Location) : Prop where
  taken : w.resolve text (some base) = .ok key ↔
    key.isInside root = true ∧ (Found w.tree key place → allowed <+: place)
  refused : w.resolve text (some base) = .error (outside text root) ↔
    ¬ key.isInside root = true ∨ Found w.tree key place ∧ ¬ allowed <+: place

theorem resolve_within (w : Workspace) (text base : String) (root : Path) (named : w.absolute base = .ok root) :
    w.resolve text (some base) =
      if (Path.fromPlace root.names text).isInside root = true ∧
          ¬ w.escapes (Path.fromPlace root.names text) root = true then .ok (Path.fromPlace root.names text)
      else .error (outside text root) := by
  simp [resolve, confined, named, bind, Except.bind]

theorem resolve_judged (w : Workspace) (text base : String) (root : Path) (links : Nat) (allowed place : Location)
    (named : w.absolute base = .ok root) (existing : Found w.tree root allowed)
    (leads : Leads w.tree Anyhow links [] (Path.fromPlace root.names text).names place) :
    Judged w text base root (Path.fromPlace root.names text) allowed place := by
  have answer := resolve_within w text base root named
  have escapes := escapes_iff w (Path.fromPlace root.names text) root links allowed place existing leads
  by_cases admitted : (Path.fromPlace root.names text).isInside root = true ∧
      ¬ w.escapes (Path.fromPlace root.names text) root = true
  · rw [if_pos admitted] at answer
    rw [escapes] at admitted
    constructor
    · rw [answer]
      exact iff_of_true rfl ⟨admitted.1, fun found => Classical.not_not.mp fun out => admitted.2 ⟨found, out⟩⟩
    · rw [answer]
      exact iff_of_false nofun (Or.rec (fun out => out admitted.1) admitted.2)
  · rw [if_neg admitted] at answer
    rw [escapes] at admitted
    constructor
    · rw [answer]
      exact iff_of_false nofun fun taken => admitted ⟨taken.1, fun leaves => leaves.2 (taken.2 leaves.1)⟩
    · rw [answer]
      exact iff_of_true rfl ((Classical.not_and_iff_not_or_not.mp admitted).imp_right Classical.not_not.mp)

theorem guard_exact (w : Workspace) (text base : String) (root : Path) (allowed : Location)
    (named : w.absolute base = .ok root) (existing : Found w.tree root allowed) (loopless : Loopless w.tree) :
    ∃ links place, Leads w.tree Anyhow links [] (Path.fromPlace root.names text).names place ∧
      (∀ more other, Leads w.tree Anyhow more [] (Path.fromPlace root.names text).names other → other = place) ∧
      Judged w text base root (Path.fromPlace root.names text) allowed place ∧
      ∀ u, Filled w.tree u place →
        (w.resolve text (some base) = .ok (Path.fromPlace root.names text) ↔
          (Path.fromPlace root.names text).isInside root = true) ∧
        Leads u Anyhow links [] (Path.fromPlace root.names text).names place ∧
        Judged { w with tree := u } text base root (Path.fromPlace root.names text) allowed place := by
  obtain ⟨links, place, leads⟩ := FileTree.loopless_leads w.tree loopless [] (Path.fromPlace root.names text).names
  have judged := resolve_judged w text base root links allowed place named existing leads
  refine ⟨links, place, leads, ?_, judged, ?_⟩
  · exact fun more other also => (FileTree.leads_unique _ _ _ _ _ _ _ _ _ leads also).2.symm
  · intro u filled
    have lost : ¬ Found w.tree (Path.fromPlace root.names text) place :=
      fun found => FileTree.found_stands _ _ _ found filled.missing
    have still := FileTree.filled_leads _ u place _ _ _ _ filled leads
    refine ⟨⟨fun taken => (judged.taken.mp taken).1, fun inside => judged.taken.mpr ⟨inside, fun found => absurd found lost⟩⟩,
      still, ?_⟩
    exact resolve_judged { w with tree := u } text base root links allowed place named
      (FileTree.filled_found _ u place _ _ filled existing) still

-- A link leads by way of another one, to a directory outside the base, to a file that is not there.
def outletTree : FileTree :=
  { nodes :=
      [(["srv"], .directory), (["srv", "base"], .directory), (["srv", "base", "in.rego"], .link "mid/../p.rego"),
       (["srv", "base", "mid"], .link "/out/deep"), (["out"], .directory), (["out", "deep"], .directory)] }

def outlet : Workspace := ⟨outletTree, ["srv"]⟩

def filledOutlet : Workspace := ⟨outletTree.set ["out", "p.rego"] (.file []), ["srv"]⟩

theorem outlet_deep (links : Nat) (rest : List String) (there : Location)
    (on : Leads outletTree Anyhow links ["out", "deep"] rest there) :
    Leads outletTree Anyhow links [] ("" :: "out" :: "deep" :: rest) there := by
  refine .blank _ _ _ _ _ (by decide) (.name _ _ _ _ _ (by decide) (by decide) ?_ trivial ?_)
  · nofun
  · refine .name _ _ _ _ _ (by decide) (by decide) ?_ trivial on
    nofun

theorem outlet_mid (links : Nat) (rest : List String) (there : Location)
    (on : Leads outletTree Anyhow links ["out", "deep"] rest there) :
    Leads outletTree Anyhow (links + 1) ["srv", "base"] ("mid" :: rest) there :=
  .link _ _ _ _ "/out/deep" _ (by decide) (by decide) rfl (outlet_deep links rest there on)

theorem outlet_in : Leads outletTree Anyhow 1 ["srv", "base"] ["mid", "..", "p.rego"] ["out", "p.rego"] := by
  refine outlet_mid _ _ _ (.up _ _ _ _ (.name _ _ _ _ _ (by decide) (by decide) ?_ trivial (.here _)))
  nofun

theorem outlet_leads : Leads outletTree Anyhow 2 [] ["srv", "base", "in.rego"] ["out", "p.rego"] := by
  refine .name _ _ _ _ _ (by decide) (by decide) ?_ trivial ?_
  · nofun
  · refine .name _ _ _ _ _ (by decide) (by decide) ?_ trivial ?_
    · nofun
    · exact .link _ _ _ _ "mid/../p.rego" _ (by decide) (by decide) rfl outlet_in

theorem outlet_loopless : Loopless outletTree := by
  intro place segment target points
  rw [FileTree.get?, if_neg (by simp)] at points
  have listed := mem_of_lookup _ _ _ points
  simp only [outletTree, List.mem_cons, Prod.mk.injEq, reduceCtorEq, and_false, false_or, List.not_mem_nil, or_false,
    FileTree.Node.link.injEq] at listed
  rcases listed with ⟨there, rfl⟩ | ⟨there, rfl⟩
  · obtain ⟨rfl, _⟩ := List.append_inj' (there.trans (rfl : _ = ["srv", "base"] ++ ["in.rego"])) rfl
    exact ⟨_, _, outlet_in⟩
  · obtain ⟨rfl, _⟩ := List.append_inj' (there.trans (rfl : _ = ["srv", "base"] ++ ["mid"])) rfl
    exact ⟨_, _, outlet_deep _ _ _ (.here _)⟩

theorem outlet_base : Found outletTree ⟨true, ["srv", "base"]⟩ ["srv", "base"] :=
  (FileTree.locate_iff _ _ _).mp (by rfl)

theorem outlet_filled : Filled outletTree filledOutlet.tree ["out", "p.rego"] := by
  refine ⟨by rfl, ⟨[], by rfl⟩, fun other different => ?_⟩
  by_cases none : other.isEmpty = true
  · simp [FileTree.get?, none]
  · rw [FileTree.get?, FileTree.get?, if_neg none, if_neg none]
    refine Eq.trans ?_ (lookup_filter outletTree.nodes other ["out", "p.rego"] different)
    exact (List.lookup_cons ..).trans (by rw [beq_eq_false_iff_ne.mpr different])

theorem guard_exact_outlet :
    outlet.absolute "base" = .ok ⟨true, ["srv", "base"]⟩ ∧ Found outletTree ⟨true, ["srv", "base"]⟩ ["srv", "base"] ∧
    Loopless outletTree ∧
    Judged outlet "in.rego" "base" ⟨true, ["srv", "base"]⟩ ⟨true, ["srv", "base", "in.rego"]⟩ ["srv", "base"]
      ["out", "p.rego"] ∧
    Judged filledOutlet "in.rego" "base" ⟨true, ["srv", "base"]⟩ ⟨true, ["srv", "base", "in.rego"]⟩ ["srv", "base"]
      ["out", "p.rego"] := by
  have named : outlet.absolute "base" = .ok ⟨true, ["srv", "base"]⟩ := by rfl
  obtain ⟨_, place, _, unique, judged, others⟩ :=
    guard_exact outlet "in.rego" "base" ⟨true, ["srv", "base"]⟩ ["srv", "base"] named outlet_base outlet_loopless
  obtain rfl : ["out", "p.rego"] = place := unique 2 _ outlet_leads
  exact ⟨named, outlet_base, outlet_loopless, judged, (others filledOutlet.tree outlet_filled).2.2⟩

-- The link leads out of the base, and whether it is refused depends on a file beyond it.
theorem outlet_taken :
    outlet.absolute "base" = .ok ⟨true, ["srv", "base"]⟩ ∧ Found outletTree ⟨true, ["srv", "base"]⟩ ["srv", "base"] ∧
    Loopless outletTree ∧ Filled outletTree filledOutlet.tree ["out", "p.rego"] ∧
    Leads outletTree Anyhow 2 [] (Path.fromPlace ["srv", "base"] "in.rego").names ["out", "p.rego"] ∧
    ¬ ["srv", "base"] <+: ["out", "p.rego"] ∧
    outlet.resolve "in.rego" (some "base") = .ok ⟨true, ["srv", "base", "in.rego"]⟩ ∧
    filledOutlet.resolve "in.rego" (some "base") = .error (outside "in.rego" ⟨true, ["srv", "base"]⟩) :=
  ⟨by rfl, outlet_base, outlet_loopless, outlet_filled, outlet_leads, by decide, by rfl, by rfl⟩

end Workspace

end PolicyHost
