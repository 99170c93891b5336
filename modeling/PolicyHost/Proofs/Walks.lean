import PolicyHost.FileTree

set_option autoImplicit false

namespace PolicyHost.FileTree

def Solid (t : FileTree) (place : Location) : Prop :=
  ∀ front, front <+: place → t.get? front = some .directory

def Settled (t : FileTree) (place : Location) : Prop :=
  Solid t place ∨ Solid t place.dropLast ∧ ∃ content, t.get? place = some (.file content)

def Node.shape : Node → Node
  | .file _ => .file []
  | node => node

-- The same directories and links, and files at the same places.
def SameShape (t u : FileTree) : Prop :=
  ∀ place, (t.get? place).map Node.shape = (u.get? place).map Node.shape

theorem solid_root (t : FileTree) : Solid t [] := by
  intro front inside
  obtain rfl := List.prefix_nil.mp inside
  rfl

theorem solid_drop_last (t : FileTree) (place : Location) (solid : Solid t place) : Solid t place.dropLast :=
  fun front inside => solid front (inside.trans (List.dropLast_prefix place))

theorem solid_append (t : FileTree) (place : Location) (name : String) (solid : Solid t place)
    (directory : t.get? (place ++ [name]) = some .directory) : Solid t (place ++ [name]) := by
  intro front inside
  rcases List.prefix_concat_iff.mp inside with rfl | inside
  · exact directory
  · exact solid front inside

theorem advance_settled (t : FileTree) (place : Location) (segments : List String) (solid : Solid t place) :
    match t.advance place segments with
    | .arrived there => Settled t there
    | .link there _ _ => Solid t there
    | .failed _ => True := by
  induction segments generalizing place with
  | nil => exact Or.inl solid
  | cons segment rest ih =>
      by_cases up : segment = ".."
      · simpa only [advance, if_pos up] using ih place.dropLast (solid_drop_last t place solid)
      · by_cases counted : Path.counts segment = true
        · simp only [advance, if_neg up, if_pos counted]
          cases found : t.get? (place ++ [segment]) with
          | none => trivial
          | some node =>
              cases node with
              | directory => exact ih _ (solid_append t place segment solid found)
              | link target => exact solid
              | file content =>
                  cases rest with
                  | nil => exact Or.inr ⟨by simpa using solid, content, found⟩
                  | cons next tail => trivial
        · simpa only [advance, if_neg up, if_neg counted] using ih place solid

theorem origin_solid (t : FileTree) (place : Location) (text : String) (solid : Solid t place) :
    Solid t (origin place text) := by
  unfold origin
  split
  · exact solid_root t
  · exact solid

theorem walk_from_settled (t : FileTree) (links : Nat) (place there : Location) (segments : List String)
    (solid : Solid t place) (arrives : t.walkFrom links place segments = .ok there) : Settled t there := by
  induction links generalizing place segments with
  | zero =>
      have step := advance_settled t place segments solid
      unfold walkFrom at arrives
      cases progress : t.advance place segments with
      | arrived last => simp_all
      | failed fault => simp [progress] at arrives
      | link last target rest => simp [progress] at arrives
  | succ links ih =>
      have step := advance_settled t place segments solid
      unfold walkFrom at arrives
      cases progress : t.advance place segments with
      | arrived last => simp_all
      | failed fault => simp [progress] at arrives
      | link last target rest =>
          rw [progress] at arrives step
          exact ih _ _ (origin_solid t last target step) arrives

theorem locate_settled (t : FileTree) (p : Path) (place : Location) (arrives : t.locate p = .ok place) :
    Settled t place := by
  unfold locate walk? at arrives
  split at arrives
  · cases arrives
  · exact walk_from_settled t maxLinks [] place p.names (solid_root t) arrives

-- What the first segments do is done before the others count, but that a file can only be arrived at
-- by the last segment.
theorem advance_front (t : FileTree) (place : Location) (front rest : List String) :
    match t.advance place front with
    | .arrived _ => True
    | .link there target left => t.advance place (front ++ rest) = .link there target (left ++ rest)
    | .failed fault => t.advance place (front ++ rest) = .failed fault := by
  induction front generalizing place with
  | nil => trivial
  | cons segment front ih =>
      by_cases up : segment = ".."
      · simpa only [List.cons_append, advance, if_pos up] using ih place.dropLast
      · by_cases counted : Path.counts segment = true
        · simp only [List.cons_append, advance, if_neg up, if_pos counted]
          cases t.get? (place ++ [segment]) with
          | none => rfl
          | some node =>
              cases node with
              | directory => exact ih _
              | link target => rfl
              | file content => cases front <;> simp
        · simpa only [List.cons_append, advance, if_neg up, if_neg counted] using ih place

theorem walk_from_front (t : FileTree) (links : Nat) (place there : Location) (front rest : List String)
    (arrives : t.walkFrom links place (front ++ rest) = .ok there) :
    ∃ halfway, t.walkFrom links place front = .ok halfway := by
  induction links generalizing place front with
  | zero =>
      have step := advance_front t place front rest
      unfold walkFrom at arrives ⊢
      cases progress : t.advance place front with
      | arrived halfway => exact ⟨halfway, rfl⟩
      | failed fault => simp_all
      | link last target left => simp_all
  | succ links ih =>
      have step := advance_front t place front rest
      unfold walkFrom at arrives ⊢
      cases progress : t.advance place front with
      | arrived halfway => exact ⟨halfway, rfl⟩
      | failed fault => simp_all
      | link last target left =>
          simp only [progress] at step
          simp only [step, ← List.append_assoc] at arrives
          exact ih _ _ arrives

theorem locate_front (t : FileTree) (p base : Path) (place : Location) (inside : base.names <+: p.names)
    (arrives : t.locate p = .ok place) : ∃ halfway, t.locate base = .ok halfway := by
  obtain ⟨rest, split⟩ := inside
  unfold locate walk? at arrives ⊢
  rw [← split] at arrives
  by_cases zero : (base.names.any fun segment => segment.toList.contains '\x00') = true
  · rw [if_pos (by simp only [List.any_append, zero, Bool.true_or])] at arrives
    cases arrives
  · rw [if_neg zero]
    split at arrives
    · cases arrives
    · exact walk_from_front t maxLinks [] place base.names rest arrives

theorem advance_same_shape (t u : FileTree) (place : Location) (segments : List String) (same : SameShape t u) :
    t.advance place segments = u.advance place segments := by
  induction segments generalizing place with
  | nil => rfl
  | cons segment rest ih =>
      have here := same (place ++ [segment])
      simp only [advance, ih]
      generalize t.get? (place ++ [segment]) = left at here ⊢
      generalize u.get? (place ++ [segment]) = right at here ⊢
      cases left with
      | none =>
          cases right with
          | none => rfl
          | some other => cases here
      | some node =>
          cases right with
          | none => cases here
          | some other => cases node <;> cases other <;> simp_all [Node.shape]

theorem walk_from_same_shape (t u : FileTree) (links : Nat) (place : Location) (segments : List String)
    (same : SameShape t u) : t.walkFrom links place segments = u.walkFrom links place segments := by
  induction links generalizing place segments with
  | zero =>
      unfold walkFrom
      rw [advance_same_shape t u place segments same]
  | succ links ih =>
      unfold walkFrom
      rw [advance_same_shape t u place segments same]
      cases u.advance place segments with
      | arrived there => rfl
      | failed fault => rfl
      | link there target rest => exact ih _ _

theorem locate_same_shape (t u : FileTree) (p : Path) (same : SameShape t u) : t.locate p = u.locate p := by
  unfold locate walk?
  rw [walk_from_same_shape t u maxLinks [] p.names same]

theorem read_file (t : FileTree) (p : Path) (text : String) (held : t.read p = .ok text) :
    ∃ place content, t.locate p = .ok place ∧ t.get? place = some (.file content) ∧
      Text.decode? content = some text := by
  unfold read at held
  cases located : t.locate p with
  | error fault => simp [located, bind, Except.bind] at held
  | ok place =>
      simp only [located, bind, Except.bind, textAt] at held
      cases found : t.get? place with
      | none => simp [found] at held
      | some node =>
          cases node with
          | directory => simp_all
          | link target => simp_all
          | file content =>
              cases decoded : Text.decode? content with
              | none => simp_all
              | some text => simp_all

end PolicyHost.FileTree
