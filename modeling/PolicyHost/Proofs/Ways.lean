import PolicyHost.Proofs.Tables
import PolicyHost.Proofs.Walks

set_option autoImplicit false

namespace PolicyHost.FileTree

-- Where segments lead from a place, and through how many links. A name that no link stands at is stepped on, as
-- far as the place is passable with what is left of the way.
inductive Leads (t : FileTree) (passable : Location → List String → Prop) :
    Nat → Location → List String → Location → Prop where
  | here (place : Location) : Leads t passable 0 place [] place
  | up (links : Nat) (place there : Location) (rest : List String)
      (on : Leads t passable links place.dropLast rest there) : Leads t passable links place (".." :: rest) there
  | blank (links : Nat) (place there : Location) (segment : String) (rest : List String)
      (blank : ¬ Path.counts segment = true) (on : Leads t passable links place rest there) :
      Leads t passable links place (segment :: rest) there
  | name (links : Nat) (place there : Location) (segment : String) (rest : List String) (forward : segment ≠ "..")
      (counted : Path.counts segment = true) (solid : ∀ target, t.get? (place ++ [segment]) ≠ some (.link target))
      (free : passable (place ++ [segment]) rest) (on : Leads t passable links (place ++ [segment]) rest there) :
      Leads t passable links place (segment :: rest) there
  | link (links : Nat) (place there : Location) (segment target : String) (rest : List String)
      (forward : segment ≠ "..") (counted : Path.counts segment = true)
      (points : t.get? (place ++ [segment]) = some (.link target))
      (on : Leads t passable links (origin place target) (Path.segments target ++ rest) there) :
      Leads t passable (links + 1) place (segment :: rest) there

def Anyhow (_ : Location) (_ : List String) : Prop := True

def Stands (t : FileTree) (place : Location) (rest : List String) : Prop :=
  t.get? place = some .directory ∨ (∃ content, t.get? place = some (.file content)) ∧ rest = []

structure Found (t : FileTree) (p : Path) (place : Location) : Prop where
  bare : ∀ name ∈ p.names, '\x00' ∉ name.toList
  way : ∃ links ≤ maxLinks, Leads t t.Stands links [] p.names place

def Loopless (t : FileTree) : Prop :=
  ∀ place segment target, t.get? (place ++ [segment]) = some (.link target) →
    ∃ links there, Leads t Anyhow links (origin place target) (Path.segments target) there

theorem advance_up (t : FileTree) (place : Location) (rest : List String) :
    t.advance place (".." :: rest) = t.advance place.dropLast rest := by
  rw [advance, if_pos rfl]

theorem advance_blank (t : FileTree) (place : Location) (segment : String) (rest : List String)
    (blank : ¬ Path.counts segment = true) : t.advance place (segment :: rest) = t.advance place rest := by
  have forward : segment ≠ ".." := fun up => blank (up ▸ by decide)
  rw [advance, if_neg forward, if_neg blank]

theorem advance_name (t : FileTree) (place : Location) (segment : String) (rest : List String)
    (forward : segment ≠ "..") (counted : Path.counts segment = true)
    (stands : t.Stands (place ++ [segment]) rest) :
    t.advance place (segment :: rest) = t.advance (place ++ [segment]) rest := by
  rw [advance, if_neg forward, if_pos counted]
  rcases stands with directory | ⟨⟨content, file⟩, rfl⟩
  · rw [directory]
  · rw [file]
    rfl

theorem advance_link (t : FileTree) (place : Location) (segment target : String) (rest : List String)
    (forward : segment ≠ "..") (counted : Path.counts segment = true)
    (points : t.get? (place ++ [segment]) = some (.link target)) :
    t.advance place (segment :: rest) = .link place target rest := by
  rw [advance, if_neg forward, if_pos counted, points]

theorem walk_from_advance (t : FileTree) (links : Nat) (place near : Location) (segments rest : List String)
    (same : t.advance place segments = t.advance near rest) :
    t.walkFrom links place segments = t.walkFrom links near rest := by
  rw [walkFrom, walkFrom, same]

theorem leads_walk (t : FileTree) (links limit : Nat) (place there : Location) (segments : List String)
    (leads : Leads t t.Stands links place segments there) (within : links ≤ limit) :
    t.walkFrom limit place segments = .ok there := by
  induction leads generalizing limit with
  | here place =>
      rw [walkFrom]
      rfl
  | up links place there rest _ ih =>
      rw [walk_from_advance t limit place _ _ _ (advance_up t place rest)]
      exact ih limit within
  | blank links place there segment rest blank _ ih =>
      rw [walk_from_advance t limit place _ _ _ (advance_blank t place segment rest blank)]
      exact ih limit within
  | name links place there segment rest forward counted _ free _ ih =>
      rw [walk_from_advance t limit place _ _ _ (advance_name t place segment rest forward counted free)]
      exact ih limit within
  | link links place there segment target rest forward counted points _ ih =>
      obtain ⟨spare, rfl⟩ : ∃ spare, limit = spare + 1 := ⟨limit - 1, by omega⟩
      rw [walkFrom, advance_link t place segment target rest forward counted points]
      exact ih spare (by omega)

-- What following a way up to its next link tells about where the whole of it leads.
def Reaches (t : FileTree) (place : Location) (segments : List String) : Progress → Prop
  | .arrived there => Leads t t.Stands 0 place segments there
  | .link last target rest => ∀ links there,
      Leads t t.Stands links (origin last target) (Path.segments target ++ rest) there →
        Leads t t.Stands (links + 1) place segments there
  | .failed _ => True

theorem reaches_before (t : FileTree) (place near : Location) (segments rest : List String) (progress : Progress)
    (reaches : t.Reaches near rest progress)
    (before : ∀ links there, Leads t t.Stands links near rest there → Leads t t.Stands links place segments there) :
    t.Reaches place segments progress := by
  cases progress with
  | arrived there => exact before 0 there reaches
  | link last target left => exact fun links there on => before (links + 1) there (reaches links there on)
  | failed fault => trivial

theorem advance_reaches (t : FileTree) (place : Location) (segments : List String) :
    t.Reaches place segments (t.advance place segments) := by
  induction segments generalizing place with
  | nil => exact .here place
  | cons segment rest ih =>
      by_cases up : segment = ".."
      · subst segment
        rw [advance_up]
        exact reaches_before t _ _ _ _ _ (ih place.dropLast) fun _ _ on => .up _ _ _ _ on
      · by_cases counted : Path.counts segment = true
        · cases found : t.get? (place ++ [segment]) with
          | none =>
              rw [advance, if_neg up, if_pos counted, found]
              trivial
          | some node =>
              cases node with
              | directory =>
                  have stands : t.Stands (place ++ [segment]) rest := Or.inl found
                  rw [advance_name t place segment rest up counted stands]
                  refine reaches_before t _ _ _ _ _ (ih (place ++ [segment])) fun _ _ on => ?_
                  exact .name _ _ _ _ _ up counted (by simp [found]) stands on
              | file content =>
                  cases rest with
                  | nil =>
                      have stands : t.Stands (place ++ [segment]) [] := Or.inr ⟨⟨content, found⟩, rfl⟩
                      rw [advance_name t place segment [] up counted stands]
                      exact .name _ _ _ _ _ up counted (by simp [found]) stands (.here _)
                  | cons next tail =>
                      rw [advance, if_neg up, if_pos counted, found]
                      trivial
              | link target =>
                  rw [advance_link t place segment target rest up counted found]
                  exact fun links there on => .link _ _ _ _ _ _ up counted found on
        · rw [advance_blank t place segment rest counted]
          exact reaches_before t _ _ _ _ _ (ih place) fun _ _ on => .blank _ _ _ _ _ counted on

theorem walk_leads (t : FileTree) (limit : Nat) (place there : Location) (segments : List String)
    (arrives : t.walkFrom limit place segments = .ok there) :
    ∃ links ≤ limit, Leads t t.Stands links place segments there := by
  induction limit generalizing place segments with
  | zero =>
      have step := advance_reaches t place segments
      unfold walkFrom at arrives
      cases progress : t.advance place segments with
      | arrived last =>
          rw [progress] at arrives step
          cases arrives
          exact ⟨0, Nat.le_refl 0, step⟩
      | failed fault => simp [progress] at arrives
      | link last target rest => simp [progress] at arrives
  | succ limit ih =>
      have step := advance_reaches t place segments
      unfold walkFrom at arrives
      cases progress : t.advance place segments with
      | arrived last =>
          rw [progress] at arrives step
          cases arrives
          exact ⟨0, Nat.zero_le _, step⟩
      | failed fault => simp [progress] at arrives
      | link last target rest =>
          rw [progress] at arrives step
          obtain ⟨links, within, leads⟩ := ih _ _ arrives
          exact ⟨links + 1, Nat.succ_le_succ within, step links there leads⟩

theorem locate_iff (t : FileTree) (p : Path) (place : Location) : t.locate p = .ok place ↔ Found t p place := by
  have zeros : (p.names.any fun name => name.toList.contains '\x00') = true ↔
      ¬ ∀ name ∈ p.names, '\x00' ∉ name.toList := by simp
  unfold locate walk?
  constructor
  · intro arrives
    by_cases zero : (p.names.any fun name => name.toList.contains '\x00') = true
    · rw [if_pos zero] at arrives
      cases arrives
    · rw [if_neg zero] at arrives
      exact ⟨Classical.not_not.mp (mt zeros.mpr zero), walk_leads t maxLinks [] place p.names arrives⟩
  · rintro ⟨bare, links, within, leads⟩
    rw [if_neg fun zero => zeros.mp zero bare]
    exact leads_walk t links maxLinks [] place p.names leads within

theorem leads_unique (t : FileTree) (p q : Location → List String → Prop) (links more : Nat)
    (place there other : Location) (segments : List String) (leads : Leads t p links place segments there)
    (also : Leads t q more place segments other) : links = more ∧ there = other := by
  induction leads generalizing more with
  | here place =>
      cases also
      exact ⟨rfl, rfl⟩
  | up links place there rest _ ih =>
      cases also with
      | up _ _ _ _ on => exact ih more on
      | blank _ _ _ _ _ blank => exact absurd (by decide) blank
      | name _ _ _ _ _ forward => exact absurd rfl forward
      | link _ _ _ _ _ _ forward => exact absurd rfl forward
  | blank links place there segment rest blank _ ih =>
      cases also with
      | up => exact absurd (by decide) blank
      | blank _ _ _ _ _ _ on => exact ih more on
      | name _ _ _ _ _ _ counted => exact absurd counted blank
      | link _ _ _ _ _ _ _ counted => exact absurd counted blank
  | name links place there segment rest forward counted solid _ _ ih =>
      cases also with
      | up => exact absurd rfl forward
      | blank _ _ _ _ _ blank => exact absurd counted blank
      | name _ _ _ _ _ _ _ _ _ on => exact ih more on
      | link _ _ _ _ _ _ _ _ points => exact absurd points (solid _)
  | link links place there segment target rest forward counted points _ ih =>
      cases also with
      | up => exact absurd rfl forward
      | blank _ _ _ _ _ blank => exact absurd counted blank
      | name _ _ _ _ _ _ _ solid => exact absurd points (solid _)
      | link further _ _ _ aim _ _ _ again on =>
          cases points.symm.trans again
          obtain ⟨count, same⟩ := ih further on
          exact ⟨congrArg Nat.succ count, same⟩

theorem leads_carried (t u : FileTree) (p q : Location → List String → Prop) (links : Nat) (place there : Location)
    (segments : List String) (leads : Leads t p links place segments there)
    (same : ∀ place target, t.get? place = some (.link target) → u.get? place = some (.link target))
    (free : ∀ place rest, (∀ target, t.get? place ≠ some (.link target)) → p place rest →
      (∀ target, u.get? place ≠ some (.link target)) ∧ q place rest) : Leads u q links place segments there := by
  induction leads with
  | here place => exact .here place
  | up links place there rest _ ih => exact .up _ _ _ _ ih
  | blank links place there segment rest blank _ ih => exact .blank _ _ _ _ _ blank ih
  | name links place there segment rest forward counted solid passes _ ih =>
      obtain ⟨solid, passes⟩ := free _ rest solid passes
      exact .name _ _ _ _ _ forward counted solid passes ih
  | link links place there segment target rest forward counted points _ ih =>
      exact .link _ _ _ _ _ _ forward counted (same _ target points) ih

theorem found_leads (t : FileTree) (p : Path) (place : Location) (found : Found t p place) :
    ∃ links, Leads t Anyhow links [] p.names place := by
  obtain ⟨links, _, leads⟩ := found.way
  exact ⟨links, leads_carried t t _ _ _ _ _ _ leads (fun _ _ => id) fun _ _ solid _ => ⟨solid, trivial⟩⟩

theorem leads_append (t : FileTree) (links more : Nat) (place halfway there : Location) (front rest : List String)
    (first : Leads t Anyhow links place front halfway) (second : Leads t Anyhow more halfway rest there) :
    Leads t Anyhow (more + links) place (front ++ rest) there := by
  induction first with
  | here place => exact second
  | up links place halfway front _ ih => exact .up _ _ _ _ (ih second)
  | blank links place halfway segment front blank _ ih => exact .blank _ _ _ _ _ blank (ih second)
  | name links place halfway segment front forward counted solid _ _ ih =>
      exact .name _ _ _ _ _ forward counted solid trivial (ih second)
  | link links place halfway segment target front forward counted points _ ih =>
      have on := ih second
      rw [List.append_assoc] at on
      exact .link _ _ _ _ _ _ forward counted points on

theorem loopless_leads (t : FileTree) (loopless : Loopless t) (place : Location) (segments : List String) :
    ∃ links there, Leads t Anyhow links place segments there := by
  induction segments generalizing place with
  | nil => exact ⟨0, place, .here place⟩
  | cons segment rest ih =>
      by_cases up : segment = ".."
      · subst segment
        obtain ⟨links, there, on⟩ := ih place.dropLast
        exact ⟨links, there, .up _ _ _ _ on⟩
      · by_cases counted : Path.counts segment = true
        · by_cases linked : ∃ target, t.get? (place ++ [segment]) = some (.link target)
          · obtain ⟨target, points⟩ := linked
            obtain ⟨links, halfway, first⟩ := loopless place segment target points
            obtain ⟨more, there, second⟩ := ih halfway
            exact ⟨_, there, .link _ _ _ _ _ _ up counted points (leads_append t _ _ _ _ _ _ _ first second)⟩
          · obtain ⟨links, there, on⟩ := ih (place ++ [segment])
            exact ⟨links, there, .name _ _ _ _ _ up counted (not_exists.mp linked) trivial on⟩
        · obtain ⟨links, there, on⟩ := ih place
          exact ⟨links, there, .blank _ _ _ _ _ counted on⟩

end PolicyHost.FileTree
