import PolicyHost.Confinement

set_option autoImplicit false

namespace PolicyHost

namespace Text

variable (sep : Char)

theorem split_from_eq (piece cs : List Char) : splitFrom sep piece cs = cs.splitOnPPrepend (· == sep) piece := by
  induction cs generalizing piece with
  | nil => rfl
  | cons c rest ih =>
      by_cases here : c = sep
      · rw [splitFrom, if_pos here, ih, List.splitOnPPrepend_cons_eq_if, if_pos (beq_iff_eq.mpr here)]
        rfl
      · rw [splitFrom, if_neg here, ih, List.splitOnPPrepend_cons_eq_if, if_neg (by simpa using here)]

theorem split_on_eq (cs : List Char) : splitOn sep cs = cs.splitOn sep := split_from_eq sep [] cs

theorem split_from_free (piece cs : List Char) (free : sep ∉ piece) :
    ∀ part ∈ splitFrom sep piece cs, sep ∉ part := by
  induction cs generalizing piece with
  | nil => simpa [splitFrom] using free
  | cons c rest ih =>
      by_cases here : c = sep
      · rw [splitFrom, if_pos here]
        exact List.forall_mem_cons.mpr ⟨by simpa using free, ih [] List.not_mem_nil⟩
      · rw [splitFrom, if_neg here]
        exact ih (c :: piece) (by simp [Ne.symm here, free])

theorem split_on_iff (cs : List Char) (parts : List (List Char)) (filled : parts ≠ []) :
    splitOn sep cs = parts ↔ cs = [sep].intercalate parts ∧ ∀ part ∈ parts, sep ∉ part := by
  constructor
  · rintro rfl
    refine ⟨?_, split_from_free sep [] cs List.not_mem_nil⟩
    rw [split_on_eq, List.intercalate_splitOn]
  · rintro ⟨rfl, free⟩
    rw [split_on_eq, List.splitOn_intercalate sep free filled]

end Text

namespace Path

def Bare (names : List String) : Prop := ∀ name ∈ names, '/' ∉ name.toList

instance (names : List String) : Decidable (Bare names) :=
  inferInstanceAs (Decidable (∀ name ∈ names, '/' ∉ name.toList))

structure Plain (p : Path) : Prop where
  rooted : p.rooted = true
  bare : Bare p.names

theorem segments_bare (text : String) : Bare (segments text) := by
  intro segment inside
  obtain ⟨part, listed, rfl⟩ := List.mem_map.mp inside
  rw [String.toList_ofList]
  exact Text.split_from_free '/' [] text.toList List.not_mem_nil part listed

theorem step_all (has : String → Prop) (place : Location) (segment : String) (all : ∀ name ∈ place, has name)
    (own : counts segment = true → has segment) : ∀ name ∈ step place segment, has name := by
  by_cases up : segment = ".."
  · rw [step, if_pos up]
    exact fun name inside => all name (List.dropLast_subset place inside)
  · by_cases counted : counts segment = true
    · rw [step, if_neg up, if_pos counted]
      exact List.forall_mem_append.mpr ⟨all, List.forall_mem_singleton.mpr (own counted)⟩
    · rw [step, if_neg up, if_neg counted]
      exact all

theorem follow_all (has : String → Prop) (place : Location) (names : List String) (all : ∀ name ∈ place, has name)
    (own : ∀ name ∈ names, counts name = true → has name) : ∀ name ∈ follow place names, has name := by
  induction names generalizing place with
  | nil => exact all
  | cons name rest ih =>
      obtain ⟨here, others⟩ := List.forall_mem_cons.mp own
      exact ih (step place name) (step_all has place name all here) others

theorem from_place_all (has : String → Prop) (place : Location) (text : String) (all : ∀ name ∈ place, has name)
    (own : ∀ name ∈ segments text, counts name = true → has name) : ∀ name ∈ (fromPlace place text).names, has name := by
  refine follow_all has _ _ ?_ own
  by_cases rooted : isRooted text = true
  · rw [if_pos rooted]
    exact fun _ inside => nomatch inside
  · rw [if_neg rooted]
    exact all

theorem from_place_plain (place : Location) (text : String) (bare : Bare place) : (fromPlace place text).Plain :=
  ⟨rfl, from_place_all _ place text bare fun name inside _ => segments_bare text name inside⟩

def Genuine (names : List String) : Prop := ∀ name ∈ names, '/' ∉ name.toList ∧ counts name = true

instance (names : List String) : Decidable (Genuine names) :=
  inferInstanceAs (Decidable (∀ name ∈ names, '/' ∉ name.toList ∧ counts name = true))

theorem genuine_bare (names : List String) (genuine : Genuine names) : Bare names :=
  fun name inside => (genuine name inside).1

theorem from_place_genuine (place : Location) (text : String) (genuine : Genuine place) :
    Genuine (fromPlace place text).names :=
  from_place_all _ place text genuine fun name inside counted => ⟨segments_bare text name inside, counted⟩

variable (p : Path)

theorem text_rooted (plain : p.Plain) : p.text.toList = '/' :: ['/'].intercalate (p.names.map String.toList) := by
  simp [text, plain.rooted]

-- What is written of the names of a path is read back. No names at all are written like one empty name.
theorem segments_text (plain : p.Plain) : segments p.text = "" :: if p.names = [] then [""] else p.names := by
  have first (rest : List Char) : ('/' :: rest).splitOn '/' = [] :: rest.splitOn '/' :=
    List.splitOn_append_cons_self_of_not_mem List.not_mem_nil rest
  rw [segments, text_rooted p plain, Text.split_on_eq, first]
  by_cases none : p.names = []
  · rw [if_pos none, none]
    rfl
  · have free : ∀ part ∈ p.names.map String.toList, '/' ∉ part := by
      intro part inside
      obtain ⟨name, listed, rfl⟩ := List.mem_map.mp inside
      exact plain.bare name listed
    rw [if_neg none, List.splitOn_intercalate '/' free (by simpa using none), List.map_cons, List.map_map]
    simp

theorem of_text_text (rooted : p.rooted = true) (genuine : Genuine p.names) : ofText p.text = p := by
  have plain : p.Plain := ⟨rooted, genuine_bare p.names genuine⟩
  have slash : isRooted p.text = true := by
    rw [isRooted, text_rooted p plain]
    rfl
  have counted : (segments p.text).filter counts = p.names := by
    rw [segments_text p plain, List.filter_cons_of_neg (by decide)]
    by_cases none : p.names = []
    · rw [if_pos none, none]
      rfl
    · rw [if_neg none]
      exact List.filter_eq_self.mpr fun name inside => (genuine name inside).2
  have first : (segments p.text).head? ≠ some "." := by
    rw [segments_text p plain, List.head?_cons]
    decide
  unfold ofText
  simp only [slash, counted, if_neg first, ← rooted]

end Path

namespace FileTree

variable (t : FileTree)

theorem walk_blank (directory : Location) (names : List String) :
    t.walk? directory ("" :: names) = t.walk? directory names := by
  have step (links : Nat) : t.walkFrom links directory ("" :: names) = t.walkFrom links directory names := by
    rw [walkFrom, walkFrom]
    rfl
  simp [walk?, step]

theorem read_named_text (directory : Location) (p : Path) (plain : p.Plain) :
    t.readNamed directory p.text = t.read p := by
  have written := Path.text_rooted p plain
  have filled : p.text.isEmpty = false := by
    rw [← Bool.not_eq_true, String.isEmpty_iff]
    intro none
    rw [none] at written
    cases written
  have rooted : Path.isRooted p.text = true := by
    rw [Path.isRooted, written]
    rfl
  have walked : t.walk? [] (Path.segments p.text) = t.walk? [] p.names := by
    rw [Path.segments_text p plain, walk_blank]
    by_cases none : p.names = []
    · rw [if_pos none, none, walk_blank]
    · rw [if_neg none]
  rw [readNamed, filled, origin, if_pos rooted, walked]
  rfl

end FileTree

namespace Workspace

variable (w : Workspace)

theorem absolute_from (text : String) (p : Path) (ok : w.absolute text = .ok p) :
    p = Path.fromPlace w.directory text := by
  unfold absolute Path.absolute? at ok
  by_cases none : text.isEmpty = true
  · simp only [none, if_true] at ok
    cases ok
  · simp only [none] at ok
    cases ok
    rfl

theorem resolve_from (text : String) (base : Option String) (key : Path) (ok : w.resolve text base = .ok key) :
    key = Path.fromPlace w.directory text ∨
      ∃ root, key = Path.fromPlace (Path.fromPlace w.directory root).names text := by
  cases base with
  | none => exact Or.inl (absolute_from w text key ok)
  | some base =>
      simp only [resolve, bind, Except.bind] at ok
      cases seen : w.absolute base with
      | error failure => simp [seen] at ok
      | ok root =>
          simp only [seen, confined] at ok
          split at ok
          · cases ok
            exact Or.inr ⟨base, absolute_from w base root seen ▸ rfl⟩
          · cases ok

theorem resolve_plain (text : String) (base : Option String) (key : Path) (bare : Path.Bare w.directory)
    (ok : w.resolve text base = .ok key) : key.Plain := by
  rcases resolve_from w text base key ok with rfl | ⟨root, rfl⟩
  · exact Path.from_place_plain w.directory text bare
  · exact Path.from_place_plain _ text (Path.from_place_plain w.directory root bare).bare

theorem resolve_genuine (text : String) (base : Option String) (key : Path) (genuine : Path.Genuine w.directory)
    (ok : w.resolve text base = .ok key) : key.rooted = true ∧ Path.Genuine key.names := by
  rcases resolve_from w text base key ok with rfl | ⟨root, rfl⟩
  · exact ⟨rfl, Path.from_place_genuine w.directory text genuine⟩
  · exact ⟨rfl, Path.from_place_genuine _ text (Path.from_place_genuine w.directory root genuine)⟩

end Workspace

end PolicyHost
