import PolicyHost.Proofs.Acceptance
import PolicyHost.Proofs.Decimals
import PolicyHost.Proofs.Heads
import PolicyHost.Proofs.Paths

set_option autoImplicit false

namespace PolicyHost

namespace Version

open Source (Blanks Ends)
open Text (Numeral Signed)

def Dotted (part : List Char → Nat → Prop) (cs : List Char) (v : Version) : Prop :=
  ∃ major minor patch, cs = major ++ '.' :: (minor ++ '.' :: patch) ∧
    part major v.major.toNat ∧ part minor v.minor.toNat ∧ part patch v.patch.toNat

def Spelled (marks : List Char → Prop) (part : List Char → Nat → Prop) (s : String) (v : Version) : Prop :=
  ∃ front mark cs back, s.toList = front ++ ((mark ++ cs) ++ back) ∧ Blanks front ∧ marks mark ∧ Dotted part cs v ∧
    Blanks back

def Marks (mark : List Char) : Prop := ∀ c ∈ mark, c = 'v'

def SingleMark (mark : List Char) : Prop := mark = [] ∨ mark = ['v']

def Proper : String → Version → Prop := Spelled SingleMark Numeral

-- What is read: any number of marks, and numbers that may have a sign.
def Readable : String → Version → Prop := Spelled Marks Signed

theorem of_parts_iff (major minor patch : List Char) (v : Version) :
    ofParts? major minor patch = some v ↔
      Signed major v.major.toNat ∧ Signed minor v.minor.toNat ∧ Signed patch v.patch.toNat := by
  simp only [ofParts?, Option.bind_eq_bind, Option.bind_eq_some_iff, Text.parse_uint32_iff, Option.some.injEq]
  constructor
  · rintro ⟨_, major, _, minor, _, patch, rfl⟩
    exact ⟨major, minor, patch⟩
  · rintro ⟨major, minor, patch⟩
    exact ⟨v.major, major, v.minor, minor, v.patch, patch, rfl⟩

theorem dotted_all (cs : List Char) (v : Version) (dotted : Dotted Signed cs v) (c : Char) (inside : c ∈ cs) :
    c = '.' ∨ c = '+' ∨ Text.isDigit c = true := by
  obtain ⟨major, minor, patch, rfl, first, second, third⟩ := dotted
  simp only [List.mem_append, List.mem_cons] at inside
  rcases inside with inside | point | inside | point | inside
  · exact .inr (Text.signed_all _ _ first c inside)
  · exact .inl point
  · exact .inr (Text.signed_all _ _ second c inside)
  · exact .inl point
  · exact .inr (Text.signed_all _ _ third c inside)

theorem dotted_free (kind : Char → Bool) (cs : List Char) (v : Version) (dotted : Dotted Signed cs v)
    (point : kind '.' = false) (plus : kind '+' = false) (digits : ∀ c, Text.isDigit c = true → kind c = false) :
    ∀ c ∈ cs, kind c = false := by
  intro c inside
  rcases dotted_all cs v dotted c inside with rfl | rfl | digit
  · exact point
  · exact plus
  · exact digits c digit

theorem split_dotted_iff (cs : List Char) (v : Version) :
    (∃ major minor patch, Text.splitOn '.' cs = [major, minor, patch] ∧ ofParts? major minor patch = some v) ↔
      Dotted Signed cs v := by
  constructor
  · rintro ⟨major, minor, patch, split, read⟩
    obtain ⟨joined, _⟩ := (Text.split_on_iff '.' cs _ (List.cons_ne_nil _ _)).mp split
    exact ⟨major, minor, patch, by simpa [List.intercalate] using joined, (of_parts_iff _ _ _ v).mp read⟩
  · rintro ⟨major, minor, patch, rfl, first, second, third⟩
    have split := (Text.split_on_iff '.' (major ++ '.' :: (minor ++ '.' :: patch)) [major, minor, patch]
      (List.cons_ne_nil _ _)).mpr ⟨by simp [List.intercalate], by
        simp only [List.forall_mem_cons, List.not_mem_nil, false_implies, implies_true, and_true]
        exact ⟨Text.signed_free _ _ '.' first (by decide) rfl, Text.signed_free _ _ '.' second (by decide) rfl,
          Text.signed_free _ _ '.' third (by decide) rfl⟩⟩
    exact ⟨major, minor, patch, split, (of_parts_iff _ _ _ v).mpr ⟨first, second, third⟩⟩

theorem parse_chars_iff (cs : List Char) (v : Version) :
    parseChars cs = some v ↔ Dotted Signed ((Text.trim cs).dropWhile (· == 'v')) v := by
  rw [← split_dotted_iff, parseChars]
  split
  · next major minor patch split =>
      constructor
      · exact fun read => ⟨major, minor, patch, split, read⟩
      · rintro ⟨_, _, _, same, read⟩
        rw [split] at same
        cases same
        exact read
  · next other =>
      refine iff_of_false nofun ?_
      rintro ⟨major, minor, patch, split, _⟩
      exact other major minor patch split

theorem parse_iff (s : String) (v : Version) : parse? s = some v ↔ Readable s v := by
  rw [parse?, parse_chars_iff]
  constructor
  · intro dotted
    obtain ⟨front, back, blankFront, blankBack, split⟩ := Source.trim_split s.toList
    have marks : Marks ((Text.trim s.toList).takeWhile (· == 'v')) := fun c inside =>
      beq_iff_eq.mp (List.all_eq_true.mp List.all_takeWhile c inside)
    refine ⟨front, _, _, back, ?_, blankFront, marks, dotted, blankBack⟩
    rwa [List.takeWhile_append_dropWhile]
  · rintro ⟨front, mark, cs, back, split, blankFront, marks, dotted, blankBack⟩
    have unmarked : Ends (· == 'v') cs :=
      Source.ends_none _ cs (dotted_free _ cs v dotted rfl rfl fun c digit => by
        rw [beq_eq_false_iff_ne]
        rintro rfl
        cases digit)
    have solid : ∀ c ∈ mark ++ cs, Text.isBlank c = false :=
      List.forall_mem_append.mpr ⟨fun c inside => by rw [marks c inside]; rfl,
        dotted_free _ cs v dotted rfl rfl Text.digit_solid⟩
    have filled : mark ++ cs ≠ [] := by
      obtain ⟨major, minor, patch, rfl, _⟩ := dotted
      simp
    rw [split, Source.trim_run front (mark ++ cs) back blankFront blankBack filled (Source.ends_none _ _ solid)
      (Source.ends_none _ _ fun c inside => solid c (List.mem_reverse.mp inside)),
      Source.drop_run _ mark cs (fun c inside => beq_iff_eq.mpr (marks c inside)) unmarked]
    exact dotted

theorem dotted_numeral_iff (cs : List Char) (v : Version) : Dotted Numeral cs v ↔ Dotted Signed cs v ∧ '+' ∉ cs := by
  constructor
  · rintro ⟨major, minor, patch, rfl, first, second, third⟩
    obtain ⟨first, plusFirst⟩ := (Text.numeral_iff _ _).mp first
    obtain ⟨second, plusSecond⟩ := (Text.numeral_iff _ _).mp second
    obtain ⟨third, plusThird⟩ := (Text.numeral_iff _ _).mp third
    exact ⟨⟨major, minor, patch, rfl, first, second, third⟩, by simp [plusFirst, plusSecond, plusThird]⟩
  · rintro ⟨⟨major, minor, patch, rfl, first, second, third⟩, unsigned⟩
    simp only [List.mem_append, List.mem_cons, not_or] at unsigned
    obtain ⟨plusFirst, _, plusSecond, _, plusThird⟩ := unsigned
    exact ⟨major, minor, patch, rfl, (Text.numeral_iff _ _).mpr ⟨first, plusFirst⟩,
      (Text.numeral_iff _ _).mpr ⟨second, plusSecond⟩, (Text.numeral_iff _ _).mpr ⟨third, plusThird⟩⟩

theorem single_mark_iff (mark : List Char) : SingleMark mark ↔ Marks mark ∧ mark.count 'v' ≤ 1 := by
  constructor
  · rintro (rfl | rfl)
    · exact ⟨List.forall_mem_nil _, by decide⟩
    · exact ⟨List.forall_mem_singleton.mpr rfl, by decide⟩
  · rintro ⟨marks, single⟩
    have all : mark = List.replicate mark.length 'v' := List.eq_replicate_iff.mpr ⟨rfl, marks⟩
    rw [all, List.count_replicate_self] at single
    rcases Nat.le_one_iff_eq_zero_or_eq_one.mp single with none | one
    · exact .inl (List.length_eq_zero_iff.mp none)
    · exact .inr (by rw [all, one]; rfl)

theorem blanks_without (cs : List Char) (blank : Blanks cs) (c : Char) (solid : Text.isBlank c = false) : c ∉ cs :=
  fun inside => by
    rw [blank c inside] at solid
    cases solid

theorem spelled_counts (s : String) (v : Version) (front mark cs back : List Char)
    (split : s.toList = front ++ ((mark ++ cs) ++ back)) (blankFront : Blanks front) (marks : Marks mark)
    (dotted : Dotted Signed cs v) (blankBack : Blanks back) :
    ('+' ∈ s.toList ↔ '+' ∈ cs) ∧ s.toList.count 'v' = mark.count 'v' := by
  have unmarked : 'v' ∉ cs := fun inside => by
    rcases dotted_all cs v dotted 'v' inside with other | other | other <;> cases other
  have unsigned : '+' ∉ mark := fun inside => absurd (marks '+' inside) (by decide)
  have front (c : Char) := blanks_without front blankFront c
  have back (c : Char) := blanks_without back blankBack c
  rw [split]
  simp [List.count_append, List.count_eq_zero_of_not_mem (front 'v' rfl), List.count_eq_zero_of_not_mem unmarked,
    List.count_eq_zero_of_not_mem (back 'v' rfl), front '+' rfl, back '+' rfl, unsigned]

theorem proper_iff (s : String) (v : Version) :
    Proper s v ↔ parse? s = some v ∧ '+' ∉ s.toList ∧ s.toList.count 'v' ≤ 1 := by
  rw [parse_iff]
  constructor
  · rintro ⟨front, mark, cs, back, split, blankFront, marked, dotted, blankBack⟩
    obtain ⟨marks, single⟩ := (single_mark_iff mark).mp marked
    obtain ⟨dotted, unsigned⟩ := (dotted_numeral_iff cs v).mp dotted
    obtain ⟨plus, count⟩ := spelled_counts s v front mark cs back split blankFront marks dotted blankBack
    exact ⟨⟨front, mark, cs, back, split, blankFront, marks, dotted, blankBack⟩, mt plus.mp unsigned,
      count.symm ▸ single⟩
  · rintro ⟨⟨front, mark, cs, back, split, blankFront, marks, dotted, blankBack⟩, unsigned, single⟩
    obtain ⟨plus, count⟩ := spelled_counts s v front mark cs back split blankFront marks dotted blankBack
    exact ⟨front, mark, cs, back, split, blankFront, (single_mark_iff mark).mpr ⟨marks, count ▸ single⟩,
      (dotted_numeral_iff cs v).mpr ⟨dotted, mt plus.mpr unsigned⟩, blankBack⟩

theorem min_version_iff (c : Config) :
    c.check = .ok () ↔
      ({ c with minVersion := "0.40.0" } : Config).check = .ok () ∧ ∃ v, Readable c.minVersion v := by
  have known : ∃ v, parse? "0.40.0" = some v := ⟨⟨0, 40, 0⟩, by decide⟩
  simp only [Config.check_iff, ← parse_iff]
  constructor
  · exact fun a => ⟨⟨a.binary, a.build, a.eval, a.version, a.defaultRule, a.buffer, a.multiplier, a.budget,
      known, a.wasm⟩, a.minVersion⟩
  · exact fun ⟨a, readable⟩ => ⟨a.binary, a.build, a.eval, a.version, a.defaultRule, a.buffer, a.multiplier, a.budget,
      readable, a.wasm⟩

theorem versions_read (s : String) :
    (∀ v, parse? s = some v ↔ Readable s v) ∧
    (∀ v, Proper s v ↔ parse? s = some v ∧ '+' ∉ s.toList ∧ s.toList.count 'v' ≤ 1) ∧
    ((∀ v, parse? s = some v ↔ Proper s v) ↔
      ((∃ v, Readable s v) → '+' ∉ s.toList ∧ s.toList.count 'v' ≤ 1)) ∧
    ∀ c : Config, ({ c with minVersion := s } : Config).check = .ok () ↔
      ({ c with minVersion := "0.40.0" } : Config).check = .ok () ∧ ∃ v, Readable s v := by
  refine ⟨parse_iff s, proper_iff s, ?_, fun c => min_version_iff { c with minVersion := s }⟩
  constructor
  · rintro meets ⟨v, readable⟩
    have proper := (meets v).mp ((parse_iff s v).mpr readable)
    exact ((proper_iff s v).mp proper).2
  · intro plain v
    constructor
    · exact fun read => (proper_iff s v).mpr ⟨read, plain ⟨v, (parse_iff s v).mp read⟩⟩
    · exact fun proper => ((proper_iff s v).mp proper).1

theorem improper_accepted (s : String) (v : Version) (read : parse? s = some v)
    (marked : '+' ∈ s.toList ∨ 1 < s.toList.count 'v') :
    ¬ Proper s v ∧ ({ minVersion := s } : Config).check = .ok () := by
  have plain : ({} : Config).check = .ok () := rfl
  refine ⟨fun proper => ?_, (min_version_iff _).mpr ⟨plain, v, (parse_iff s v).mp read⟩⟩
  obtain ⟨_, unsigned, single⟩ := (proper_iff s v).mp proper
  rcases marked with signed | doubled
  · exact unsigned signed
  · exact absurd single (Nat.not_le.mpr doubled)

theorem improper_read :
    (parse? "vv1.2.3" = some ⟨1, 2, 3⟩ ∧ ¬ Proper "vv1.2.3" ⟨1, 2, 3⟩ ∧
      ({ minVersion := "vv1.2.3" } : Config).check = .ok ()) ∧
    (parse? "1.+2.3" = some ⟨1, 2, 3⟩ ∧ ¬ Proper "1.+2.3" ⟨1, 2, 3⟩ ∧
      ({ minVersion := "1.+2.3" } : Config).check = .ok ()) := by
  have doubled : parse? "vv1.2.3" = some ⟨1, 2, 3⟩ := by decide
  have signed : parse? "1.+2.3" = some ⟨1, 2, 3⟩ := by decide
  exact ⟨⟨doubled, improper_accepted _ _ doubled (.inr (by decide))⟩,
    ⟨signed, improper_accepted _ _ signed (.inl (by decide))⟩⟩

end Version

end PolicyHost
