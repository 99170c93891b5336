import Mathlib.Order.Basic
import PolicyHost.Proofs.Heads
import PolicyHost.Source.LineMap

set_option autoImplicit false

namespace PolicyHost

namespace Source

structure HeadOn (source : String) (n : Nat) (rule : String) : Prop where
  counted : 0 < n
  read : ∃ line, (Text.lines source.toList)[n - 1]? = some line ∧ head? line = some rule

theorem mem_heads_on (source : String) (n : UInt32) (rule : String) :
    (n, rule) ∈ heads source ↔ HeadOn source n.toNat rule := by
  rw [mem_heads]
  constructor
  · rintro ⟨line, held, head⟩
    obtain ⟨positive, there⟩ := (mem_numbered source n line).mp held
    exact ⟨positive, line, there, head⟩
  · rintro ⟨positive, line, there, head⟩
    exact ⟨line, (mem_numbered source n line).mpr ⟨positive, there⟩, head⟩

theorem head_on_unique (source : String) (n : Nat) (rule other : String) (on : HeadOn source n rule)
    (again : HeadOn source n other) : rule = other := by
  obtain ⟨line, there, head⟩ := on.read
  obtain ⟨text, here, found⟩ := again.read
  obtain rfl := Option.some.inj (there.symm.trans here)
  exact Option.some.inj (head.symm.trans found)

theorem head_on_numbered (source : String) (few : (Text.lines source.toList).length < UInt32.size - 1) (n : Nat)
    (rule : String) (on : HeadOn source n rule) : ∃ k : UInt32, k.toNat = n ∧ (k, rule) ∈ heads source := by
  obtain ⟨line, there, _⟩ := on.read
  obtain ⟨inside, _⟩ := List.getElem?_eq_some_iff.mp there
  have small : n < UInt32.size := by omega
  refine ⟨UInt32.ofNatLT n small, UInt32.toNat_ofNatLT, (mem_heads_on source _ rule).mpr ?_⟩
  rwa [UInt32.toNat_ofNatLT]

theorem heads_ascending (source : String) : (heads source).Pairwise fun a b => a.1 < b.1 := by
  have positions : ((Text.lines source.toList).zipIdx 1).Pairwise fun a b => a.2 < b.2 := by
    rw [← List.pairwise_map (f := Prod.snd), List.zipIdx_map_snd]
    exact List.pairwise_lt_range'
  have lines : (numbered source).Pairwise fun a b => a.1 < b.1 := by
    refine List.pairwise_filterMap.mpr (positions.imp fun {a b} less c held d told => ?_)
    obtain ⟨small, same⟩ := Option.dite_none_right_eq_some.mp held
    obtain ⟨more, alike⟩ := Option.dite_none_right_eq_some.mp told
    cases same
    cases alike
    exact UInt32.lt_iff_toNat_lt.mpr (by simpa using less)
  refine List.pairwise_filterMap.mpr (lines.imp fun {a b} less c held d told => ?_)
  obtain ⟨rule, _, rfl⟩ := Option.map_eq_some_iff.mp held
  obtain ⟨other, _, rfl⟩ := Option.map_eq_some_iff.mp told
  exact less

end Source

namespace LineMap

-- Where the property holds up to some position only, the search finds out how far.
theorem boundary_exact (before : Nat → Bool) (base size : Nat)
    (closed : ∀ i j, i ≤ j → before j = true → before i = true) (below : ∀ i < base, before i = true)
    (above : ∀ i, base + size ≤ i → before i = false) (i : Nat) :
    before i = true ↔ i < boundaryFrom before base size := by
  induction base, size using boundaryFrom.induct before with
  | case1 base size several middle ih =>
      rw [boundaryFrom, if_pos several]
      refine ih ?_ ?_
      · intro i less
        split at less
        · next reached => exact closed i middle (Nat.le_of_lt less) reached
        · exact below i less
      · intro i less
        split at less
        · exact above i (by omega)
        · next missed =>
            refine Bool.eq_false_iff.mpr fun reached => missed (closed middle i ?_ reached)
            omega
  | case2 base size few reached =>
      rw [boundaryFrom, if_neg few, if_pos reached]
      refine ⟨fun held => Nat.lt_of_not_le fun far => ?_, fun less => closed i base (by omega) reached⟩
      rw [above i (by omega)] at held
      cases held
  | case3 base size few missed =>
      rw [boundaryFrom, if_neg few, if_neg missed]
      exact ⟨fun held => Nat.lt_of_not_le fun far => missed (closed base i far held), below i⟩

inductive Nearest (m : LineMap) (line : UInt32) : Option String → Prop where
  | none (above : ∀ head ∈ m.heads, line < head.1) : Nearest m line none
  | some (n : UInt32) (rule : String) (held : (n, rule) ∈ m.heads) (reached : n ≤ line)
      (last : ∀ head ∈ m.heads, head.1 ≤ line → head.1 ≤ n) : Nearest m line (some rule)

theorem reaches_iff (m : LineMap) (line : UInt32) (i : Nat) :
    m.reaches line i = true ↔ ∃ head, m.heads[i]? = some head ∧ head.1 ≤ line := by
  simp [reaches, Option.any_eq_true]

theorem position_mono (m : LineMap) (ascending : m.heads.Pairwise fun a b => a.1 < b.1) (i j : Nat)
    (first second : UInt32 × String) (here : m.heads[i]? = some first) (there : m.heads[j]? = some second)
    (less : i ≤ j) : first.1 ≤ second.1 := by
  obtain ⟨inside, rfl⟩ := List.getElem?_eq_some_iff.mp here
  obtain ⟨further, rfl⟩ := List.getElem?_eq_some_iff.mp there
  rcases Nat.lt_or_eq_of_le less with before | rfl
  · exact UInt32.le_of_lt (List.pairwise_iff_getElem.mp ascending i j inside further before)
  · exact UInt32.le_refl _

theorem enclosing_nearest (m : LineMap) (line : UInt32) (ascending : m.heads.Pairwise fun a b => a.1 < b.1) :
    Nearest m line (m.enclosing? line) := by
  have exact (i : Nat) : m.reaches line i = true ↔ i < boundaryFrom (m.reaches line) 0 m.heads.length := by
    refine boundary_exact _ 0 _ ?_ ?_ ?_ i
    · intro i j less reached
      obtain ⟨head, there, above⟩ := (reaches_iff m line j).mp reached
      have inside := (List.getElem?_eq_some_iff.mp there).1
      have here : m.heads[i]? = some m.heads[i] := List.getElem?_eq_getElem (Nat.lt_of_le_of_lt less inside)
      have below := position_mono m ascending i j _ _ here there less
      exact (reaches_iff m line i).mpr ⟨_, here, UInt32.le_trans below above⟩
    · exact fun i less => absurd less (Nat.not_lt_zero i)
    · intro i far
      rw [reaches, List.getElem?_eq_none (by omega)]
      rfl
  unfold enclosing?
  generalize boundaryFrom (m.reaches line) 0 m.heads.length = count at exact
  cases count with
  | zero =>
      refine .none fun head held => ?_
      obtain ⟨i, there⟩ := List.mem_iff_getElem?.mp held
      have missed : ¬ m.reaches line i = true := fun reached => Nat.not_lt_zero i ((exact i).mp reached)
      rw [reaches_iff] at missed
      exact UInt32.not_le.mp fun reached => missed ⟨head, there, reached⟩
  | succ last =>
      obtain ⟨head, there, reached⟩ := (reaches_iff m line last).mp ((exact last).mpr (Nat.lt_succ_self last))
      simp only [there, Option.map_some]
      refine .some head.1 head.2 (List.mem_of_getElem? there) reached fun other held before => ?_
      obtain ⟨i, here⟩ := List.mem_iff_getElem?.mp held
      have position := (exact i).mp ((reaches_iff m line i).mpr ⟨other, here, before⟩)
      exact position_mono m ascending i last other head here there (Nat.le_of_lt_succ position)

inductive Topmost (m : LineMap) (rule : String) : Option UInt32 → Prop where
  | none (missing : ∀ head ∈ m.heads, head.2 ≠ rule) : Topmost m rule none
  | some (n : UInt32) (held : (n, rule) ∈ m.heads) (first : ∀ head ∈ m.heads, head.2 = rule → n ≤ head.1) :
      Topmost m rule (some n)

theorem line_of_topmost (m : LineMap) (rule : String) (ascending : m.heads.Pairwise fun a b => a.1 < b.1) :
    Topmost m rule (m.lineOf? rule) := by
  unfold lineOf?
  cases found : m.heads.find? fun head => head.2 == rule with
  | none =>
      refine .none fun head held same => ?_
      simpa [same] using List.find?_eq_none.mp found head held
  | some head =>
      obtain ⟨named, before, after, split, others⟩ := List.find?_eq_some_iff_append.mp found
      obtain rfl := beq_iff_eq.mp named
      refine .some head.1 (List.mem_of_find?_eq_some found) fun other held same => ?_
      rw [split] at held ascending
      rcases List.mem_append.mp held with above | below
      · simpa [same] using others other above
      · rcases List.mem_cons.mp below with rfl | below
        · exact UInt32.le_refl _
        · exact UInt32.le_of_lt (List.rel_of_pairwise_cons (List.pairwise_append.mp ascending).2.1 below)

structure Exact (source : String) (m : LineMap) : Prop where
  known : ∀ rule, (∃ line, m.lineOf? rule = some line) ↔ rule ∈ Source.rules source
  named : ∀ rule, rule ∈ Source.rules source ↔ ∃ n, Source.HeadOn source n rule
  first : ∀ rule line, m.lineOf? rule = some line ↔
    Source.HeadOn source line.toNat rule ∧ ∀ n, Source.HeadOn source n rule → line.toNat ≤ n
  last : ∀ line rule, m.enclosing? line = some rule ↔
    ∃ n ≤ line.toNat, Source.HeadOn source n rule ∧
      ∀ k ≤ line.toNat, ∀ other, Source.HeadOn source k other → k ≤ n
  above : ∀ line, m.enclosing? line = none ↔ ∀ n ≤ line.toNat, ∀ rule, ¬ Source.HeadOn source n rule
  own : ∀ rule line, m.lineOf? rule = some line → m.enclosing? line = some rule

section Source

variable (source : String) (few : (Text.lines source.toList).length < UInt32.size - 1)

include few

theorem enclosing_on (line : UInt32) :
    (∃ rule, ∃ n ≤ line.toNat, (ofSource source).enclosing? line = some rule ∧ Source.HeadOn source n rule ∧
        ∀ k ≤ line.toNat, ∀ other, Source.HeadOn source k other → k ≤ n) ∨
      (ofSource source).enclosing? line = none ∧ ∀ n ≤ line.toNat, ∀ rule, ¬ Source.HeadOn source n rule := by
  have nearest := enclosing_nearest (ofSource source) line (Source.heads_ascending source)
  cases told : (ofSource source).enclosing? line with
  | none =>
      rw [told] at nearest
      cases nearest with
      | none above =>
          refine .inr ⟨rfl, fun n reached rule on => ?_⟩
          obtain ⟨k, rfl, held⟩ := Source.head_on_numbered source few n rule on
          exact Nat.not_lt.mpr reached (UInt32.lt_iff_toNat_lt.mp (above _ held))
  | some rule =>
      rw [told] at nearest
      cases nearest with
      | some n rule held reached last =>
          have head := (Source.mem_heads_on source n rule).mp held
          refine .inl ⟨rule, n.toNat, UInt32.le_iff_toNat_le.mp reached, rfl, head, ?_⟩
          intro k before other on
          obtain ⟨k, rfl, there⟩ := Source.head_on_numbered source few k other on
          exact UInt32.le_iff_toNat_le.mp (last _ there (UInt32.le_iff_toNat_le.mpr before))

theorem line_of_on (rule : String) :
    (∃ line, (ofSource source).lineOf? rule = some line ∧ Source.HeadOn source line.toNat rule ∧
        ∀ n, Source.HeadOn source n rule → line.toNat ≤ n) ∨
      (ofSource source).lineOf? rule = none ∧ ∀ n, ¬ Source.HeadOn source n rule := by
  have topmost := line_of_topmost (ofSource source) rule (Source.heads_ascending source)
  cases told : (ofSource source).lineOf? rule with
  | none =>
      rw [told] at topmost
      cases topmost with
      | none missing =>
          refine .inr ⟨rfl, fun n on => ?_⟩
          obtain ⟨k, rfl, held⟩ := Source.head_on_numbered source few n rule on
          exact missing _ held rfl
  | some line =>
      rw [told] at topmost
      cases topmost with
      | some line held first =>
          refine .inl ⟨line, rfl, (Source.mem_heads_on source line rule).mp held, fun n on => ?_⟩
          obtain ⟨k, rfl, there⟩ := Source.head_on_numbered source few n rule on
          exact UInt32.le_iff_toNat_le.mp (first _ there rfl)

theorem enclosing_iff (line : UInt32) (rule : String) :
    (ofSource source).enclosing? line = some rule ↔
      ∃ n ≤ line.toNat, Source.HeadOn source n rule ∧
        ∀ k ≤ line.toNat, ∀ other, Source.HeadOn source k other → k ≤ n := by
  rcases enclosing_on source few line with ⟨nearest, n, reached, told, on, last⟩ | ⟨told, bare⟩
  · rw [told, Option.some.injEq]
    constructor
    · rintro rfl
      exact ⟨n, reached, on, last⟩
    · rintro ⟨k, before, there, final⟩
      obtain rfl := Nat.le_antisymm (last k before rule there) (final n reached nearest on)
      exact Source.head_on_unique source k nearest rule on there
  · rw [told]
    refine iff_of_false (Option.some_ne_none rule).symm ?_
    rintro ⟨n, reached, on, _⟩
    exact bare n reached rule on

theorem line_of_iff (rule : String) (line : UInt32) :
    (ofSource source).lineOf? rule = some line ↔
      Source.HeadOn source line.toNat rule ∧ ∀ n, Source.HeadOn source n rule → line.toNat ≤ n := by
  rcases line_of_on source few rule with ⟨top, told, on, first⟩ | ⟨told, bare⟩
  · rw [told, Option.some.injEq]
    constructor
    · rintro rfl
      exact ⟨on, first⟩
    · rintro ⟨there, least⟩
      exact UInt32.toNat_inj.mp (Nat.le_antisymm (first _ there) (least _ on))
  · rw [told]
    exact iff_of_false (Option.some_ne_none line).symm fun on => bare _ on.1

theorem mem_rules_on (rule : String) : rule ∈ Source.rules source ↔ ∃ n, Source.HeadOn source n rule := by
  rw [Source.rules, NameSet.mem_of_list, List.mem_map]
  constructor
  · rintro ⟨⟨n, name⟩, held, rfl⟩
    exact ⟨n.toNat, (Source.mem_heads_on source n name).mp held⟩
  · rintro ⟨n, on⟩
    obtain ⟨k, _, held⟩ := Source.head_on_numbered source few n rule on
    exact ⟨_, held, rfl⟩

theorem of_source_exact : Exact source (ofSource source) := by
  have named := mem_rules_on source few
  have last := enclosing_iff source few
  refine ⟨fun rule => ?_, named, line_of_iff source few, last, fun line => ?_, fun rule line known => ?_⟩
  · rw [named]
    rcases line_of_on source few rule with ⟨line, told, on, _⟩ | ⟨told, bare⟩
    · exact iff_of_true ⟨line, told⟩ ⟨_, on⟩
    · rw [told]
      exact iff_of_false (fun ⟨_, known⟩ => nomatch known) fun ⟨n, on⟩ => bare n on
  · rcases enclosing_on source few line with ⟨rule, n, reached, told, on, _⟩ | ⟨told, bare⟩
    · rw [told]
      exact iff_of_false (Option.some_ne_none rule) fun bare => bare n reached rule on
    · exact iff_of_true told bare
  · have on := ((line_of_iff source few rule line).mp known).1
    exact (last line rule).mpr ⟨line.toNat, Nat.le_refl _, on, fun k before _ _ => before⟩

end Source

def turns : String :=
  "package p\ndefault allow := false\nallow if \x7b\n  input.x\n\x7d\ndeny := true\nallow if input.y\n"

theorem of_source_exact_turns : (Text.lines turns.toList).length < UInt32.size - 1 ∧ Exact turns (ofSource turns) :=
  have few : (Text.lines turns.toList).length < UInt32.size - 1 := by decide +kernel
  ⟨few, of_source_exact turns few⟩

end LineMap

end PolicyHost
