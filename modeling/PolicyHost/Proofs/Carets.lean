import PolicyHost.Proofs.Paths
import PolicyHost.Proofs.Reports

set_option autoImplicit false

namespace PolicyHost.Build

def CaretLine (spaces : Nat) (line : List Char) : Prop :=
  ∃ more, line = '\t' :: (List.replicate spaces ' ' ++ '^' :: more)

def FirstCaret (lines : List (List Char)) (spaces : Nat) : Prop :=
  ∃ before line after, lines = before ++ line :: after ∧ CaretLine spaces line ∧
    ∀ other ∈ before, ∀ n, ¬ CaretLine n other

namespace Diagnostic

theorem caret_at_iff (line : List Char) (position : Nat) :
    caretAt line = some position ↔ ∃ spaces, position = spaces + 1 ∧ CaretLine spaces line := by
  have pads (rest : List Char) : ∀ c ∈ rest.takeWhile (· = ' '), c = ' ' := fun c inside =>
    of_decide_eq_true (List.all_eq_true.mp List.all_takeWhile c inside)
  constructor
  · intro found
    unfold caretAt at found
    split at found
    · next rest =>
        split at found
        · next spaces more split =>
            rw [List.span_eq_takeWhile_dropWhile, Prod.mk.injEq] at split
            obtain ⟨rfl, close⟩ := split
            cases found
            refine ⟨_, rfl, more, ?_⟩
            rw [← close, ← List.eq_replicate_of_mem (pads rest), List.takeWhile_append_dropWhile]
        · cases found
    · cases found
  · rintro ⟨spaces, rfl, more, rfl⟩
    have blank : ∀ c ∈ List.replicate spaces ' ', decide (c = ' ') = true := fun c inside =>
      decide_eq_true (List.eq_of_mem_replicate inside)
    have ends : Source.Ends (fun c => decide (c = ' ')) ('^' :: more) := Source.ends_cons _ _ _ (by decide)
    simp only [caretAt, List.span_eq_takeWhile_dropWhile, Source.take_run _ _ _ blank ends,
      Source.drop_run _ _ _ blank ends, List.length_replicate]

theorem caret_line_iff (spaces : Nat) (cs : List Char) :
    CaretLine spaces cs ↔ CaretLine spaces (cs.takeWhile (· ≠ '\n')) := by
  constructor
  · rintro ⟨more, rfl⟩
    have plain : ∀ c ∈ '\t' :: (List.replicate spaces ' ' ++ ['^']), decide (c ≠ '\n') = true := by
      intro c inside
      simp only [List.mem_cons, List.mem_append, List.mem_replicate, List.not_mem_nil, or_false] at inside
      rcases inside with rfl | ⟨_, rfl⟩ | rfl
      · rfl
      · rfl
      · rfl
    have split : '\t' :: (List.replicate spaces ' ' ++ '^' :: more) =
        '\t' :: (List.replicate spaces ' ' ++ ['^']) ++ more := by simp
    refine ⟨more.takeWhile (· ≠ '\n'), ?_⟩
    rw [split, List.takeWhile_append_of_pos plain]
    simp
  · rintro ⟨more, line⟩
    obtain ⟨tail, whole⟩ : ∃ tail, cs.takeWhile (· ≠ '\n') ++ tail = cs := ⟨_, List.takeWhile_append_dropWhile⟩
    rw [line] at whole
    exact ⟨more ++ tail, by simp [← whole]⟩

theorem caret_at_line (cs : List Char) : caretAt cs = caretAt (cs.takeWhile (· ≠ '\n')) := by
  refine Option.ext fun position => ?_
  rw [caret_at_iff, caret_at_iff]
  exact exists_congr fun spaces => and_congr_right fun _ => caret_line_iff spaces cs

theorem find_lines (piece cs : List Char) :
    ∃ others, Text.splitFrom '\n' piece cs = (piece.reverse ++ cs.takeWhile (· ≠ '\n')) :: others ∧
      Text.findAfterBreak caretAt cs = others.findSome? caretAt := by
  induction cs generalizing piece with
  | nil => exact ⟨[], by simp [Text.splitFrom], rfl⟩
  | cons c rest ih =>
      by_cases feed : c = '\n'
      · obtain ⟨others, split, found⟩ := ih []
        refine ⟨rest.takeWhile (· ≠ '\n') :: others, ?_, ?_⟩
        · rw [Text.splitFrom, if_pos feed, split]
          simp [feed]
        · rw [Text.findAfterBreak, if_pos feed, found, List.findSome?_cons, ← caret_at_line rest]
          cases caretAt rest with
          | none => rfl
          | some position => rfl
      · obtain ⟨others, split, found⟩ := ih (c :: piece)
        refine ⟨others, ?_, ?_⟩
        · rw [Text.splitFrom, if_neg feed, split]
          simp [feed]
        · rw [Text.findAfterBreak, if_neg feed, found]

theorem find_at_line_start (cs : List Char) :
    Text.findAtLineStart caretAt cs = (Text.splitOn '\n' cs).findSome? caretAt := by
  obtain ⟨others, split, found⟩ := find_lines [] cs
  rw [Text.splitOn, split, Text.findAtLineStart, found, List.findSome?_cons, List.reverse_nil, List.nil_append,
    ← caret_at_line cs]
  cases caretAt cs with
  | none => rfl
  | some position => rfl

theorem caret_at_none (line : List Char) : caretAt line = none ↔ ∀ n, ¬ CaretLine n line := by
  rw [Option.eq_none_iff_forall_ne_some]
  constructor
  · exact fun none n caret => none (n + 1) ((caret_at_iff line _).mpr ⟨n, rfl, caret⟩)
  · intro none position found
    obtain ⟨n, _, caret⟩ := (caret_at_iff line position).mp found
    exact none n caret

theorem first_caret_iff (lines : List (List Char)) (spaces : Nat) :
    lines.findSome? caretAt = some (spaces + 1) ↔ FirstCaret lines spaces := by
  rw [List.findSome?_eq_some_iff]
  have here (line : List Char) : caretAt line = some (spaces + 1) ↔ CaretLine spaces line := by
    rw [caret_at_iff]
    constructor
    · rintro ⟨n, same, caret⟩
      rwa [Nat.succ.inj same]
    · exact fun caret => ⟨spaces, rfl, caret⟩
  simp only [caret_at_none, here]
  rfl

theorem first_caret_after (front lines : List (List Char)) (spaces : Nat)
    (quiet : ∀ line ∈ front, ∀ n, ¬ CaretLine n line) :
    FirstCaret (front ++ lines) spaces ↔ FirstCaret lines spaces := by
  have none : front.findSome? caretAt = none :=
    List.findSome?_eq_none_iff.mpr fun line inside => (caret_at_none line).mpr (quiet line inside)
  rw [← first_caret_iff, ← first_caret_iff, List.findSome?_append, none, Option.none_or]

theorem first_caret_before (lines back : List (List Char)) (spaces : Nat)
    (quiet : ∀ line ∈ back, ∀ n, ¬ CaretLine n line) :
    FirstCaret (lines ++ back) spaces ↔ FirstCaret lines spaces := by
  have none : back.findSome? caretAt = none :=
    List.findSome?_eq_none_iff.mpr fun line inside => (caret_at_none line).mpr (quiet line inside)
  rw [← first_caret_iff, ← first_caret_iff, List.findSome?_append, none, Option.or_none]

theorem caret_iff (output : List Char) (column : UInt32) :
    caret? output = some column ↔
      ∃ spaces, column.toNat = spaces + 1 ∧ FirstCaret (Text.splitOn '\n' output) spaces := by
  rw [caret?, find_at_line_start, Option.bind_eq_some_iff]
  constructor
  · rintro ⟨position, found, small⟩
    obtain ⟨fits, same⟩ := Option.dite_none_right_eq_some.mp small
    cases same
    obtain ⟨line, _, caret⟩ := List.exists_of_findSome?_eq_some found
    obtain ⟨spaces, rfl, _⟩ := (caret_at_iff line position).mp caret
    exact ⟨spaces, UInt32.toNat_ofNatLT, (first_caret_iff _ spaces).mp found⟩
  · rintro ⟨spaces, position, first⟩
    have fits : spaces + 1 < UInt32.size := position ▸ column.toNat_lt
    refine ⟨spaces + 1, (first_caret_iff _ spaces).mpr first, ?_⟩
    rw [dif_pos fits, Option.some.injEq]
    exact UInt32.toNat_inj.mp (UInt32.toNat_ofNatLT.trans position.symm)

end Diagnostic

end PolicyHost.Build
