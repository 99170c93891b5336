import Mathlib.Data.List.TakeDrop
import Mathlib.Data.Prod.Lex
import PolicyHost.Proofs.Versions

set_option autoImplicit false

namespace PolicyHost

open Source (Blanks Ends)

namespace Text

theorem after_prefix_append (word rest : List Char) : afterPrefix? word (word ++ rest) = some rest := by
  rw [afterPrefix?, if_pos (List.isPrefixOf_iff_prefix.mpr (List.prefix_append word rest)), List.drop_left]

theorem prefix_before (word line rest : List Char) (c : Char) (free : c ∉ word) :
    word <+: line ++ c :: rest ↔ word <+: line := by
  constructor
  · intro front
    by_cases short : word.length ≤ line.length
    · exact List.prefix_of_prefix_length_le front (List.prefix_append line _) short
    · have whole : line ++ [c] <+: word :=
        List.prefix_of_prefix_length_le ⟨rest, by simp⟩ front (by simp; omega)
      exact absurd (whole.subset (by simp)) free
  · exact fun front => List.IsPrefix.trans front (List.prefix_append line _)

-- What a line was in the text: the line itself, perhaps with a carriage return that belongs to the line end.
def Closes (raw line : List Char) : Prop := raw = line ∨ raw = line ++ ['\r']

theorem close_line_closes (raw : List Char) : Closes raw (closeLine raw.reverse) := by
  unfold closeLine
  split
  · next line back =>
      refine .inr ?_
      rw [← List.reverse_reverse raw, back, List.reverse_cons]
  · exact .inl (List.reverse_reverse raw).symm

theorem lines_from_cases (piece cs first : List Char) (others : List (List Char))
    (split : linesFrom piece cs = first :: others) :
    (piece.reverse ++ cs = first ∧ others = []) ∨
      ∃ front rest, cs = front ++ '\n' :: rest ∧ '\n' ∉ front ∧ Closes (piece.reverse ++ front) first ∧
        lines rest = others := by
  induction cs generalizing piece with
  | nil =>
      rw [linesFrom] at split
      split at split
      · cases split
      · cases split
        exact .inl ⟨List.append_nil _, rfl⟩
  | cons c cs ih =>
      by_cases feed : c = '\n'
      · rw [linesFrom, if_pos feed] at split
        obtain ⟨rfl, rfl⟩ := List.cons.inj split
        refine .inr ⟨[], cs, by rw [feed]; rfl, List.not_mem_nil, ?_, rfl⟩
        have closed := close_line_closes piece.reverse
        rwa [List.reverse_reverse, ← List.append_nil piece.reverse] at closed
      · rw [linesFrom, if_neg feed] at split
        rcases ih (c :: piece) split with ⟨whole, last⟩ | ⟨front, rest, rfl, single, closed, more⟩
        · exact .inl ⟨by simpa using whole, last⟩
        · exact .inr ⟨c :: front, rest, rfl, by simp [Ne.symm feed, single], by simpa using closed, more⟩

theorem lines_cases (cs first : List Char) (others : List (List Char)) (split : lines cs = first :: others) :
    (cs = first ∧ others = []) ∨
      ∃ raw rest, cs = raw ++ '\n' :: rest ∧ '\n' ∉ raw ∧ Closes raw first ∧ lines rest = others :=
  lines_from_cases [] cs first others split

theorem lines_first (cs first : List Char) (others : List (List Char)) (split : lines cs = first :: others) :
    ∃ tail, cs = first ++ tail ∧ ∀ c, tail.head? = some c → c = '\n' ∨ c = '\r' := by
  rcases lines_cases cs first others split with ⟨rfl, _⟩ | ⟨raw, rest, rfl, _, closed, _⟩
  · exact ⟨[], (List.append_nil _).symm, by simp⟩
  · rcases closed with rfl | rfl
    · exact ⟨'\n' :: rest, rfl, by simp⟩
    · exact ⟨'\r' :: '\n' :: rest, by simp, by simp⟩

variable {α : Type} (p : List Char → Option α)

theorem find_after_break_line (line rest : List Char) (single : '\n' ∉ line) :
    findAfterBreak p (line ++ '\n' :: rest) = findAtLineStart p rest := by
  induction line with
  | nil => rfl
  | cons c line ih =>
      obtain ⟨other, single⟩ := List.ne_and_not_mem_of_not_mem_cons single
      rw [List.cons_append, findAfterBreak, if_neg (Ne.symm other)]
      exact ih single

theorem find_next_line (line rest : List Char) (single : '\n' ∉ line) (none : p (line ++ '\n' :: rest) = none) :
    findAtLineStart p (line ++ '\n' :: rest) = findAtLineStart p rest := by
  rw [findAtLineStart, none, find_after_break_line p line rest single]

theorem find_first_line (cs : List Char) (found : α) (read : p cs = some found) :
    findAtLineStart p cs = some found := by
  rw [findAtLineStart, read]

end Text

namespace Version

open Text (Signed)

def title : List Char := "Version:".toList

theorem digit_run_decimal (n : Nat) (rest : List Char) (ends : Ends Text.isDecimal rest) :
    digitRun (Text.decimal n ++ rest) = some (Text.decimal n, rest) := by
  have digits := Text.decimal_decimal n
  obtain ⟨c, more, split⟩ := List.exists_cons_of_ne_nil (Text.decimal_filled n)
  rw [digitRun, List.span_eq_takeWhile_dropWhile, Source.take_run _ _ _ digits ends, Source.drop_run _ _ _ digits ends,
    split]

theorem line_at_untitled (cs : List Char) (untitled : ¬ title <+: cs) : lineAt cs = none := by
  have missed : ¬ title.isPrefixOf cs = true := fun front => untitled (List.isPrefixOf_iff_prefix.mp front)
  have none : Text.afterPrefix? "Version:".toList cs = none := if_neg missed
  rw [lineAt, none]
  rfl

section Line

variable (v : Version) (mark tail : List Char) (marked : SingleMark mark)

theorem chars_append : v.chars ++ tail = Text.decimal v.major.toNat ++
    '.' :: (Text.decimal v.minor.toNat ++ '.' :: (Text.decimal v.patch.toNat ++ tail)) := by
  simp [chars]

theorem chars_first : ∃ c rest, Text.isDigit c = true ∧ v.chars ++ tail = c :: rest := by
  obtain ⟨c, rest, split⟩ := List.exists_cons_of_ne_nil (Text.decimal_filled v.major.toNat)
  have digit := Text.decimal_digit v.major.toNat c (split ▸ List.mem_cons_self)
  exact ⟨c, _, digit, by rw [chars_append, split, List.cons_append]⟩

include marked in
theorem marked_solid : Ends Text.isBlank (mark ++ (v.chars ++ tail)) := by
  rcases marked with rfl | rfl
  · obtain ⟨c, rest, digit, split⟩ := chars_first v tail
    rw [List.nil_append, split]
    exact Source.ends_cons _ c rest (Text.digit_solid c digit)
  · exact Source.ends_cons _ 'v' _ rfl

include marked in
theorem mark_passed :
    (Text.afterPrefix? ['v'] (mark ++ (v.chars ++ tail))).getD (mark ++ (v.chars ++ tail)) = v.chars ++ tail := by
  rcases marked with rfl | rfl
  · obtain ⟨c, rest, digit, split⟩ := chars_first v tail
    have other : ¬ ['v'].isPrefixOf (c :: rest) = true := by
      simp only [List.isPrefixOf, Bool.and_true, beq_iff_eq]
      rintro rfl
      cases digit
    rw [List.nil_append, split, Text.afterPrefix?, if_neg other, Option.getD_none]
  · rw [Text.after_prefix_append, Option.getD_some]

include marked in
theorem line_at_version (pad : List Char) (blank : Blanks pad) (ends : Ends Text.isDecimal tail) :
    lineAt (title ++ (pad ++ (mark ++ (v.chars ++ tail)))) =
      some (Text.decimal v.major.toNat, Text.decimal v.minor.toNat, Text.decimal v.patch.toNat) := by
  have point (rest : List Char) : Ends Text.isDecimal ('.' :: rest) := Source.ends_cons _ _ _ (by decide)
  have pass (rest : List Char) : Text.afterPrefix? ['.'] ('.' :: rest) = some rest :=
    Text.after_prefix_append ['.'] rest
  have titled (rest : List Char) : Text.afterPrefix? "Version:".toList (title ++ rest) = some rest :=
    Text.after_prefix_append title rest
  rw [lineAt, titled]
  simp only [Option.bind_eq_bind, Option.bind_some]
  rw [Source.skip_blanks_run pad _ blank (marked_solid v mark tail marked), mark_passed v mark tail marked,
    chars_append]
  simp only [digit_run_decimal _ _ (point _), digit_run_decimal _ _ ends, pass, Option.bind_some]

end Line

theorem of_parts_decimal (v : Version) :
    ofParts? (Text.decimal v.major.toNat) (Text.decimal v.minor.toNat) (Text.decimal v.patch.toNat) = some v :=
  (of_parts_iff _ _ _ v).mpr ⟨Text.decimal_signed _, Text.decimal_signed _, Text.decimal_signed _⟩

theorem chars_dotted (v : Version) : Dotted Signed v.chars v :=
  ⟨_, _, _, by simp [chars], Text.decimal_signed _, Text.decimal_signed _, Text.decimal_signed _⟩

theorem parse_chars (v : Version) (front mark back : List Char) (blankFront : Blanks front) (marked : SingleMark mark)
    (blankBack : Blanks back) : parse? (String.ofList (front ++ ((mark ++ v.chars) ++ back))) = some v :=
  (parse_iff _ v).mpr ⟨front, mark, v.chars, back, String.toList_ofList, blankFront,
    ((single_mark_iff mark).mp marked).1, chars_dotted v, blankBack⟩

theorem parse_text (v : Version) : parse? v.text = some v := by
  have read := parse_chars v [] [] [] (List.forall_mem_nil _) (.inl rfl) (List.forall_mem_nil _)
  rwa [List.nil_append, List.nil_append, List.append_nil] at read

section Search

variable (v : Version) (pad mark : List Char) (blank : Blanks pad) (marked : SingleMark mark)

include blank marked in
theorem line_at_first (cs : List Char) (others : List (List Char))
    (split : Text.lines cs = (title ++ (pad ++ (mark ++ v.chars))) :: others) :
    lineAt cs =
      some (Text.decimal v.major.toNat, Text.decimal v.minor.toNat, Text.decimal v.patch.toNat) := by
  obtain ⟨tail, rfl, ends⟩ := Text.lines_first cs _ others split
  have goesOn : Ends Text.isDecimal tail := fun c first => by
    rcases ends c first with rfl | rfl
    · decide
    · decide
  have shape : title ++ (pad ++ (mark ++ v.chars)) ++ tail = title ++ (pad ++ (mark ++ (v.chars ++ tail))) := by simp
  rw [shape]
  exact line_at_version v mark tail marked pad blank goesOn

include blank marked in
theorem find_at_version (cs : List Char) (before after : List (List Char))
    (split : Text.lines cs = before ++ (title ++ (pad ++ (mark ++ v.chars))) :: after)
    (untitled : ∀ line ∈ before, ¬ title <+: line) :
    Text.findAtLineStart lineAt cs =
      some (Text.decimal v.major.toNat, Text.decimal v.minor.toNat, Text.decimal v.patch.toNat) := by
  induction before generalizing cs with
  | nil => exact Text.find_first_line lineAt cs _ (line_at_first v pad mark blank marked cs after split)
  | cons line before ih =>
      obtain ⟨here, others⟩ := List.forall_mem_cons.mp untitled
      rcases Text.lines_cases cs line _ split with ⟨_, last⟩ | ⟨raw, rest, rfl, single, closed, more⟩
      · simp at last
      · have unnamed : ¬ title <+: raw := by
          rcases closed with rfl | rfl
          · exact here
          · exact mt (Text.prefix_before title line [] '\r' (by decide)).mp here
        have passed : lineAt (raw ++ '\n' :: rest) = none :=
          line_at_untitled _ (mt (Text.prefix_before title raw rest '\n' (by decide)).mp unnamed)
        rw [Text.find_next_line lineAt raw rest single passed]
        exact ih rest more others

include blank marked in
theorem find_version (text : String) (before after : List (List Char))
    (split : Text.lines text.toList = before ++ (title ++ (pad ++ (mark ++ v.chars))) :: after)
    (untitled : ∀ line ∈ before, ¬ title <+: line) : find? text = some v := by
  rw [find?, find_at_version v pad mark blank marked _ before after split untitled]
  exact of_parts_decimal v

end Search

def triple (v : Version) : ℕ ×ₗ ℕ ×ₗ ℕ := toLex (v.major.toNat, toLex (v.minor.toNat, v.patch.toNat))

theorem compare_number (m n : UInt32) : Ord.compare m n = Ord.compare m.toNat n.toNat := by
  simp [Ord.compare, compareOfLessAndEq, UInt32.lt_iff_toNat_lt, ← UInt32.toNat_inj]

theorem compare_triple (v w : Version) : v.compare w = Ord.compare v.triple w.triple := by
  simp only [compare, compare_number, triple, Prod.Lex.compare_def, compareLex, compareOn]
  rfl

theorem text_chars (v : Version) : v.text.toList = v.chars := String.toList_ofList

-- What is kept of a version when it is printed: it is read back from its text, with at most one mark and any blanks
-- around; it is found in an output whose first line with a title has its text; and the text has its place in the order.
structure Retold (v : Version) : Prop where
  parsed : ∀ front mark back, Blanks front → SingleMark mark → Blanks back →
    parse? (String.ofList (front ++ ((mark ++ v.text.toList) ++ back))) = some v
  found : ∀ (output : String) (before : List (List Char)) (pad mark : List Char) (after : List (List Char)),
    Text.lines output.toList = before ++ (title ++ (pad ++ (mark ++ v.text.toList))) :: after →
    (∀ line ∈ before, ¬ title <+: line) → Blanks pad → SingleMark mark → find? output = some v
  ordered : ∀ w : Version, ∃ a b, parse? v.text = some a ∧ parse? w.text = some b ∧
    (a.compare b = .lt ↔ v.triple < w.triple) ∧ (a.compare b = .eq ↔ v.triple = w.triple) ∧
    (a.compare b = .gt ↔ w.triple < v.triple)

theorem versions_retold (v : Version) : Retold v where
  parsed front mark back blankFront marked blankBack := by
    rw [text_chars]
    exact parse_chars v front mark back blankFront marked blankBack
  found output before pad mark after split untitled blank marked := by
    rw [text_chars] at split
    exact find_version v pad mark blank marked output before after split untitled
  ordered w := by
    refine ⟨v, w, parse_text v, parse_text w, ?_⟩
    rw [compare_triple]
    exact ⟨compare_lt_iff_lt, compare_eq_iff_eq, compare_gt_iff_gt⟩

theorem versions_retold_amid_lines :
    find? "Go Version: go1.22\n Version: 9.9.9\nVersion: v0.70.0\r\nVersion: 1.2.3\n" = some ⟨0, 70, 0⟩ :=
  (versions_retold ⟨0, 70, 0⟩).found _ ["Go Version: go1.22".toList, " Version: 9.9.9".toList] [' '] ['v']
    ["Version: 1.2.3".toList] (by decide) (by decide) (List.forall_mem_singleton.mpr rfl) (.inr rfl)

end Version

end PolicyHost
