import PolicyHost.Proofs.Diagnoses

set_option autoImplicit false

namespace PolicyHost.Build

open Diagnostic

structure Entry where
  report : Report
  quoted : Option (List Char)
  caret : Option Nat

namespace Entry

def quotedLines (e : Entry) : List (List Char) := (e.quoted.map fun text => '\t' :: text).toList

def caretLines (e : Entry) : List (List Char) :=
  (e.caret.map fun spaces => '\t' :: (List.replicate spaces ' ' ++ ['^'])).toList

def lines (e : Entry) : List (List Char) := e.report.chars :: (e.quotedLines ++ e.caretLines)

def caretColumn (e : Entry) : Option UInt32 :=
  e.caret.bind fun spaces => if h : spaces + 1 < UInt32.size then some (UInt32.ofNatLT (spaces + 1) h) else none

def column (e : Entry) : Option UInt32 := e.report.column.or e.caretColumn

structure Printed (e : Entry) : Prop where
  report : Report.Printed e.report
  error : e.report.code = Report.parseError
  single : ∀ text, e.quoted = some text → '\n' ∉ text

end Entry

structure Printout where
  above : List (List Char)
  lead : List Char
  entries : List Entry
  ending : List Char

namespace Printout

def behind (lead : List Char) : List (List Char) → List (List Char)
  | [] => [lead]
  | line :: lines => (lead ++ line) :: lines

def lines (p : Printout) : List (List Char) := p.above ++ behind p.lead (p.entries.flatMap Entry.lines)

def output (p : Printout) : List Char := ['\n'].intercalate p.lines ++ p.ending

def header (p : Printout) : List Char := p.above.flatMap (fun line => line ++ ['\n']) ++ p.lead

structure Printed (p : Printout) : Prop where
  above : ∀ line ∈ p.above, '\n' ∉ line
  lead : '\n' ∉ p.lead
  plain : Unnumbered p.header
  entries : ∀ e ∈ p.entries, e.Printed
  ends : Closing p.ending

def down (p : Printout) (e : Entry) : List (List Char) := p.above ++ (p.lead ++ e.report.chars) :: e.quotedLines

-- What an answer says of the first entry `e`: its line and the column it names. Otherwise the first caret counts, and
-- if none stands down to what `e` quotes, that is the caret of `e` or, for want of one, that of a later entry.
structure Located (p : Printout) (e : Entry) (others : List Entry) (answer : Failure) : Prop where
  kind : answer.kind = .syntaxError
  line : answer.line = some e.report.row
  named : ∀ column, e.report.column = some column → answer.column = some column
  first : e.report.column = none → ∀ column, answer.column = some column ↔
    ∃ spaces, column.toNat = spaces + 1 ∧ FirstCaret p.lines spaces
  own : e.report.column = none → (∀ line ∈ p.down e, ∀ n, ¬ CaretLine n line) → e.caret.isSome →
    answer.column = e.caretColumn
  later : e.report.column = none → (∀ line ∈ p.down e, ∀ n, ¬ CaretLine n line) → e.caret = none →
    ∀ column, answer.column = some column ↔
      ∃ spaces, column.toNat = spaces + 1 ∧ FirstCaret (others.flatMap Entry.lines) spaces

def Told (p : Printout) (answer : Failure) : Prop :=
  match p.entries with
  | [] => answer.line = none ∧ answer.column = none
  | e :: others => p.Located e others answer

theorem lines_first (p : Printout) (e : Entry) (others : List Entry) (split : p.entries = e :: others) :
    p.lines = p.down e ++ (e.caretLines ++ others.flatMap Entry.lines) := by
  simp [lines, down, split, Entry.lines, behind]

theorem lines_filled (p : Printout) : p.lines ≠ [] := by
  unfold lines behind
  split
  · simp
  · simp

theorem above_joined (above : List (List Char)) (line : List Char) (rest : List (List Char)) :
    ['\n'].intercalate (above ++ line :: rest) =
      above.flatMap (fun line => line ++ ['\n']) ++ ['\n'].intercalate (line :: rest) := by
  induction above with
  | nil => rfl
  | cons first above ih =>
      cases above with
      | nil => simp
      | cons next above => simpa using ih

end Printout

namespace Entry

theorem report_single (r : Report) (printed : Report.Printed r) : '\n' ∉ r.chars := by
  have code : '\n' ∉ r.code := code_free r.code printed.code '\n' rfl
  have column : '\n' ∉ Report.columnChars r.column := by
    cases r.column with
    | none => exact List.not_mem_nil
    | some n => simpa [Report.columnChars] using Text.decimal_free n.toNat '\n' rfl
  have row := Text.decimal_free r.row.toNat '\n' rfl
  simp [Report.chars, Report.place, Report.told, printed.single, printed.message.single, code, column, row]

theorem lines_single (e : Entry) (printed : e.Printed) : ∀ line ∈ e.lines, '\n' ∉ line := by
  have quoted : ∀ line ∈ e.quotedLines, '\n' ∉ line := by
    intro line inside
    obtain ⟨text, there, rfl⟩ := Option.map_eq_some_iff.mp (Option.mem_toList.mp inside)
    simpa using printed.single text there
  have caret : ∀ line ∈ e.caretLines, '\n' ∉ line := by
    intro line inside
    obtain ⟨spaces, _, rfl⟩ := Option.map_eq_some_iff.mp (Option.mem_toList.mp inside)
    simp [List.mem_replicate]
  exact List.forall_mem_cons.mpr ⟨report_single e.report printed.report, List.forall_mem_append.mpr ⟨quoted, caret⟩⟩

end Entry

namespace Printout

section Lines

variable (p : Printout) (printed : p.Printed)

include printed in
theorem lines_single : ∀ line ∈ p.lines, '\n' ∉ line := by
  have entries : ∀ line ∈ p.entries.flatMap Entry.lines, '\n' ∉ line := by
    intro line inside
    obtain ⟨e, there, inside⟩ := List.mem_flatMap.mp inside
    exact e.lines_single (printed.entries e there) line inside
  refine List.forall_mem_append.mpr ⟨printed.above, ?_⟩
  unfold behind
  split
  · exact List.forall_mem_singleton.mpr printed.lead
  · next first rest split =>
      rw [split] at entries
      obtain ⟨first, rest⟩ := List.forall_mem_cons.mp entries
      exact List.forall_mem_cons.mpr ⟨by simp [printed.lead, first], rest⟩

include printed in
theorem first_caret_output (spaces : Nat) :
    FirstCaret (Text.splitOn '\n' p.output) spaces ↔ FirstCaret p.lines spaces := by
  have single := p.lines_single printed
  rw [Text.split_on_eq, output]
  rcases printed.ends with none | feed
  · rw [none, List.append_nil, List.splitOn_intercalate _ single p.lines_filled]
  · have joined : ['\n'].intercalate p.lines ++ ['\n'] = ['\n'].intercalate (p.lines ++ [[]]) := by
      obtain ⟨lines, last, split⟩ := List.eq_nil_or_concat p.lines |>.resolve_left p.lines_filled
      simp [split, above_joined]
    have free : ∀ line ∈ p.lines ++ [[]], '\n' ∉ line :=
      List.forall_mem_append.mpr ⟨single, List.forall_mem_singleton.mpr List.not_mem_nil⟩
    rw [feed, joined, List.splitOn_intercalate _ free (by simp)]
    refine first_caret_before p.lines [[]] spaces (List.forall_mem_singleton.mpr ?_)
    rintro _ ⟨_, ⟨⟩⟩

end Lines

section Diagnose

variable (p : Printout) (printed : p.Printed)

include printed in
theorem output_first (e : Entry) (others : List Entry) (split : p.entries = e :: others) :
    ∃ tail, Breaks tail ∧ p.output = p.header ++ (e.report.chars ++ tail) := by
  obtain ⟨tail, breaks, same⟩ := lines_cons (p.lead ++ e.report.chars)
    (e.quotedLines ++ e.caretLines ++ others.flatMap Entry.lines) p.ending
    (closing_breaks p.ending printed.ends)
  refine ⟨tail, breaks, ?_⟩
  have lines : p.lines = p.above ++ (p.lead ++ e.report.chars) ::
      (e.quotedLines ++ e.caretLines ++ others.flatMap Entry.lines) := by
    simp [p.lines_first e others split, down]
  rw [output, lines, above_joined, List.append_assoc, same, header]
  simp

include printed in
theorem first_diagnosed (source : String) (e : Entry) (others : List Entry) (split : p.entries = e :: others) :
    diagnose source (String.ofList p.output) =
      { e.report.syntaxFailure source with column := e.report.column.or (caret? p.output) } := by
  obtain ⟨whole, error, _⟩ := printed.entries e (split ▸ List.mem_cons_self)
  obtain ⟨tail, breaks, same⟩ := p.output_first printed e others split
  have found : find? parseMessage? p.output = some (ofReport e.report e.report.message) := by
    rw [find_eq, same, find_passes_unnumbered _ _ _ printed.plain (report_unstarted e.report whole tail)]
    exact find_report_read _ e.report whole tail _ (parse_read e.report whole error tail breaks)
  rw [diagnose, String.toList_ofList, found]
  dsimp only
  rw [syntaxFailure, of_report_line, of_report_named]
  rfl

include printed in
theorem none_diagnosed (source : String) (none : p.entries = []) :
    (diagnose source (String.ofList p.output)).line = .none ∧
      (diagnose source (String.ofList p.output)).column = .none := by
  have output : p.output = p.header ++ p.ending := by
    simp [Printout.output, lines, header, none, behind, above_joined]
  have missed (read : List Char → Option (List Char)) : find? read p.output = .none := by
    have unstarted : number? p.ending = .none := by
      rcases printed.ends with ends | ends
      · rw [ends]
        rfl
      · rw [ends]
        rfl
    rw [find_eq, output, find_passes_unnumbered read _ _ printed.plain unstarted, closing_quiet read _ printed.ends]
  rw [diagnose, String.toList_ofList, missed, missed]
  exact ⟨rfl, rfl⟩

-- The entry's caret is the first, so it is the one that counts.
include printed in
theorem own_caret (e : Entry) (others : List Entry) (split : p.entries = e :: others)
    (quiet : ∀ line ∈ p.down e, ∀ n, ¬ CaretLine n line) (caret : e.caret.isSome) :
    caret? p.output = e.caretColumn := by
  obtain ⟨spaces, there⟩ := Option.isSome_iff_exists.mp caret
  have first : FirstCaret p.lines spaces := by
    refine ⟨p.down e, _, others.flatMap Entry.lines, ?_, ⟨[], rfl⟩, quiet⟩
    rw [p.lines_first e others split]
    simp [Entry.caretLines, there]
  have found := (first_caret_iff _ spaces).mpr ((p.first_caret_output printed spaces).mpr first)
  rw [caret?, find_at_line_start, found, Entry.caretColumn, there]
  rfl

end Diagnose

theorem excerpts_diagnosed (source : String) (p : Printout) (printed : p.Printed) :
    p.Told (diagnose source (String.ofList p.output)) := by
  unfold Told
  split
  · next none => exact p.none_diagnosed printed source none
  · next e others split =>
      rw [p.first_diagnosed printed source e others split]
      have first (unnamed : e.report.column = none) (column : UInt32) :
          e.report.column.or (caret? p.output) = some column ↔
            ∃ spaces, column.toNat = spaces + 1 ∧ FirstCaret p.lines spaces := by
        rw [unnamed, Option.none_or, caret_iff]
        simp only [p.first_caret_output printed]
      refine ⟨rfl, rfl, ?named, first, ?own, ?later⟩
      case named =>
        intro column name
        exact name ▸ Option.some_or
      case own =>
        intro unnamed quiet caret
        have own := p.own_caret printed e others split quiet caret
        exact unnamed ▸ own
      case later =>
        intro unnamed quiet caretless column
        rw [first unnamed, p.lines_first e others split]
        simp [first_caret_after _ _ _ quiet, Entry.caretLines, caretless]

def uncolumned (file : String) (row : UInt32) (message : String) : Report :=
  { file := file.toList, row, column := none, code := Report.parseError, message := message.toList }

def unmarked : Entry :=
  { report := uncolumned "p.rego" 3 "unexpected eof"
    quoted := none
    caret := none }

def marked : Entry :=
  { report := uncolumned "q.rego" 8 "bad token"
    quoted := some "allow iff \x7b".toList
    caret := some 6 }

def borrowing : Printout :=
  { above := ["2 errors occurred:".toList], lead := [], entries := [unmarked, marked], ending := ['\n'] }

theorem borrowing_printed : borrowing.Printed := by
  have unmarked : unmarked.Printed :=
    ⟨⟨by decide, by decide, by decide, Report.parse_error_coded, by decide⟩, rfl, nofun⟩
  have marked : marked.Printed := by
    refine ⟨⟨by decide, by decide, by decide, Report.parse_error_coded, by decide⟩, rfl, ?_⟩
    rintro _ ⟨⟩
    decide
  have entries : ∀ e ∈ borrowing.entries, e.Printed :=
    List.forall_mem_cons.mpr ⟨unmarked, List.forall_mem_singleton.mpr marked⟩
  exact ⟨by decide, by decide, by decide, entries, .inr rfl⟩

example : String.ofList borrowing.output =
    "2 errors occurred:\np.rego:3: rego_parse_error: unexpected eof\nq.rego:8: rego_parse_error: bad token\n" ++
      "\tallow iff \x7b\n\t      ^\n" := by cbv

theorem excerpts_diagnosed_borrowing :
    borrowing.Printed ∧ borrowing.Told (diagnose "p.rego" (String.ofList borrowing.output)) :=
  ⟨borrowing_printed, excerpts_diagnosed "p.rego" borrowing borrowing_printed⟩

def Tells (answer : Failure) (e : Entry) : Prop := answer.line = some e.report.row ∧ answer.column = e.column

theorem column_borrowed :
    ¬ ∀ (source : String) (p : Printout), p.Printed → p.entries ≠ [] →
      ∃ e ∈ p.entries, Tells (diagnose source (String.ofList p.output)) e := by
  intro coherent
  have caret : caret? borrowing.output = some 7 := by decide
  obtain ⟨e, inside, line, column⟩ := coherent "p.rego" borrowing borrowing_printed (by simp [borrowing])
  rw [borrowing.first_diagnosed borrowing_printed "p.rego" unmarked [marked] rfl, caret] at line column
  rcases List.mem_cons.mp inside with rfl | inside
  · cases column
  · rw [List.mem_singleton.mp inside] at line
    cases line

end Printout

end PolicyHost.Build
