import PolicyHost.Proofs.Carets

set_option autoImplicit false

namespace PolicyHost.Build

namespace Report

def listing (reports : List Report) : List Char := ['\n'].intercalate (reports.map chars)

def syntaxFailure (source : String) (r : Report) : Failure :=
  { kind := .syntaxError
    message := "syntax error in " ++ source ++ ": " ++ String.ofList r.message
    line := some r.row
    column := r.column
    suggestions := ["check the syntax near line " ++ toString r.row.toNat,
      "run `opa check` on the file for full diagnostics"] }

def compilationFailure (r : Report) : Failure :=
  { kind := .compilationError
    message := "compilation failed: " ++ String.ofList r.told
    line := some r.row
    column := r.column }

end Report

namespace Diagnostic

def ofReport (r : Report) (text : List Char) : Diagnostic :=
  { row := Text.decimal r.row.toNat, column := r.column.map fun n => Text.decimal n.toNat, text }

theorem of_report_line (r : Report) (text : List Char) : (ofReport r text).line = some r.row :=
  Text.parse_uint32_decimal r.row

theorem of_report_named (r : Report) (text : List Char) : (ofReport r text).named = r.column := by
  unfold named ofReport
  cases r.column with
  | none => rfl
  | some n => exact Text.parse_uint32_decimal n

def Closing (ending : List Char) : Prop := ending = [] ∨ ending = ['\n']

theorem closing_breaks (ending : List Char) (closing : Closing ending) : Breaks ending := by
  rcases closing with rfl | rfl
  · rintro _ ⟨⟩
  · exact feed_breaks []

theorem closing_quiet (read : List Char → Option (List Char)) (ending : List Char) (closing : Closing ending) :
    Text.findAnywhere (locatedAt read) ending = none := by
  rcases closing with rfl | rfl
  · rfl
  · rfl

theorem lines_cons (line : List Char) (rest : List (List Char)) (ending : List Char) (breaks : Breaks ending) :
    ∃ tail, Breaks tail ∧ ['\n'].intercalate (line :: rest) ++ ending = line ++ tail := by
  cases rest with
  | nil => exact ⟨ending, breaks, by simp⟩
  | cons next rest =>
      exact ⟨'\n' :: (['\n'].intercalate (next :: rest) ++ ending), feed_breaks _, by simp⟩

theorem listing_cons (r : Report) (rest : List Report) (ending : List Char) (breaks : Breaks ending) :
    ∃ tail, Breaks tail ∧ Report.listing (r :: rest) ++ ending = r.chars ++ tail :=
  lines_cons r.chars (rest.map Report.chars) ending breaks

section Search

variable (read : List Char → Option (List Char)) (ending : List Char)

-- A report that is not read is passed over, with the line feed behind it.
theorem find_next_report (r : Report) (rest : List Report) (printed : Report.Printed r) (plain : ':' ∉ r.message)
    (unread : ∀ tail, read (r.told ++ tail) = none) :
    Text.findAnywhere (locatedAt read) (Report.listing (r :: rest) ++ ending) =
      Text.findAnywhere (locatedAt read) (Report.listing rest ++ ending) := by
  cases rest with
  | nil =>
      have passed := find_report_unread read r printed plain ending (unread ending)
      simpa [Report.listing] using passed
  | cons next rest =>
      have feed := find_passes_colonless read ['\n'] (Report.listing (next :: rest) ++ ending) (by decide)
      have passed := find_report_unread read r printed plain (['\n'] ++ (Report.listing (next :: rest) ++ ending))
        (unread _)
      rw [← feed, ← passed]
      simp [Report.listing]

-- The first of the reports that are read is found. The induction is on the reports: the others are passed over.
theorem find_listed (wanted : Report → Bool) (text : Report → List Char) (reports : List Report)
    (printed : ∀ r ∈ reports, Report.Printed r ∧ ':' ∉ r.message) (breaks : Breaks ending)
    (quiet : Text.findAnywhere (locatedAt read) ending = none)
    (told : ∀ r ∈ reports, wanted r = true → ∀ tail, Breaks tail → read (r.told ++ tail) = some (text r))
    (untold : ∀ r ∈ reports, wanted r = false → ∀ tail, read (r.told ++ tail) = none) :
    Text.findAnywhere (locatedAt read) (Report.listing reports ++ ending) =
      (reports.find? wanted).map fun r => ofReport r (text r) := by
  induction reports with
  | nil => exact quiet
  | cons r rest ih =>
      obtain ⟨⟨whole, plain⟩, printed⟩ := List.forall_mem_cons.mp printed
      obtain ⟨here, told⟩ := List.forall_mem_cons.mp told
      obtain ⟨none, untold⟩ := List.forall_mem_cons.mp untold
      cases want : wanted r with
      | true =>
          obtain ⟨tail, broken, split⟩ := listing_cons r rest ending breaks
          rw [split, find_report_read read r whole tail (text r) (here want tail broken), List.find?_cons_of_pos want]
          rfl
      | false =>
          have skip : ¬ wanted r = true := by simp [want]
          rw [find_next_report read ending r rest whole plain (none want), List.find?_cons_of_neg skip]
          exact ih printed told untold

theorem find_past_header (header : List Char) (r : Report) (rest : List Report) (printed : Report.Printed r)
    (breaks : Breaks ending) (plain : Unnumbered header) :
    Text.findAnywhere (locatedAt read) (header ++ (Report.listing (r :: rest) ++ ending)) =
      Text.findAnywhere (locatedAt read) (Report.listing (r :: rest) ++ ending) := by
  obtain ⟨tail, _, split⟩ := listing_cons r rest ending breaks
  rw [split]
  exact find_passes_unnumbered read header _ plain (report_unstarted r printed tail)

end Search

theorem parse_unread (r : Report) (printed : Report.Printed r) (other : r.code ≠ Report.parseError) (tail : List Char) :
    parseMessage? (r.told ++ tail) = none := by
  rw [told_append]
  exact parse_message_missed r.code _ printed.code other

theorem parse_read (r : Report) (printed : Report.Printed r) (error : r.code = Report.parseError) (tail : List Char)
    (breaks : Breaks tail) : parseMessage? (r.told ++ tail) = some r.message := by
  rw [told_append, error]
  exact parse_message_read r.message tail printed.message breaks

theorem coded_read (r : Report) (printed : Report.Printed r) (tail : List Char) (breaks : Breaks tail) :
    codedMessage? (r.told ++ tail) = some r.told := by
  rw [told_append]
  exact coded_message_read r.message tail printed.message breaks r.code printed.code

theorem caret_tabless (output : List Char) (tabless : ∀ line ∈ Text.splitOn '\n' output, line.head? ≠ some '\t') :
    caret? output = none := by
  refine Option.eq_none_iff_forall_ne_some.mpr fun column found => ?_
  obtain ⟨_, _, before, line, after, split, ⟨more, tabbed⟩, _⟩ := (caret_iff output column).mp found
  have inside : line ∈ Text.splitOn '\n' output := by
    rw [split]
    exact List.mem_append_right _ List.mem_cons_self
  refine tabless line inside ?_
  rw [tabbed, List.head?_cons]

end Diagnostic

-- What is said of a list of errors: the first parse error, wherever it stands, and else the first error.
def Report.foremost (source : String) (reports : List Report) (filled : reports ≠ []) : Failure :=
  match reports.find? (·.code = parseError) with
  | some r => r.syntaxFailure source
  | none => (reports.head filled).compilationFailure

open Diagnostic in
theorem listing_diagnosed (source : String) (header ending : List Char) (reports : List Report) (filled : reports ≠ [])
    (plain : Unnumbered header) (printed : ∀ r ∈ reports, Report.Printed r ∧ ':' ∉ r.message)
    (ends : Closing ending)
    (tabless : ∀ line ∈ Text.splitOn '\n' (header ++ (Report.listing reports ++ ending)), line.head? ≠ some '\t') :
    diagnose source (String.ofList (header ++ (Report.listing reports ++ ending))) =
      Report.foremost source reports filled := by
  have breaks := closing_breaks ending ends
  have past (read : List Char → Option (List Char)) :
      find? read (header ++ (Report.listing reports ++ ending)) =
        Text.findAnywhere (locatedAt read) (Report.listing reports ++ ending) := by
    obtain ⟨first, others, rfl⟩ := List.exists_cons_of_ne_nil filled
    exact find_past_header read ending header first others (printed first List.mem_cons_self).1 breaks plain
  have parsed := find_listed parseMessage? ending (fun r => decide (r.code = Report.parseError)) (fun r => r.message)
    reports printed breaks (closing_quiet _ ending ends)
    (fun r inside error => parse_read r (printed r inside).1 (of_decide_eq_true error))
    (fun r inside other => parse_unread r (printed r inside).1 (of_decide_eq_false other))
  have coded := find_listed codedMessage? ending (fun _ => true) Report.told reports printed breaks
    (closing_quiet _ ending ends) (fun r inside _ => coded_read r (printed r inside).1) fun _ _ => nofun
  rw [diagnose, String.toList_ofList, past, past, parsed, coded, caret_tabless _ tabless]
  unfold Report.foremost
  cases reports.find? fun r => decide (r.code = Report.parseError) with
  | some r =>
      simp only [Option.map_some, syntaxFailure, of_report_line, of_report_named, Option.or_none]
      rfl
  | none =>
      obtain ⟨first, others, rfl⟩ := List.exists_cons_of_ne_nil filled
      simp only [Option.map_none, List.find?_cons_of_pos, Option.map_some, compilationFailure, of_report_line,
        of_report_named]
      rfl

def Report.untyped : Report :=
  { file := "a.rego".toList
    row := 9
    column := some 2
    code := "rego_type_error".toList
    message := "mismatch".toList }

def Report.unparsed : Report :=
  { file := "p.rego".toList
    row := 3
    column := none
    code := parseError
    message := "unexpected eof".toList }

theorem parse_error_diagnosed :
    diagnose "policy" "2 errors:\na.rego:9:2: rego_type_error: mismatch\np.rego:3: rego_parse_error: unexpected eof\n" =
      { kind := .syntaxError
        message := "syntax error in policy: unexpected eof"
        line := some 3
        column := none
        suggestions := ["check the syntax near line 3", "run `opa check` on the file for full diagnostics"] } := by
  have printed : ∀ r ∈ [Report.untyped, Report.unparsed], Report.Printed r ∧ ':' ∉ r.message := by
    refine List.forall_mem_cons.mpr ⟨⟨?_, by decide⟩, List.forall_mem_singleton.mpr ⟨?_, by decide⟩⟩
    · exact ⟨by decide, by decide, by decide, Report.coded_all "type".toList (by decide) rfl, by decide⟩
    · exact ⟨by decide, by decide, by decide, Report.parse_error_coded, by decide⟩
  have output : "2 errors:\na.rego:9:2: rego_type_error: mismatch\np.rego:3: rego_parse_error: unexpected eof\n" =
      String.ofList ("2 errors:\n".toList ++ (Report.listing [Report.untyped, Report.unparsed] ++ ['\n'])) := by cbv
  have told := listing_diagnosed "policy" "2 errors:\n".toList ['\n'] [Report.untyped, Report.unparsed]
    (by decide) (by decide) printed (.inr rfl) (by decide)
  rw [output, told]
  rfl

end PolicyHost.Build
