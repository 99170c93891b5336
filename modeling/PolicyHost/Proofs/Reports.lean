import Mathlib.Data.List.Chain
import Mathlib.Data.List.TakeDrop
import Mathlib.Data.List.TakeWhile
import PolicyHost.Build.Diagnostic
import PolicyHost.Proofs.Decimals
import PolicyHost.Proofs.Heads

set_option autoImplicit false

namespace PolicyHost.Build

open Source (Ends)

structure Report where
  file : List Char
  row : UInt32
  column : Option UInt32
  code : List Char
  message : List Char

namespace Report

def columnChars : Option UInt32 → List Char
  | some column => ':' :: Text.decimal column.toNat
  | none => []

def place (r : Report) : List Char := ':' :: (Text.decimal r.row.toNat ++ (columnChars r.column ++ [':', ' ']))

def told (r : Report) : List Char := r.code ++ ':' :: ' ' :: r.message

def chars (r : Report) : List Char := r.file ++ (r.place ++ r.told)

def parseError : List Char := "rego_parse_error".toList

structure Coded (code : List Char) : Prop where
  split : ∃ sort, sort ≠ [] ∧ (∀ c ∈ sort, ('a' ≤ c ∧ c ≤ 'z') ∨ c = '_') ∧
    code = "rego_".toList ++ sort ++ "_error".toList

theorem coded_all (sort : List Char) (filled : sort ≠ []) (letters : sort.all Diagnostic.isCodeChar = true) :
    Coded ("rego_".toList ++ sort ++ "_error".toList) :=
  ⟨sort, filled, fun c inside => by simpa [Diagnostic.isCodeChar] using List.all_eq_true.mp letters c inside, rfl⟩

theorem parse_error_coded : Coded parseError := coded_all "parse".toList (by decide) rfl

structure Line (message : List Char) : Prop where
  filled : message ≠ []
  single : '\n' ∉ message
  front : Ends Text.isBlank message
  back : Ends Text.isBlank message.reverse

instance decidableLine (message : List Char) : Decidable (Line message) :=
  decidable_of_iff (message ≠ [] ∧ '\n' ∉ message ∧ Ends Text.isBlank message ∧ Ends Text.isBlank message.reverse)
    ⟨fun ⟨filled, single, front, back⟩ => ⟨filled, single, front, back⟩,
      fun line => ⟨line.filled, line.single, line.front, line.back⟩⟩

structure Printed (r : Report) : Prop where
  named : ".rego".toList <:+ r.file
  single : '\n' ∉ r.file
  colonless : ':' ∉ r.file
  code : Coded r.code
  message : Line r.message

end Report

-- No colon of the text stands right before a digit.
def Unnumbered (cs : List Char) : Prop := ∀ front c back, cs = front ++ ':' :: c :: back → Text.isDecimal c = false

theorem unnumbered_iff (cs : List Char) :
    Unnumbered cs ↔ cs.IsChain fun first next => first = ':' → Text.isDecimal next = false := by
  rw [List.isChain_iff_forall_rel_of_append_cons_cons]
  constructor
  · rintro plain _ next front back split rfl
    exact plain front next back split
  · exact fun chain front next back split => chain split rfl

instance decidableUnnumbered (cs : List Char) : Decidable (Unnumbered cs) :=
  decidable_of_iff _ (unnumbered_iff cs).symm

namespace Diagnostic

def locatedAt (read : List Char → Option (List Char)) (cs : List Char) : Option Diagnostic :=
  match cs with
  | ':' :: rest => (place? rest).bind fun (row, column, rest) => (read rest).map fun text => { row, column, text }
  | _ => none

theorem find_eq (read : List Char → Option (List Char)) (output : List Char) :
    find? read output = Text.findAnywhere (locatedAt read) output := rfl

theorem number_decimal (n : Nat) (rest : List Char) :
    number? (Text.decimal n ++ ':' :: rest) = some (Text.decimal n, rest) := by
  have digits := Text.decimal_decimal n
  have ends : Ends Text.isDecimal (':' :: rest) := Source.ends_cons _ _ _ (by decide)
  obtain ⟨c, more, split⟩ := List.exists_cons_of_ne_nil (Text.decimal_filled n)
  rw [number?, List.span_eq_takeWhile_dropWhile, Source.take_run _ _ _ digits ends, Source.drop_run _ _ _ digits ends,
    split]
  rfl

theorem number_unstarted (c : Char) (rest : List Char) (other : Text.isDecimal c = false) :
    number? (c :: rest) = none := by
  have none : Text.isDecimal c ≠ true := by rw [other]; decide
  rw [number?, List.span_eq_takeWhile_dropWhile, List.takeWhile_cons_of_neg none]

theorem number_stopped (front rest : List Char) (colonless : ':' ∉ front)
    (stop : ∃ c ∈ front, Text.isDecimal c = false) : number? (front ++ rest) = none := by
  obtain ⟨d, there, other⟩ := stop
  have filled : front.dropWhile Text.isDecimal ≠ [] := fun all =>
    absurd (List.dropWhile_eq_nil_iff.mp all d there) (by simp [other])
  obtain ⟨c, more, close⟩ := List.exists_cons_of_ne_nil filled
  have solid := Source.run_ends Text.isDecimal front c (by rw [close, List.head?_cons])
  have split : front = front.takeWhile Text.isDecimal ++ c :: more := by
    rw [← close, List.takeWhile_append_dropWhile]
  have plain : c ≠ ':' := by
    rintro rfl
    rw [split] at colonless
    exact colonless (List.mem_append_right _ List.mem_cons_self)
  have digits : ∀ c ∈ front.takeWhile Text.isDecimal, Text.isDecimal c = true := List.all_eq_true.mp List.all_takeWhile
  have ends : Ends Text.isDecimal (c :: (more ++ rest)) := Source.ends_cons _ _ _ solid
  have whole : front ++ rest = front.takeWhile Text.isDecimal ++ c :: (more ++ rest) := by
    rw [← List.cons_append, ← List.append_assoc, ← split]
  rw [number?, List.span_eq_takeWhile_dropWhile, whole, Source.take_run _ _ _ digits ends,
    Source.drop_run _ _ _ digits ends]
  split
  · next same => exact absurd (List.cons.inj (Prod.mk.inj same).2).1 plain
  · rfl

section Search

variable (read : List Char → Option (List Char))

theorem located_unnumbered (rest : List Char) (none : number? rest = none) : locatedAt read (':' :: rest) = .none := by
  simp only [locatedAt, place?, none, Option.map_none, Option.bind_none]

theorem located_read (rest row back : List Char) (column : Option (List Char))
    (place : place? rest = some (row, column, back)) :
    locatedAt read (':' :: rest) = (read back).map fun text => ⟨row, column, text⟩ := by
  simp only [locatedAt, place, Option.bind_some]

-- The search passes over a text if no number with a colon behind it comes after any of its colons.
theorem find_passes (front rest : List Char)
    (quiet : ∀ before after, front = before ++ ':' :: after → number? (after ++ rest) = none) :
    Text.findAnywhere (locatedAt read) (front ++ rest) = Text.findAnywhere (locatedAt read) rest := by
  induction front with
  | nil => rfl
  | cons c front ih =>
      have here : locatedAt read (c :: (front ++ rest)) = none := by
        by_cases colon : c = ':'
        · subst colon
          exact located_unnumbered read _ (quiet [] front rfl)
        · unfold locatedAt
          split
          · next same =>
              cases same
              exact absurd rfl colon
          · rfl
      rw [List.cons_append, Text.findAnywhere, here]
      exact ih fun before after split => quiet (c :: before) after (by rw [split, List.cons_append])

theorem find_passes_colonless (front rest : List Char) (colonless : ':' ∉ front) :
    Text.findAnywhere (locatedAt read) (front ++ rest) = Text.findAnywhere (locatedAt read) rest := by
  refine find_passes read front rest fun before after split => ?_
  rw [split] at colonless
  exact absurd (List.mem_append_right _ List.mem_cons_self) colonless

theorem find_passes_unnumbered (front rest : List Char) (plain : Unnumbered front) (next : number? rest = none) :
    Text.findAnywhere (locatedAt read) (front ++ rest) = Text.findAnywhere (locatedAt read) rest := by
  refine find_passes read front rest fun before after split => ?_
  cases after with
  | nil => exact next
  | cons c after =>
      exact number_unstarted c (after ++ rest) (plain before c after split)

theorem find_passes_colon (rest : List Char) (none : number? rest = none) :
    Text.findAnywhere (locatedAt read) (':' :: rest) = Text.findAnywhere (locatedAt read) rest := by
  rw [Text.findAnywhere, located_unnumbered read rest none]

-- The column is optional; one blank stands behind the place.
theorem place_printed (row : Nat) (column : Option UInt32) (back : List Char) (solid : Ends Text.isBlank back) :
    place? (Text.decimal row ++ (Report.columnChars column ++ ':' :: ' ' :: back)) =
      some (Text.decimal row, column.map fun n => Text.decimal n.toNat, back) := by
  have blank : ∀ c ∈ [' '], Text.isBlank c = true := List.forall_mem_singleton.mpr rfl
  have skipped : Text.skipBlanks (' ' :: back) = back := Source.skip_blanks_run [' '] back blank solid
  have unstarted : number? (' ' :: back) = none := number_unstarted ' ' back (by decide)
  cases column with
  | none =>
      rw [Report.columnChars, List.nil_append, place?, number_decimal]
      simp only [Option.map_some, unstarted, skipped, Option.map_none]
  | some n =>
      rw [Report.columnChars, List.cons_append, place?, number_decimal]
      simp only [Option.map_some, number_decimal, skipped]

theorem find_place_read (r : Report) (back text : List Char) (solid : Ends Text.isBlank back)
    (told : read back = some text) :
    Text.findAnywhere (locatedAt read) (r.place ++ back) =
      some ⟨Text.decimal r.row.toNat, r.column.map fun n => Text.decimal n.toNat, text⟩ := by
  have place := place_printed r.row.toNat r.column back solid
  have here := located_read read _ _ _ _ place
  rw [told, Option.map_some] at here
  have split : r.place ++ back =
      ':' :: (Text.decimal r.row.toNat ++ (Report.columnChars r.column ++ ':' :: ' ' :: back)) := by
    simp [Report.place]
  rw [split, Text.findAnywhere, here]

theorem find_place_unread (r : Report) (back : List Char) (solid : Ends Text.isBlank back) (untold : read back = none) :
    Text.findAnywhere (locatedAt read) (r.place ++ back) = Text.findAnywhere (locatedAt read) back := by
  have split : r.place ++ back =
      ':' :: (Text.decimal r.row.toNat ++ (Report.columnChars r.column ++ ':' :: ' ' :: back)) := by
    simp [Report.place]
  have missed (row : Nat) (column : Option UInt32) :
      locatedAt read (':' :: (Text.decimal row ++ (Report.columnChars column ++ ':' :: ' ' :: back))) = none := by
    rw [located_read read _ _ _ _ (place_printed row column back solid), untold, Option.map_none]
  have last : Text.findAnywhere (locatedAt read) (':' :: ' ' :: back) = Text.findAnywhere (locatedAt read) back := by
    rw [find_passes_colon read _ (number_unstarted ' ' back (by decide))]
    exact find_passes_colonless read [' '] back (by decide)
  rw [split, Text.findAnywhere, missed]
  dsimp only
  rw [find_passes_colonless read _ _ (Text.decimal_free _ ':' rfl)]
  cases r.column with
  | none => rw [Report.columnChars, List.nil_append, last]
  | some n =>
      have column := missed n.toNat none
      rw [Report.columnChars, List.nil_append] at column
      rw [Report.columnChars, List.cons_append, Text.findAnywhere, column]
      dsimp only
      rw [find_passes_colonless read _ _ (Text.decimal_free _ ':' rfl), last]

end Search

theorem code_chars (code : List Char) (coded : Report.Coded code) : ∀ c ∈ code, isCodeChar c = true := by
  obtain ⟨sort, _, letters, rfl⟩ := coded.split
  have first : ∀ c ∈ "rego_".toList, isCodeChar c = true := List.all_eq_true.mp rfl
  have last : ∀ c ∈ "_error".toList, isCodeChar c = true := List.all_eq_true.mp rfl
  have inner : ∀ c ∈ sort, isCodeChar c = true := fun c inside => by simpa [isCodeChar] using letters c inside
  exact List.forall_mem_append.mpr ⟨List.forall_mem_append.mpr ⟨first, inner⟩, last⟩

theorem code_free (code : List Char) (coded : Report.Coded code) (c : Char) (other : isCodeChar c = false) :
    c ∉ code := fun inside => by
  rw [code_chars code coded c inside] at other
  cases other

theorem code_solid (code rest : List Char) (coded : Report.Coded code) : Ends Text.isBlank (code ++ rest) := by
  obtain ⟨sort, _, _, rfl⟩ := coded.split
  exact Source.ends_cons _ 'r' _ (by decide)

theorem code_read (code rest : List Char) (coded : Report.Coded code) :
    code? (code ++ ':' :: rest) = some (code ++ [':'], rest) := by
  have letters := code_chars code coded
  have ends : Ends isCodeChar (':' :: rest) := Source.ends_cons _ _ _ (by decide)
  obtain ⟨sort, filled, _, split⟩ := coded.split
  have front : "rego_".toList.isPrefixOf code = true := by
    rw [List.isPrefixOf_iff_prefix, split, List.append_assoc]
    exact List.prefix_append _ _
  have back : "_error".toList.isSuffixOf code = true := by
    rw [List.isSuffixOf_iff_suffix, split]
    exact List.suffix_append _ _
  have long : 11 < code.length := by
    have positive := List.length_pos_iff.mpr filled
    rw [split, List.length_append, List.length_append]
    simp
    omega
  rw [code?, List.span_eq_takeWhile_dropWhile, Source.take_run _ _ _ letters ends, Source.drop_run _ _ _ letters ends]
  change (if (_ && _ && decide _) = true then _ else _) = _
  rw [front, back, decide_eq_true long]
  rfl

def Breaks (tail : List Char) : Prop := Ends (fun c => decide (c ≠ '\n')) tail

theorem feed_breaks (rest : List Char) : Breaks ('\n' :: rest) := Source.ends_cons _ _ _ (by decide)

theorem ends_append (kind : Char → Bool) (front rest : List Char) (filled : front ≠ []) (ends : Ends kind front) :
    Ends kind (front ++ rest) := by
  obtain ⟨c, more, rfl⟩ := List.exists_cons_of_ne_nil filled
  exact ends

section Line

variable (message tail : List Char) (line : Report.Line message) (breaks : Breaks tail)

include line in
theorem line_solid : Ends Text.isBlank (message ++ tail) :=
  ends_append _ message tail line.filled line.front

include line in
theorem skip_to_line : Text.skipBlanks (' ' :: (message ++ tail)) = message ++ tail :=
  Source.skip_blanks_run [' '] _ (List.forall_mem_singleton.mpr rfl) (line_solid message tail line)

include line breaks in
theorem message_read : message? (' ' :: (message ++ tail)) = some message := by
  have single : ∀ c ∈ message, decide (c ≠ '\n') = true := fun c inside =>
    decide_eq_true fun same => line.single (same ▸ inside)
  have taken := Source.take_run _ message tail single breaks
  obtain ⟨c, more, split⟩ := List.exists_cons_of_ne_nil line.filled
  rw [message?, skip_to_line message tail line]
  rw [split] at taken ⊢
  exact congrArg some taken

theorem trim_solid (cs : List Char) (front : Ends Text.isBlank cs) (back : Ends Text.isBlank cs.reverse) :
    Text.trim cs = cs := by
  have first : Text.skipBlanks cs = cs := Source.skip_blanks_run [] cs (List.forall_mem_nil _) front
  have last := Source.trim_end_run cs [] (List.forall_mem_nil _) back
  rw [List.append_nil] at last
  rw [Text.trim, first, last]

include line breaks in
theorem parse_message_read : parseMessage? (Report.parseError ++ ':' :: ' ' :: (message ++ tail)) = some message := by
  have after : Text.afterPrefix? parseErrorCode (Report.parseError ++ ':' :: ' ' :: (message ++ tail)) =
      some (' ' :: (message ++ tail)) := rfl
  rw [parseMessage?, after, Option.bind_some, message_read message tail line breaks, Option.map_some,
    trim_solid message line.front line.back]

theorem parse_message_missed (code rest : List Char) (coded : Report.Coded code) (other : code ≠ Report.parseError) :
    parseMessage? (code ++ ':' :: rest) = none := by
  have ends (tail : List Char) : Ends (fun c => decide (c ≠ ':')) (':' :: tail) := Source.ends_cons _ _ _ (by decide)
  have plain : ∀ c ∈ code, decide (c ≠ ':') = true := fun c inside =>
    decide_eq_true fun same => code_free code coded ':' rfl (same ▸ inside)
  have missed : ¬ parseErrorCode.isPrefixOf (code ++ ':' :: rest) = true := by
    intro begins
    obtain ⟨tail, same⟩ := List.isPrefixOf_iff_prefix.mp begins
    have split : parseErrorCode ++ tail = Report.parseError ++ ':' :: tail := rfl
    have taken := Source.take_run _ code (':' :: rest) plain (ends rest)
    rw [← same, split, Source.take_run _ _ _ (List.all_eq_true.mp rfl) (ends tail)] at taken
    exact other taken.symm
  rw [parseMessage?, Text.afterPrefix?, if_neg missed, Option.bind_none, Option.map_none]

include line breaks in
theorem coded_message_read (code : List Char) (coded : Report.Coded code) :
    codedMessage? (code ++ ':' :: ' ' :: (message ++ tail)) = some (code ++ ':' :: ' ' :: message) := by
  have blank : (' ' :: (message ++ tail)).take
      ((' ' :: (message ++ tail)).length - (Text.skipBlanks (' ' :: (message ++ tail))).length) = [' '] := by
    rw [skip_to_line message tail line, List.length_cons, Nat.add_sub_cancel_left]
    rfl
  have back : Ends Text.isBlank (code ++ ':' :: ' ' :: message).reverse := by
    have filled : message.reverse ≠ [] := fun empty => line.filled (List.reverse_eq_nil_iff.mp empty)
    rw [List.reverse_append, List.reverse_cons, List.reverse_cons, List.append_assoc, List.append_assoc]
    exact ends_append _ _ _ filled line.back
  have split : code ++ [':'] ++ [' '] ++ message = code ++ ':' :: ' ' :: message := by simp
  rw [codedMessage?, code_read code _ coded, Option.bind_some]
  simp only [message_read message tail line breaks, Option.map_some, blank, split]
  rw [trim_solid _ (code_solid code _ coded) back]

end Line

section Reports

variable (read : List Char → Option (List Char))

theorem report_unstarted (r : Report) (printed : Report.Printed r) (tail : List Char) :
    number? (r.chars ++ tail) = none := by
  obtain ⟨stem, split⟩ := printed.named
  have letter : 'r' ∈ r.file := by
    rw [← split]
    exact List.mem_append_right _ (by decide)
  rw [Report.chars, List.append_assoc]
  exact number_stopped r.file _ printed.colonless ⟨'r', letter, by decide⟩

theorem told_append (r : Report) (tail : List Char) :
    r.told ++ tail = r.code ++ ':' :: ' ' :: (r.message ++ tail) := by
  simp [Report.told]

theorem find_report_read (r : Report) (printed : Report.Printed r) (tail text : List Char)
    (told : read (r.told ++ tail) = some text) :
    Text.findAnywhere (locatedAt read) (r.chars ++ tail) =
      some ⟨Text.decimal r.row.toNat, r.column.map fun n => Text.decimal n.toNat, text⟩ := by
  have solid : Ends Text.isBlank (r.told ++ tail) := told_append r tail ▸ code_solid r.code _ printed.code
  rw [Report.chars, List.append_assoc, List.append_assoc, find_passes_colonless read _ _ printed.colonless,
    find_place_read read r _ text solid told]

theorem find_report_unread (r : Report) (printed : Report.Printed r) (plain : ':' ∉ r.message) (tail : List Char)
    (untold : read (r.told ++ tail) = none) :
    Text.findAnywhere (locatedAt read) (r.chars ++ tail) = Text.findAnywhere (locatedAt read) tail := by
  have solid : Ends Text.isBlank (r.told ++ tail) := told_append r tail ▸ code_solid r.code _ printed.code
  rw [Report.chars, List.append_assoc, List.append_assoc, find_passes_colonless read _ _ printed.colonless,
    find_place_unread read r _ solid untold, told_append,
    find_passes_colonless read _ _ (code_free r.code printed.code ':' rfl),
    find_passes_colon read _ (number_unstarted ' ' _ (by decide))]
  exact find_passes_colonless read (' ' :: r.message) tail (by simpa using plain)

end Reports

end Diagnostic

end PolicyHost.Build
