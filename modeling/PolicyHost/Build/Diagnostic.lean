import PolicyHost.Failure
import PolicyHost.Text.Blank
import PolicyHost.Text.Digit
import PolicyHost.Text.Search

set_option autoImplicit false

namespace PolicyHost.Build

structure Diagnostic where
  row : List Char
  column : Option (List Char)
  text : List Char
  deriving DecidableEq, Inhabited, Repr

namespace Diagnostic

def number? (cs : List Char) : Option (List Char × List Char) :=
  match cs.span Text.isDecimal with
  | (c :: digits, ':' :: rest) => some (c :: digits, rest)
  | _ => none

def place? (cs : List Char) : Option (List Char × Option (List Char) × List Char) :=
  (number? cs).map fun (row, rest) =>
    match number? rest with
    | some (column, rest) => (row, some column, Text.skipBlanks rest)
    | none => (row, none, Text.skipBlanks rest)

-- The message that starts here: past blanks, the rest of a line. Where blanks are all that is left, they have to
-- hold more than line feeds.
def message? (cs : List Char) : Option (List Char) :=
  match Text.skipBlanks cs with
  | [] => if cs.any (· ≠ '\n') then some [] else none
  | rest => some (rest.takeWhile (· ≠ '\n'))

def parseErrorCode : List Char := "rego_parse_error:".toList

def parseMessage? (cs : List Char) : Option (List Char) :=
  ((Text.afterPrefix? parseErrorCode cs).bind message?).map Text.trim

def isCodeChar (c : Char) : Bool := ('a' ≤ c && c ≤ 'z') || c == '_'

def code? (cs : List Char) : Option (List Char × List Char) :=
  match cs.span isCodeChar with
  | (code, ':' :: rest) =>
      if "rego_".toList.isPrefixOf code && "_error".toList.isSuffixOf code && 11 < code.length then
        some (code ++ [':'], rest)
      else none
  | _ => none

def codedMessage? (cs : List Char) : Option (List Char) :=
  (code? cs).bind fun (code, rest) =>
    (message? rest).map fun message =>
      Text.trim (code ++ rest.take (rest.length - (Text.skipBlanks rest).length) ++ message)

def find? (read : List Char → Option (List Char)) (output : List Char) : Option Diagnostic :=
  let here (cs : List Char) : Option Diagnostic :=
    match cs with
    | ':' :: rest =>
        (place? rest).bind fun (row, column, rest) => (read rest).map fun text => { row, column, text }
    | _ => none
  Text.findAnywhere here output

def line (d : Diagnostic) : Option UInt32 := Text.parseUInt32 d.row

def named (d : Diagnostic) : Option UInt32 := d.column.bind Text.parseUInt32

def caretAt (cs : List Char) : Option Nat :=
  match cs with
  | '\t' :: rest =>
      match rest.span (· = ' ') with
      | (spaces, '^' :: _) => some (spaces.length + 1)
      | _ => none
  | _ => none

def caret? (output : List Char) : Option UInt32 :=
  (Text.findAtLineStart caretAt output).bind fun n =>
    if h : n < UInt32.size then some (UInt32.ofNatLT n h) else none

def summary (output : List Char) : List Char :=
  match (Text.lines output).find? fun line => !(Text.trim line).isEmpty with
  | some line => Text.trim line
  | none => "no diagnostics".toList

def syntaxFailure (source : String) (d : Diagnostic) (caret : Option UInt32) : Failure :=
  let nearLine := match d.line with
    | some line => ["check the syntax near line " ++ toString line.toNat]
    | none => []
  { kind := .syntaxError
    message := "syntax error in " ++ source ++ ": " ++ String.ofList d.text
    line := d.line
    column := d.named.or caret
    suggestions := nearLine ++ ["run `opa check` on the file for full diagnostics"] }

def compilationFailure (text : List Char) (line column : Option UInt32) : Failure :=
  { kind := .compilationError
    message := "compilation failed: " ++ String.ofList text
    line
    column }

end Diagnostic

def diagnose (source output : String) : Failure :=
  let cs := output.toList
  match Diagnostic.find? Diagnostic.parseMessage? cs with
  | some d => Diagnostic.syntaxFailure source d (Diagnostic.caret? cs)
  | none =>
      match Diagnostic.find? Diagnostic.codedMessage? cs with
      | some d => Diagnostic.compilationFailure d.text d.line d.named
      | none => Diagnostic.compilationFailure (Diagnostic.summary cs) none none

end PolicyHost.Build
