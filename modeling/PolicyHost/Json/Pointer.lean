import PolicyHost.Json.Basic
import PolicyHost.Text.Blank
import PolicyHost.Text.Digit

set_option autoImplicit false

namespace PolicyHost.Json

def unescape : List Char → List Char
  | '~' :: '1' :: rest => '/' :: unescape rest
  | '~' :: '0' :: rest => '~' :: unescape rest
  | c :: rest => c :: unescape rest
  | [] => []

def placeOf (step : List Char) : Option Nat :=
  match step with
  | '+' :: _ => none
  | '0' :: _ :: _ => none
  | _ => Text.parseUInt64 step

def follow (j : Json) (step : List Char) : Option Json :=
  match j with
  | .obj _ => j.get? (String.ofList step)
  | .arr _ => (placeOf step).bind j.item?
  | _ => none

def pointer? (j : Json) (reference : String) : Option Json :=
  match reference.toList with
  | [] => some j
  | '/' :: rest => ((Text.splitOn '/' rest).map unescape).foldlM follow j
  | _ => none

end PolicyHost.Json
