import PolicyHost.Failure
import PolicyHost.Trace.Event

set_option autoImplicit false

namespace PolicyHost.Explanation

def value? (document : Json) : Option Json := do
  let result ← (← document.get? "result").item? 0
  let expression ← (← result.get? "expressions").item? 0
  expression.get? "value"

def failureKind (code : String) : Failure.Kind :=
  if code = "rego_parse_error" then .syntaxError else .evaluationError

def textOr (error : Json) (name default : String) : String :=
  ((error.get? name).bind Json.str?).getD default

def failureOf (error : Json) : Failure :=
  let message := textOr error "message" "evaluation failed"
  let code := textOr error "code" ""
  let coordinate (name : String) : Option UInt32 :=
    ((error.get? "location").bind (·.get? name)).bind Json.uint32?
  { kind := failureKind code
    message := if code.isEmpty then message else code ++ ": " ++ message
    line := coordinate "row"
    column := coordinate "col" }

def failure? (document : Json) : Option Failure :=
  ((document.get? "errors").bind (·.item? 0)).map failureOf

def events (document : Json) : List Trace.Event :=
  Trace.Event.parse ((document.get? "explanation").getD .null)

end PolicyHost.Explanation
