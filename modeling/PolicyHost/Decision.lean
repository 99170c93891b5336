import PolicyHost.Json.Record

set_option autoImplicit false

namespace PolicyHost

def allows : Option Json → Bool
  | some (.bool true) => true
  | _ => false

structure Verdict where
  allowed : Bool
  result : Option Json
  package : String
  rule : String

structure Decision extends Verdict where
  micros : Nat

namespace Verdict

def ofResult (package rule : String) (result : Option Json) : Verdict :=
  { allowed := allows result, result, package, rule }

def resultJson (result : Option Json) : Json := result.getD .null

def toJson (v : Verdict) : Json :=
  .obj [("allowed", .bool v.allowed), ("namespace", .str v.package), ("result", resultJson v.result),
    ("rule", .str v.rule)]

end Verdict

namespace Decision

def fields : List String := ["allowed", "result", "namespace", "rule", "duration_us"]

def members (d : Decision) : List (String × Json) :=
  [("allowed", .bool d.allowed), ("duration_us", .nat d.micros), ("namespace", .str d.package),
   ("result", Verdict.resultJson d.result), ("rule", .str d.rule)]

def toJson (d : Decision) : Json := .obj d.members

def ofRecord? (r : Json.Record) : Option Decision := do
  let allowed ← r.required "allowed" Json.bool?
  let result ← r.maybe "result" some
  let package ← r.required "namespace" Json.str?
  let rule ← r.required "rule" Json.str?
  let micros ← r.required "duration_us" Json.nat?
  some { allowed, result, package, rule, micros }

def ofJson? (j : Json) : Option Decision := (Json.Record.ofJson? fields j false).bind ofRecord?

end Decision

end PolicyHost
