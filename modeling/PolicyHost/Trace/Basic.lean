import PolicyHost.Decision
import PolicyHost.Failure

set_option autoImplicit false

namespace PolicyHost

namespace Trace

inductive Level where
  | summary
  | full
  deriving DecidableEq, Inhabited, Repr

namespace Level

def name : Level → String
  | summary => "summary"
  | full => "full"

def ofName? : String → Option Level
  | "summary" => some summary
  | "full" => some full
  | _ => none

def ofJson? (j : Json) : Option Level := j.choice?.bind ofName?

def explainMode : Level → String
  | summary => "notes"
  | full => "full"

end Level

inductive Outcome where
  | holds
  | fails
  | undefined
  deriving DecidableEq, Inhabited, Repr

namespace Outcome

def name : Outcome → String
  | holds => "true"
  | fails => "false"
  | undefined => "undefined"

def ofName? : String → Option Outcome
  | "true" => some holds
  | "false" => some fails
  | "undefined" => some undefined
  | _ => none

def ofJson? (j : Json) : Option Outcome := j.choice?.bind ofName?

end Outcome

structure RuleEntry where
  name : String
  line : UInt32
  column : Option UInt32
  result : Outcome
  deriving DecidableEq, Inhabited, Repr

structure Step where
  rule : String
  fired : Bool
  line : Option UInt32
  parent : Option String
  deriving DecidableEq, Inhabited, Repr

structure Note where
  message : String
  line : Option UInt32
  deriving DecidableEq, Inhabited, Repr

structure Options where
  level : Level := .summary
  maxBytes : Option Nat := none
  deriving DecidableEq, Inhabited, Repr

namespace Options

def full : Options := { level := .full }

def summary : Options := {}

def withMaxBytes (o : Options) (bytes : Nat) : Options := { o with maxBytes := some bytes }

def toJson (o : Options) : Json :=
  .obj ([("level", .str o.level.name)] ++ Json.member? "max_size_bytes" (o.maxBytes.map .nat))

def ofJson? (j : Json) : Option Options := do
  let r ← Json.Record.ofJson? ["level", "max_size_bytes"] j false
  let level ← r.orElse "level" Level.ofJson? .summary
  let maxBytes ← r.maybeOmitted "max_size_bytes" Json.nat?
  some { level, maxBytes }

end Options

end Trace

structure Trace where
  rules : List Trace.RuleEntry
  bindings : Dict Json
  finalDecision : Option Bool
  path : List Trace.Step
  level : Trace.Level
  truncated : Bool
  -- Bytes of the compact JSON, this field included.
  sizeBytes : Nat
  notes : List Trace.Note

namespace Trace

def RuleEntry.toJson (e : RuleEntry) : Json :=
  .obj (Json.member? "column" (e.column.map Failure.lineJson) ++
    [("line", Failure.lineJson e.line), ("name", .str e.name), ("result", .str e.result.name)])

def RuleEntry.ofJson? (j : Json) : Option RuleEntry := do
  let r ← Json.Record.ofJson? ["name", "line", "column", "result"] j false
  let name ← r.required "name" Json.str?
  let line ← r.required "line" Json.uint32?
  let column ← r.maybeOmitted "column" Json.uint32?
  let result ← r.required "result" Outcome.ofJson?
  some { name, line, column, result }

def Step.toJson (s : Step) : Json :=
  .obj ([("fired", .bool s.fired)] ++ Json.member? "line" (s.line.map Failure.lineJson) ++
    Json.member? "parent" (s.parent.map .str) ++ [("rule", .str s.rule)])

def Step.ofJson? (j : Json) : Option Step := do
  let r ← Json.Record.ofJson? ["rule", "fired", "line", "parent"] j false
  let rule ← r.required "rule" Json.str?
  let fired ← r.required "fired" Json.bool?
  let line ← r.maybeOmitted "line" Json.uint32?
  let parent ← r.maybeOmitted "parent" Json.str?
  some { rule, fired, line, parent }

def Note.toJson (n : Note) : Json :=
  .obj (Json.member? "line" (n.line.map Failure.lineJson) ++ [("message", .str n.message)])

def Note.ofJson? (j : Json) : Option Note := do
  let r ← Json.Record.ofJson? ["message", "line"] j false
  let message ← r.required "message" Json.str?
  let line ← r.maybeOmitted "line" Json.uint32?
  some { message, line }

def decisionJson : Option Bool → Json
  | some allowed => .bool allowed
  | none => .null

def toJson (t : Trace) : Json :=
  .obj ([("execution_path", .arr (t.path.map Step.toJson)),
    ("final_decision", decisionJson t.finalDecision), ("level", .str t.level.name)] ++
    (if t.notes.isEmpty then [] else [("notes", .arr (t.notes.map Note.toJson))]) ++
    [("rules_evaluated", .arr (t.rules.map RuleEntry.toJson)), ("size_bytes", .nat t.sizeBytes),
     ("truncated", .bool t.truncated), ("variable_bindings", .ofDict t.bindings)])

def fields : List String :=
  ["rules_evaluated", "variable_bindings", "final_decision", "execution_path", "level", "truncated",
   "size_bytes", "notes"]

def bindings? : Json → Option (Dict Json)
  | .obj members => some (.ofList members)
  | _ => none

def ofJson? (j : Json) : Option Trace := do
  let r ← Json.Record.ofJson? fields j false
  let rules ← r.required "rules_evaluated" (Json.list? RuleEntry.ofJson?)
  let bindings ← r.required "variable_bindings" bindings?
  let finalDecision ← r.maybe "final_decision" Json.bool?
  let path ← r.required "execution_path" (Json.list? Step.ofJson?)
  let level ← r.required "level" Level.ofJson?
  let truncated ← r.required "truncated" Json.bool?
  let sizeBytes ← r.required "size_bytes" Json.nat?
  let notes ← r.orElse "notes" (Json.list? Note.ofJson?) []
  some { rules, bindings, finalDecision, path, level, truncated, sizeBytes, notes }

end Trace

structure TracedDecision where
  decision : Decision
  trace : Trace

namespace TracedDecision

def toJson (d : TracedDecision) : Json := .obj (d.decision.members ++ [("trace", d.trace.toJson)])

-- An object only: the two records share it, so it has no order of fields.
def ofJson? : Json → Option TracedDecision
  | .obj members => do
      let r : Json.Record := ⟨members, false⟩
      let decision ← Decision.ofRecord? r
      let trace ← r.required "trace" Trace.ofJson?
      some { decision, trace }
  | _ => none

end TracedDecision

end PolicyHost
