import PolicyHost.Json.Record

set_option autoImplicit false

namespace PolicyHost

inductive Failure.Kind where
  | fileNotFound
  | syntaxError
  | compilationError
  | evaluationError
  | invalidInput
  | invalidNamespace
  | invalidRule
  | pathSecurityError
  | artifactLoadError
  deriving DecidableEq, Inhabited, Repr

namespace Failure.Kind

def name : Kind → String
  | fileNotFound => "file-not-found"
  | syntaxError => "syntax-error"
  | compilationError => "compilation-error"
  | evaluationError => "evaluation-error"
  | invalidInput => "invalid-input"
  | invalidNamespace => "invalid-namespace"
  | invalidRule => "invalid-rule"
  | pathSecurityError => "path-security-error"
  | artifactLoadError => "artifact-load-error"

def all : List Kind :=
  [fileNotFound, syntaxError, compilationError, evaluationError, invalidInput, invalidNamespace,
   invalidRule, pathSecurityError, artifactLoadError]

def ofName? (name : String) : Option Kind := all.find? fun kind => kind.name == name

def ofJson? (j : Json) : Option Kind := j.choice?.bind ofName?

end Failure.Kind

structure Failure where
  kind : Failure.Kind
  message : String
  line : Option UInt32 := none
  column : Option UInt32 := none
  suggestions : List String := []
  deriving DecidableEq, Inhabited, Repr

namespace Failure

def suggest (f : Failure) (hint : String) : Failure := { f with suggestions := f.suggestions ++ [hint] }

def summary (f : Failure) : String := "[" ++ f.kind.name ++ "] " ++ f.message

def lineJson (n : UInt32) : Json := .nat n.toNat

def toJson (f : Failure) : Json :=
  .obj ([("code", .str f.kind.name)] ++ Json.member? "column" (f.column.map lineJson) ++
    Json.member? "line" (f.line.map lineJson) ++ [("message", .str f.message)] ++
    (if f.suggestions.isEmpty then [] else [("suggestions", .strings f.suggestions)]))

def ofJson? (j : Json) : Option Failure := do
  let r ← Json.Record.ofJson? ["code", "message", "line", "column", "suggestions"] j false
  let kind ← r.required "code" Kind.ofJson?
  let message ← r.required "message" Json.str?
  let line ← r.maybeOmitted "line" Json.uint32?
  let column ← r.maybeOmitted "column" Json.uint32?
  let suggestions ← r.orElse "suggestions" Json.strings? []
  some { kind, message, line, column, suggestions }

def evaluation (message : String) : Failure := { kind := .evaluationError, message }

end Failure

end PolicyHost
