import PolicyHost.Explanation
import PolicyHost.Host.Evaluate
import PolicyHost.Host.Load
import PolicyHost.Json.Parser
import PolicyHost.Trace.Assembly
import PolicyHost.Trace.Budget

set_option autoImplicit false

namespace PolicyHost

structure Explained where
  verdict : Verdict
  trace : Trace

namespace Host

inductive Phase where
  | idle
  | compilingInput
  | invoking
  | parsing
  | done
  | failed
  deriving DecidableEq, Inhabited, Repr

namespace Phase

def name : Phase → String
  | idle => "idle"
  | compilingInput => "compiling-input"
  | invoking => "invoking"
  | parsing => "parsing"
  | done => "done"
  | failed => "failed"

def all : List Phase := [idle, compilingInput, invoking, parsing, done, failed]

end Phase

open Toolchain (Fault ExplainRequest)

def reportedFailure (stderr stdout : String) : Failure :=
  match (Json.parse? stdout).bind Explanation.failure? with
  | some failure => failure
  | none => .evaluation ("traced evaluation failed: " ++ if stderr.isEmpty then stdout else stderr)

def explainFaultFailure : Fault → Failure
  | .notInstalled binary =>
      { kind := .evaluationError
        message := "policy toolchain '" ++ binary ++
          "' is not installed or not on PATH; tracing requires it"
        suggestions := Fault.installHints }
  | .timeout _ ms =>
      (Failure.evaluation ("traced evaluation timed out after " ++ toString ms ++ "ms")).suggest
        "raise WARDEN_EVAL_TIMEOUT_MS or use the summary trace level"
  | .outputTooLarge _ limit =>
      { kind := .evaluationError
        message := "explain output exceeded the " ++ toString limit ++ " byte capture buffer"
        suggestions := ["use the summary trace level", "or raise the trace size budget"] }
  | .failed _ _ stderr stdout => reportedFailure stderr stdout
  | fault => .evaluation ("traced evaluation failed: " ++ fault.message)

def explainFailure (fault : Fault) : Failure :=
  let failure := explainFaultFailure fault
  if fault.retryable then failure.suggest Fault.retryHint else failure

def traceBudget (config : Config) (options : Trace.Options) : Nat :=
  options.maxBytes.getD config.defaultTraceBytes

def explainRequest (config : Config) (target : Target) (input : Json) (options : Trace.Options) :
    ExplainRequest :=
  { source := target.policy.path.text
    inputFile := Toolchain.temporary
    input
    query := target.query
    level := options.level
    maxBytes := config.traceBufferBytes (traceBudget config options) }

def explanation (s : Surroundings) (request : ExplainRequest) : Action Json := do
  modify (·.record (.explain request))
  match s.toolchain.explain s.workspace.tree request with
  | .error fault => throw (explainFailure fault)
  | .ok document =>
      match Explanation.failure? document with
      | some failure => throw failure
      | none => return document

def traceOf (document : Json) (m : LineMap) (options : Trace.Options) (budget : Nat) : Trace :=
  (Trace.ofEvents (Explanation.events document) m options.level (Explanation.value? document)).fit budget

def explain (s : Surroundings) (input : Json) (package rule : Option String) (options : Trace.Options) :
    Action Explained := do
  let h ← get
  let target ← settled (h.target package rule)
  let document ← explanation s (explainRequest h.config target input options)
  let m ← modifyGet (lineMap s target.policy.path.text)
  return { verdict := .ofResult target.package target.rule (Explanation.value? document)
           trace := traceOf document m options (traceBudget h.config options) }

end Host

end PolicyHost
