import PolicyHost.Proofs.Acceptance
import PolicyHost.Proofs.Agreement
import PolicyHost.Toolchain.Process

set_option autoImplicit false

namespace PolicyHost

def Config.timeouts (c : Config) : Toolchain.Timeouts :=
  { version := c.versionTimeoutMs, build := c.buildTimeoutMs, explain := c.evalTimeoutMs }

namespace Toolchain

namespace Outcome

variable (o : Outcome) (timeoutMs limit : Nat)

def Prints (document : Json) : Prop := (Text.decode? o.stdout).bind Json.parse? = some document

def status : String := "exit status: " ++ toString o.exit.toNat

structure Whole : Prop where
  inTime : o.hangs = false
  fits : o.stdout.length ≤ limit

inductive Reading : Except Fault Json → Prop where
  | late (hangs : o.hangs = true) : Reading (.error (.timeout .explain timeoutMs))
  | large (inTime : o.hangs = false) (exceeds : limit < o.stdout.length) :
      Reading (.error (.outputTooLarge .explain limit))
  | failed (whole : o.Whole limit) (bad : o.exit ≠ 0) :
      Reading (.error (.failed .explain o.status (Text.trimmed (Text.decodeLossy o.stderr))
        (Text.trimmed (Text.decodeLossy o.stdout))))
  | unread (whole : o.Whole limit) (good : o.exit = 0) (none : ∀ document, ¬ o.Prints document) :
      Reading (.error (.invalidOutput "`opa eval` did not print JSON: "))
  | read (whole : o.Whole limit) (good : o.exit = 0) (document : Json) (prints : o.Prints document) :
      Reading (.ok document)

section Captured

variable (timed : 0 < timeoutMs)

include timed in
theorem capture_in_time (inTime : o.hangs = false) (command : Command) :
    o.capture command timeoutMs limit =
      if limit < o.stdout.length then .error (.outputTooLarge command limit)
      else if o.exit ≠ 0 then
        .error (.failed command o.status (readable (o.stderr.take maxErrorBytes)) (readable o.stdout))
      else .ok o.stdout := by
  have timely : (o.hangs || decide (timeoutMs = 0)) = false := by simp [inTime, Nat.ne_of_gt timed]
  rw [capture, timely]
  rfl

variable (modest : o.stderr.length ≤ maxErrorBytes)

include timed modest in
theorem read_document_cases : Reading o timeoutMs limit (o.readDocument timeoutMs limit) := by
  cases hangs : o.hangs with
  | true =>
      have captured : o.capture .explain timeoutMs limit = .error (.timeout .explain timeoutMs) := by
        rw [capture, hangs]
        rfl
      rw [readDocument, captured]
      exact .late hangs
  | false =>
      have captured := capture_in_time o timeoutMs limit timed hangs .explain
      by_cases exceeds : limit < o.stdout.length
      · rw [readDocument, captured, if_pos exceeds]
        exact .large hangs exceeds
      · have whole : o.Whole limit := ⟨hangs, Nat.not_lt.mp exceeds⟩
        by_cases good : o.exit = 0
        · rw [readDocument, captured, if_neg exceeds, if_neg (not_not.mpr good)]
          cases printed : (Text.decode? o.stdout).bind Json.parse? with
          | none =>
              simp only [bind, Except.bind, printed]
              exact .unread whole good fun document prints => Option.some_ne_none document (prints.symm.trans printed)
          | some document =>
              simp only [bind, Except.bind, printed]
              exact .read whole good document printed
        · rw [readDocument, captured, if_neg exceeds, if_pos good, List.take_of_length_le modest]
          exact .failed whole good

-- What is answered says what the run was, and the other way round. Of the other faults there is none.
structure Judged (answer : Except Fault Json) : Prop where
  read : ∀ document, answer = .ok document ↔ o.Whole limit ∧ o.exit = 0 ∧ o.Prints document
  late : ∀ command ms, answer = .error (.timeout command ms) ↔
    (command = .explain ∧ ms = timeoutMs) ∧ o.hangs = true
  large : ∀ command bound, answer = .error (.outputTooLarge command bound) ↔
    (command = .explain ∧ bound = limit) ∧ o.hangs = false ∧ limit < o.stdout.length
  failed : ∀ command status stderr stdout, answer = .error (.failed command status stderr stdout) ↔
    (command = .explain ∧ status = o.status ∧ stderr = Text.trimmed (Text.decodeLossy o.stderr) ∧
      stdout = Text.trimmed (Text.decodeLossy o.stdout)) ∧ o.Whole limit ∧ o.exit ≠ 0
  unread : ∀ detail, answer = .error (.invalidOutput detail) ↔
    detail = "`opa eval` did not print JSON: " ∧ o.Whole limit ∧ o.exit = 0 ∧ ∀ document, ¬ o.Prints document
  installed : ∀ binary, answer ≠ .error (.notInstalled binary)
  wired : ∀ detail, answer ≠ .error (.io detail)

theorem reading_judged (answer : Except Fault Json) (reading : Reading o timeoutMs limit answer) :
    Judged o timeoutMs limit answer := by
  cases reading with
  | late hangs =>
      have other : ¬ o.Whole limit := fun whole => absurd whole.inTime (by simp [hangs])
      constructor <;> simp [hangs, other, eq_comm]
  | large inTime exceeds =>
      have other : ¬ o.Whole limit := fun whole => absurd whole.fits (Nat.not_le.mpr exceeds)
      constructor <;> simp [inTime, exceeds, other, eq_comm]
  | failed whole bad =>
      constructor <;> simp [whole, bad, whole.inTime, Nat.not_lt.mpr whole.fits, eq_comm]
  | unread whole good none =>
      constructor <;> simp [whole, good, none, whole.inTime, Nat.not_lt.mpr whole.fits, eq_comm]
  | read whole good document prints =>
      have some : ¬ ∀ document, ¬ o.Prints document := fun none => none document prints
      have same (other : Json) : document = other ↔ o.Prints other := by
        constructor
        · exact fun same => same ▸ prints
        · exact fun printed => Option.some.inj (prints.symm.trans printed)
      constructor <;> simp [whole, good, same, some, whole.inTime, Nat.not_lt.mpr whole.fits]

end Captured

end Outcome

def Passing (fault : Fault) : Prop := (∃ command ms, fault = .timeout command ms) ∨ ∃ detail, fault = .io detail

theorem retryable_iff (fault : Fault) : fault.retryable = true ↔ Passing fault := by
  cases fault <;> simp [Fault.retryable, Passing]

end Toolchain

namespace Config

-- A limit for what is printed when a trace may have so many bytes: never less than that or than the least one, no more
-- than any limit for more bytes, and the product unless that is greater than any size.
structure Roomy (c : Config) (budget limit : Nat) : Prop where
  within : budget ≤ limit
  least : c.traceBufferMinBytes ≤ limit
  product : budget * c.traceBufferMultiplier ≤ maxSize → budget * c.traceBufferMultiplier ≤ limit
  saturated : maxSize < budget * c.traceBufferMultiplier → maxSize ≤ limit
  sized : c.traceBufferMinBytes ≤ maxSize → limit ≤ maxSize
  monotone : ∀ more, budget ≤ more → limit ≤ c.traceBufferBytes more

theorem buffer_roomy (c : Config) (budget : Nat) (positive : 0 < c.traceBufferMultiplier) (sized : budget ≤ maxSize) :
    Roomy c budget (c.traceBufferBytes budget) := by
  have grows : budget ≤ budget * c.traceBufferMultiplier := Nat.le_mul_of_pos_right budget positive
  constructor
  case monotone =>
    intro more greater
    have product := Nat.mul_le_mul_right c.traceBufferMultiplier greater
    simp only [traceBufferBytes]
    omega
  all_goals
    simp only [traceBufferBytes]
    omega

end Config

namespace Host

open Toolchain (Passing running)

theorem embedded_unhinted (document : Json) (failure : Failure) (told : Explanation.failure? document = some failure) :
    failure.suggestions = [] := by
  obtain ⟨error, _, rfl⟩ := Option.map_eq_some_iff.mp told
  rfl

theorem reported_unhinted (stderr stdout : String) : (reportedFailure stderr stdout).suggestions = [] := by
  unfold reportedFailure
  split
  · next failure told =>
      obtain ⟨document, _, told⟩ := Option.bind_eq_some_iff.mp told
      exact embedded_unhinted document failure told
  · rfl

theorem fault_unhinted (fault : Toolchain.Fault) :
    Toolchain.Fault.retryHint ∉ (explainFaultFailure fault).suggestions := by
  cases fault with
  | notInstalled binary => simp [explainFaultFailure, Toolchain.Fault.installHints, Toolchain.Fault.retryHint]
  | failed command status stderr stdout =>
      rw [explainFaultFailure, reported_unhinted]
      exact List.not_mem_nil
  | timeout command ms => simp [explainFaultFailure, Failure.suggest, Failure.evaluation, Toolchain.Fault.retryHint]
  | outputTooLarge command limit => simp [explainFaultFailure, Toolchain.Fault.retryHint]
  | invalidOutput detail => simp [explainFaultFailure, Failure.evaluation]
  | io detail => simp [explainFaultFailure, Failure.evaluation]

theorem explain_failure_hinted (fault : Toolchain.Fault) :
    Toolchain.Fault.retryHint ∈ (explainFailure fault).suggestions ↔ Passing fault := by
  rw [← Toolchain.retryable_iff, explainFailure]
  by_cases retryable : fault.retryable = true
  · simp [retryable, Failure.suggest]
  · simpa [retryable] using fault_unhinted fault

-- An answer whose verdict and trace are those of the one document that a whole run printed.
structure FromWhole (h : Host) (o : Toolchain.Outcome) (input : Json) (package rule : Option String)
    (options : Trace.Options) (t : Target) (document : Json) (m : LineMap) (answer : Explained) : Prop where
  found : h.target package rule = .ok t
  whole : o.Whole (explainRequest h.config t input options).maxBytes
  good : o.exit = 0
  prints : o.Prints document
  unfailed : Explanation.failure? document = none
  verdict : answer.verdict = .ofResult t.package t.rule (Explanation.value? document)
  trace : answer.trace = traceOf document m options (traceBudget h.config options)

structure Captured (config : Config) (program : Toolchain.Program) : Prop where
  judged : ∀ tree request, program.explain.Judged config.evalTimeoutMs request.maxBytes
    ((running program config.timeouts).explain tree request)
  roomy : ∀ t input options, traceBudget config options ≤ Config.maxSize →
    config.Roomy (traceBudget config options) (explainRequest config t input options).maxBytes
  refused : ∀ (s : Surroundings) (h : Host) input package rule options t fault, h.config = config →
    h.target package rule = .ok t →
    s.toolchain.explain s.workspace.tree (explainRequest config t input options) = .error fault →
    ∃ failure, (explain s input package rule options).run.run h =
      (.error failure, h.record (.explain (explainRequest config t input options))) ∧
      (Toolchain.Fault.retryHint ∈ failure.suggestions ↔ Passing fault)
  given : ∀ (s : Surroundings) (h : Host) input package rule options answer, h.config = config →
    s.toolchain = running program config.timeouts →
    ((explain s input package rule options).run.run h).1 = .ok answer →
    ∃ t document m, FromWhole h program.explain input package rule options t document m answer

theorem explain_refused (s : Surroundings) (h : Host) (input : Json) (package rule : Option String)
    (options : Trace.Options) (t : Target) (fault : Toolchain.Fault) (found : h.target package rule = .ok t)
    (bad : s.toolchain.explain s.workspace.tree (explainRequest h.config t input options) = .error fault) :
    (explain s input package rule options).run.run h =
      (.error (explainFailure fault), h.record (.explain (explainRequest h.config t input options))) := by
  rw [explain_run s h input package rule options t found]
  simp only [bad]

theorem explanations_captured (config : Config) (accepted : config.check = .ok ()) (program : Toolchain.Program)
    (modest : program.explain.stderr.length ≤ Toolchain.maxErrorBytes) : Captured config program := by
  have fine := (Config.check_iff config).mp accepted
  have judged (tree : FileTree) (request : Toolchain.ExplainRequest) :
      program.explain.Judged config.evalTimeoutMs request.maxBytes
        ((running program config.timeouts).explain tree request) :=
    Toolchain.Outcome.reading_judged _ _ _ _
      (Toolchain.Outcome.read_document_cases program.explain config.evalTimeoutMs request.maxBytes fine.eval.1 modest)
  constructor
  case judged => exact judged
  case roomy => exact fun _ _ options sized => Config.buffer_roomy config _ fine.multiplier sized
  case refused =>
    rintro s h input package rule options t fault rfl found bad
    exact ⟨explainFailure fault, explain_refused s h input package rule options t fault found bad,
      explain_failure_hinted fault⟩
  case given =>
    rintro s h input package rule options answer rfl running given
    have cases := explain_cases s h input package rule options
    rw [given] at cases
    cases cases with
    | given t document m _ found told unfailed mapped =>
        rw [running] at told
        obtain ⟨whole, good, prints⟩ := ((judged _ _).read document).mp told
        exact ⟨t, document, m, found, whole, good, prints, unfailed, rfl, rfl⟩

def narrow : Config := { traceBufferMinBytes := 1, traceBufferMultiplier := 1 }

def failing : Toolchain.Program := { explain := { stdout := Text.encode "null\n", exit := 2 } }

def asking (limit : Nat) : Toolchain.ExplainRequest :=
  { source := "a.rego", inputFile := Toolchain.temporary, input := .null, query := "data.p.allow", level := .full
    maxBytes := limit }

-- Of a run that fails and prints too much it is the output that counts; with room for it, it is the exit code.
theorem explanations_captured_overflowing :
    narrow.check = .ok () ∧ failing.explain.stderr.length ≤ Toolchain.maxErrorBytes ∧
      (running failing narrow.timeouts).explain ⟨[]⟩ (asking 4) = .error (.outputTooLarge .explain 4) ∧
      (running failing narrow.timeouts).explain ⟨[]⟩ (asking 5) =
        .error (.failed .explain "exit status: 2" "" "null") := by
  have accepted : narrow.check = .ok () := rfl
  have modest : failing.explain.stderr.length ≤ Toolchain.maxErrorBytes := by decide
  have printed : failing.explain.stdout.length = 5 := by decide +kernel
  have captured := explanations_captured narrow accepted failing modest
  refine ⟨accepted, modest, ?_, ?_⟩
  · exact ((captured.judged ⟨[]⟩ (asking 4)).large _ _).mpr ⟨⟨rfl, rfl⟩, rfl, by rw [printed]; decide⟩
  · refine ((captured.judged ⟨[]⟩ (asking 5)).failed _ _ _ _).mpr ⟨⟨rfl, ?_, ?_, ?_⟩, ⟨rfl, ?_⟩, by decide⟩
    · decide +kernel
    · decide +kernel
    · decide +kernel
    · exact Nat.le_of_eq printed

end Host

end PolicyHost
