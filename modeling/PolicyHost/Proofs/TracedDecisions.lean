import PolicyHost.Proofs.Agreement
import PolicyHost.Proofs.Truncation

set_option autoImplicit false

namespace PolicyHost

namespace Trace

-- The bindings of a trace `t` go when rules and steps are gone and what is left is over the budget.
structure Unbound (budget : Nat) (t u : Trace) : Prop where
  gone : u.bindings = .empty
  rules : u.rules = []
  path : u.path = []
  flag : u.truncated = true
  exceeds : budget < (shrink budget t.measured).sizeBytes

-- What a trace `u` that was cut down to a budget still says of the trace `t` that it was, of any size.
structure Cut (budget : Nat) (t u : Trace) : Prop where
  decision : u.finalDecision = t.finalDecision
  level : u.level = t.level
  bindings : u.bindings = t.bindings ∨ Unbound budget t u
  within : u.sizeBytes ≤ budget ∨ u.rules = [] ∧ u.path = [] ∧ u.bindings = .empty ∧ u.notes = []

structure Shortened (t u : Trace) : Prop where
  decision : u.finalDecision = t.finalDecision
  level : u.level = t.level
  bindings : u.bindings = t.bindings

theorem measured_shortened (t : Trace) : Shortened t t.measured := by
  obtain ⟨size, same⟩ := measured_same t
  rw [same]
  exact ⟨rfl, rfl, rfl⟩

theorem shortened_trans (t u v : Trace) (first : Shortened t u) (second : Shortened u v) : Shortened t v :=
  ⟨second.decision.trans first.decision, second.level.trans first.level, second.bindings.trans first.bindings⟩

theorem shrink_shortened (budget : Nat) (t : Trace) : Shortened t (shrink budget t) := by
  induction t using shrink.induct budget with
  | case1 t exceeds ih =>
      rw [shrink, if_pos exceeds]
      have halved : Shortened t t.halved := ⟨rfl, rfl, rfl⟩
      have measured := shortened_trans t t.halved _ halved (measured_shortened t.halved)
      exact shortened_trans t _ _ measured ih
  | case2 t fits =>
      rw [shrink, if_neg fits]
      exact ⟨rfl, rfl, rfl⟩

theorem drop_bindings_cut (budget : Nat) (t u : Trace) (shrunk : u = shrink budget t.measured)
    (kept : Shortened t u) (bare : budget < u.sizeBytes → u.rules = [] ∧ u.path = []) :
    (dropBindings budget u).finalDecision = t.finalDecision ∧ (dropBindings budget u).level = t.level ∧
      ((dropBindings budget u).bindings = t.bindings ∨ Unbound budget t (dropBindings budget u)) := by
  by_cases dropped : budget < u.sizeBytes ∧ ¬ u.bindings.isEmpty
  · obtain ⟨size, same⟩ := measured_same { u with bindings := .empty, truncated := true }
    obtain ⟨rules, path⟩ := bare dropped.1
    rw [dropBindings, if_pos dropped, same]
    exact ⟨kept.decision, kept.level, Or.inr ⟨rfl, rules, path, rfl, shrunk ▸ dropped.1⟩⟩
  · rw [dropBindings, if_neg dropped]
    exact ⟨kept.decision, kept.level, Or.inl kept.bindings⟩

theorem drop_notes_cut (budget : Nat) (t u : Trace) (decision : u.finalDecision = t.finalDecision)
    (level : u.level = t.level) (bindings : u.bindings = t.bindings ∨ Unbound budget t u)
    (bare : budget < u.sizeBytes → u.bindings = .empty ∧ u.rules = [] ∧ u.path = []) :
    Cut budget t (dropNotes budget u) := by
  by_cases dropped : budget < u.sizeBytes ∧ ¬ u.notes.isEmpty
  · obtain ⟨size, same⟩ := measured_same { u with notes := [], truncated := true }
    obtain ⟨unbound, rules, path⟩ := bare dropped.1
    rw [dropNotes, if_pos dropped, same]
    refine ⟨decision, level, bindings.imp_right ?_, Or.inr ⟨rules, path, unbound, rfl⟩⟩
    exact fun cleared => ⟨cleared.gone, cleared.rules, cleared.path, rfl, cleared.exceeds⟩
  · rw [dropNotes, if_neg dropped]
    refine ⟨decision, level, bindings, ?_⟩
    rcases Nat.lt_or_ge budget u.sizeBytes with exceeds | fits
    · obtain ⟨unbound, rules, path⟩ := bare exceeds
      exact Or.inr ⟨rules, path, unbound, by simpa [exceeds] using dropped⟩
    · exact Or.inl fits

theorem fit_cut (budget : Nat) (t : Trace) : Cut budget t (t.fit budget) := by
  have bare := shrink_listless budget t.measured
  have kept := shortened_trans t t.measured _ (measured_shortened t) (shrink_shortened budget t.measured)
  obtain ⟨decision, level, bindings⟩ := drop_bindings_cut budget t _ rfl kept bare
  exact drop_notes_cut budget t _ decision level bindings (drop_bindings_unbound budget _ bare)

end Trace

theorem allows_iff (result : Option Json) : allows result = true ↔ result = some (.bool true) := by
  constructor
  · intro allowed
    unfold allows at allowed
    split at allowed
    · rfl
    · cases allowed
  · rintro rfl
    rfl

namespace Host

structure Told (config : Config) (options : Trace.Options) (whole : Trace) (answer : Explained) : Prop where
  allowed : answer.verdict.allowed = true ↔ answer.verdict.result = some (.bool true)
  decision : answer.trace.finalDecision = answer.verdict.result.map fun _ => answer.verdict.allowed
  level : answer.trace.level = options.level
  fit : answer.trace = whole.fit (options.maxBytes.getD config.defaultTraceBytes)
  bindings : answer.trace.bindings = whole.bindings ∨
    Trace.Unbound (options.maxBytes.getD config.defaultTraceBytes) whole answer.trace
  within : answer.trace.sizeBytes ≤ options.maxBytes.getD config.defaultTraceBytes ∨
    answer.trace.rules = [] ∧ answer.trace.path = [] ∧ answer.trace.bindings = .empty ∧ answer.trace.notes = []

-- Two explanations of what was found by a request for a target, given the toolchain's reply about it. Both fail, and
-- in the same way, where there is no target, no document or a failure in the document; else both give the same decision,
-- that of the document, from traces with the same bindings.
inductive SameDecision (config : Config) (first second : Trace.Options) (target : Except Failure Target)
    (reply : Target → Except Toolchain.Fault Json) : Except Failure Explained → Except Failure Explained → Prop where
  | unfound (failure : Failure) (missing : target = .error failure) :
      SameDecision config first second target reply (.error failure) (.error failure)
  | refused (t : Target) (fault : Toolchain.Fault) (found : target = .ok t) (bad : reply t = .error fault) :
      SameDecision config first second target reply (.error (explainFailure fault)) (.error (explainFailure fault))
  | failed (t : Target) (document : Json) (failure : Failure) (found : target = .ok t)
      (replied : reply t = .ok document) (bad : Explanation.failure? document = some failure) :
      SameDecision config first second target reply (.error failure) (.error failure)
  | told (t : Target) (document : Json) (a b : Explained) (whole other : Trace) (found : target = .ok t)
      (replied : reply t = .ok document) (fine : Explanation.failure? document = none)
      (value : a.verdict = .ofResult t.package t.rule (Explanation.value? document)) (verdict : a.verdict = b.verdict)
      (decision : a.trace.finalDecision = b.trace.finalDecision) (bindings : whole.bindings = other.bindings)
      (left : Told config first whole a) (right : Told config second other b) :
      SameDecision config first second target reply (.ok a) (.ok b)

def wholeTrace (document : Json) (m : LineMap) (options : Trace.Options) : Trace :=
  Trace.ofEvents (Explanation.events document) m options.level (Explanation.value? document)

def explainedAs (config : Config) (t : Target) (options : Trace.Options) (m : LineMap) :
    Except Toolchain.Fault Json → Except Failure Explained
  | .error fault => .error (explainFailure fault)
  | .ok document =>
      match Explanation.failure? document with
      | some failure => .error failure
      | none =>
          .ok
            { verdict := .ofResult t.package t.rule (Explanation.value? document)
              trace := traceOf document m options (traceBudget config options) }

section Runs

variable (s r : Surroundings) (h : Host) (input : Json) (package rule : Option String)
  (options first second : Trace.Options) (t : Target)

theorem trace_told (config : Config) (document : Json) (m : LineMap) :
    Told config options (wholeTrace document m options)
      { verdict := .ofResult t.package t.rule (Explanation.value? document)
        trace := traceOf document m options (traceBudget config options) } := by
  have cut := Trace.fit_cut (traceBudget config options) (wholeTrace document m options)
  refine ⟨allows_iff _, cut.decision.trans ?_, cut.level, rfl, cut.bindings, cut.within⟩
  cases value : Explanation.value? document <;> simp [wholeTrace, Trace.ofEvents, Verdict.ofResult, value]

theorem explained_same (config : Config) (m n : LineMap) (target : Except Failure Target)
    (reply : Target → Except Toolchain.Fault Json) (found : target = .ok t) :
    SameDecision config first second target reply (explainedAs config t first m (reply t))
      (explainedAs config t second n (reply t)) := by
  cases replied : reply t with
  | error fault => exact .refused t fault found replied
  | ok document =>
      unfold explainedAs
      dsimp only
      cases fine : Explanation.failure? document with
      | some failure => exact .failed t document failure found replied fine
      | none =>
          have left := trace_told first t config document m
          have right := trace_told second t config document n
          exact .told t document _ _ (wholeTrace document m first) (wholeTrace document n second) found replied fine rfl
            rfl (left.decision.trans right.decision.symm) rfl left right

theorem explain_replied (found : h.target package rule = .ok t) :
    ∃ m : LineMap, ((explain s input package rule options).run.run h).1 =
      explainedAs h.config t options m
        (s.toolchain.explain s.workspace.tree (explainRequest h.config t input options)) := by
  rw [explain_run s h input package rule options t found]
  refine ⟨(lineMap s t.policy.path.text (h.record (.explain (explainRequest h.config t input options)))).1, ?_⟩
  unfold explainedAs
  dsimp only
  cases s.toolchain.explain s.workspace.tree (explainRequest h.config t input options) with
  | error fault => rfl
  | ok document =>
      dsimp only
      cases Explanation.failure? document <;> rfl

theorem explain_unfound (failure : Failure) (unfound : h.target package rule = .error failure) :
    (explain s input package rule options).run.run h = (.error failure, h) := by
  simp only [explain, run_bind, run_get, run_settled, unfound]

-- Two surroundings whose toolchains reply alike to two explanations. What their files hold may differ.
theorem explain_same_decision (reply : Target → Except Toolchain.Fault Json)
    (here : ∀ t, h.target package rule = .ok t →
      s.toolchain.explain s.workspace.tree (explainRequest h.config t input first) = reply t)
    (there : ∀ t, h.target package rule = .ok t →
      r.toolchain.explain r.workspace.tree (explainRequest h.config t input second) = reply t) :
    SameDecision h.config first second (h.target package rule) reply
      ((explain s input package rule first).run.run h).1 ((explain r input package rule second).run.run h).1 := by
  cases found : h.target package rule with
  | error failure =>
      rw [explain_unfound s h input package rule first failure found,
        explain_unfound r h input package rule second failure found]
      exact .unfound failure rfl
  | ok t =>
      obtain ⟨m, left⟩ := explain_replied s h input package rule first t found
      obtain ⟨n, right⟩ := explain_replied r h input package rule second t found
      rw [left, right, here t found, there t found]
      exact explained_same first second t h.config m n _ reply rfl

end Runs

def aliceDocument : Json :=
  .obj [("result", .arr [.obj [("expressions", .arr [.obj [("value", .bool true)]])]]),
    ("explanation", .arr [.obj [("op", .str "Enter"), ("location", .obj [("row", .nat 2)]),
      ("node", .obj [("head", .obj [("name", .str "allow")])]),
      ("locals", .arr [.obj [("key", .str "user"), ("value", .str "alice")]])]])]

def tracing : Surroundings :=
  { permissive twoPolicies ["srv"] with
    toolchain := .answering (.ok ⟨0, 70, 0⟩)
      (.ok (.ofFiles [(Bundle.artifactName, .bytes Artifact.header)])) (.ok aliceDocument) }

def traced : Host := (idle.answer tracing (.load "a.rego" none)).2

theorem explain_same_decision_roomless :
    ∃ a b, ((explain tracing .null none none (.withMaxBytes .summary 0)).run.run traced).1 = .ok a ∧
      ((explain tracing .null none none .full).run.run traced).1 = .ok b ∧
      (a.verdict.allowed, a.trace.bindings.isEmpty) = (true, true) ∧
      (b.verdict.allowed, b.trace.bindings.isEmpty) = (true, false) ∧
      SameDecision traced.config (.withMaxBytes .summary 0) .full (traced.target none none) (fun _ => .ok aliceDocument)
        (.ok a) (.ok b) := by
  obtain ⟨a, roomless, cleared⟩ :=
    answered ((explain tracing .null none none (.withMaxBytes .summary 0)).run.run traced).1
      (fun a => (a.verdict.allowed, a.trace.bindings.isEmpty)) (true, true) (by decide +kernel)
  obtain ⟨b, roomy, bound⟩ :=
    answered ((explain tracing .null none none .full).run.run traced).1
      (fun b => (b.verdict.allowed, b.trace.bindings.isEmpty)) (true, false) (by decide +kernel)
  have same := explain_same_decision tracing tracing traced .null none none (.withMaxBytes .summary 0) .full
    (fun _ => .ok aliceDocument) (fun _ _ => rfl) (fun _ _ => rfl)
  rw [roomless, roomy] at same
  exact ⟨a, b, roomless, roomy, cleared, bound, same⟩

end Host

end PolicyHost
