import PolicyHost.Host.Request
import PolicyHost.Proofs.Declarations
import PolicyHost.Proofs.Names
import PolicyHost.Proofs.Origins
import PolicyHost.Proofs.Paths

set_option autoImplicit false

namespace PolicyHost

abbrev Meaning := (text package rule : String) → Json → Option Json

namespace Surroundings

variable (s : Surroundings)

def textOf (source : String) : Except FileTree.Fault String :=
  s.workspace.tree.readNamed s.workspace.directory source

-- What is built from a file, and what is explained on it, is as the text of the file means it.
structure Follows (meaning : Meaning) : Prop where
  built : ∀ (request : Toolchain.BuildRequest) (text : String) (bundle : Bundle) (artifact : Artifact)
    (executable : Executable), s.textOf request.source = .ok text →
    s.toolchain.build s.workspace.tree request = .ok bundle → bundle.artifact = .ok artifact →
    s.runtime.load artifact = .ok executable →
    ∀ package rule : String, Source.isDottedPath package.toList = true → Source.isIdentifier rule.toList = true →
    Build.entrypoint package rule ∈ request.entrypoints →
    ∀ input result, executable.evaluate (Build.entrypoint package rule) input = .ok result →
      result = meaning text package rule input
  explained : ∀ (request : Toolchain.ExplainRequest) (text : String) (document : Json),
    s.textOf request.source = .ok text → s.toolchain.explain s.workspace.tree request = .ok document →
    Explanation.failure? document = none →
    ∀ package rule : String, Source.isDottedPath package.toList = true → Source.isIdentifier rule.toList = true →
    request.query = Build.query package rule →
      Explanation.value? document = meaning text package rule request.input

end Surroundings

namespace Target

theorem check_rule_named (rule : String) (fine : checkRule rule = .ok ()) :
    Source.isIdentifier rule.toList = true := by
  by_cases named : Source.isIdentifier rule.toList = true
  · exact named
  · rw [checkRule, if_neg named] at fine
    cases fine

theorem find_policy_declaring (s : Store) (package : Option String) (policy : Policy)
    (chosen : findPolicy s package = .ok policy) :
    policy ∈ s.policies ∧ Store.declares package policy = true := by
  unfold findPolicy at chosen
  cases earliest : s.findByPackage? package with
  | none => cases package <;> simp [earliest] at chosen
  | some first =>
      simp only [earliest] at chosen
      cases chosen
      exact List.mem_filter.mp (Store.earliest_some _ policy earliest).1

theorem package_of_declared (policy : Policy) (package : Option String) (name : String)
    (declares : Store.declares package policy = true) (meant : packageOf policy package = .ok name) :
    name ∈ policy.packages := by
  cases package with
  | some given =>
      cases meant
      exact of_decide_eq_true declares
  | none =>
      unfold packageOf at meant
      cases first : policy.packages.toList.head? with
      | none => simp [first] at meant
      | some other =>
          have same : other = name := by simpa [first] using meant
          exact same ▸ List.mem_of_head? first

theorem find_listed (s : Store) (package : Option String) (rule : String) (t : Target)
    (found : find s package rule = .ok t) :
    t.policy ∈ s.policies ∧ t.package ∈ t.policy.packages ∧ t.rule ∈ t.policy.rules ∧
      Source.isIdentifier t.rule.toList = true := by
  simp only [find, bind, Except.bind] at found
  cases dotted : checkPackage package with
  | error failure => simp [dotted] at found
  | ok _ =>
      cases named : checkRule rule with
      | error failure => simp [dotted, named] at found
      | ok _ =>
          cases chosen : findPolicy s package with
          | error failure => simp [dotted, named, chosen] at found
          | ok policy =>
              cases meant : packageOf policy package with
              | error failure => simp [dotted, named, chosen, meant] at found
              | ok name =>
                  simp only [dotted, named, chosen, meant] at found
                  obtain ⟨inside, declares⟩ := find_policy_declaring s package policy chosen
                  by_cases listed : rule ∈ policy.rules
                  · rw [if_pos listed] at found
                    cases found
                    exact ⟨inside, package_of_declared policy package _ declares meant, listed,
                      check_rule_named _ named⟩
                  · rw [if_neg listed] at found
                    cases found

end Target

namespace Host

variable (s : Surroundings) (h : Host) (input : Json) (package rule : Option String) (options : Trace.Options)

theorem explain_run (t : Target) (found : h.target package rule = .ok t) :
    (explain s input package rule options).run.run h =
      let request := explainRequest h.config t input options
      let asked := h.record (.explain request)
      match s.toolchain.explain s.workspace.tree request with
      | .error fault => (.error (explainFailure fault), asked)
      | .ok document =>
          match Explanation.failure? document with
          | some failure => (.error failure, asked)
          | none =>
              let (m, after) := lineMap s t.policy.path.text asked
              (.ok
                { verdict := .ofResult t.package t.rule (Explanation.value? document)
                  trace := traceOf document m options (traceBudget h.config options) }, after) := by
  simp only [explain, explanation, run_bind, run_get, run_settled, found, run_modify]
  cases s.toolchain.explain s.workspace.tree (explainRequest h.config t input options) with
  | error fault => rfl
  | ok document =>
      dsimp only
      cases Explanation.failure? document with
      | some failure => rfl
      | none => rfl

inductive ExplainCase : Except Failure Explained → Host → Prop where
  | unfound (failure : Failure) (missing : h.target package rule = .error failure) : ExplainCase (.error failure) h
  | refused (t : Target) (fault : Toolchain.Fault) (found : h.target package rule = .ok t)
      (bad : s.toolchain.explain s.workspace.tree (explainRequest h.config t input options) = .error fault) :
      ExplainCase (.error (explainFailure fault)) (h.record (.explain (explainRequest h.config t input options)))
  | failed (t : Target) (document : Json) (failure : Failure) (found : h.target package rule = .ok t)
      (told : s.toolchain.explain s.workspace.tree (explainRequest h.config t input options) = .ok document)
      (bad : Explanation.failure? document = some failure) :
      ExplainCase (.error failure) (h.record (.explain (explainRequest h.config t input options)))
  | given (t : Target) (document : Json) (m : LineMap) (after : Host) (found : h.target package rule = .ok t)
      (told : s.toolchain.explain s.workspace.tree (explainRequest h.config t input options) = .ok document)
      (fine : Explanation.failure? document = none)
      (mapped : lineMap s t.policy.path.text (h.record (.explain (explainRequest h.config t input options))) = (m, after)) :
      ExplainCase
        (.ok
          { verdict := .ofResult t.package t.rule (Explanation.value? document)
            trace := traceOf document m options (traceBudget h.config options) }) after

theorem explain_cases :
    ExplainCase s h input package rule options ((explain s input package rule options).run.run h).1
      ((explain s input package rule options).run.run h).2 := by
  cases found : h.target package rule with
  | error failure =>
      simp only [explain, run_bind, run_get, run_settled, found]
      exact .unfound failure found
  | ok t =>
      rw [explain_run s h input package rule options t found]
      dsimp only
      cases told : s.toolchain.explain s.workspace.tree (explainRequest h.config t input options) with
      | error fault => exact .refused t fault found told
      | ok document =>
          dsimp only
          cases fine : Explanation.failure? document with
          | some failure => exact .failed t document failure found told fine
          | none => exact .given t document _ _ found told fine rfl

theorem evaluate_found (t : Target) (found : h.target package rule = .ok t) :
    h.evaluate input package rule =
      match t.policy.executable.evaluate t.entrypoint input with
      | .ok result => .ok (.ofResult t.package t.rule result)
      | .error fault => .error (moduleFailure fault) := by
  simp only [evaluate, found, bind, Except.bind]
  rfl

section Agreement

variable (t : Target)

-- The answers to a question about `t` where all that builds and explains follows one meaning: that of the text
-- which was compiled, and that of the text which is there now.
structure Agreeing (meaning : Meaning) : Prop where
  evaluated : ∀ result, t.policy.executable.evaluate t.entrypoint input = .ok result →
    h.evaluate input package rule = .ok (.ofResult t.package t.rule (meaning t.policy.source t.package t.rule input))
  explained : ∀ text document, s.textOf (explainRequest h.config t input options).source = .ok text →
    s.toolchain.explain s.workspace.tree (explainRequest h.config t input options) = .ok document →
    Explanation.failure? document = none →
    ∃ answer, ((explain s input package rule options).run.run h).1 = .ok answer ∧
      answer.verdict = .ofResult t.package t.rule (meaning text t.package t.rule input)
  agreed : s.textOf (explainRequest h.config t input options).source = .ok t.policy.source →
    ∀ verdict answer, h.evaluate input package rule = .ok verdict →
      ((explain s input package rule options).run.run h).1 = .ok answer → answer.verdict = verdict

-- What the two answers to a question about `t` rest on, after some requests.
structure Accounted (turns : List (Surroundings × Request)) : Prop where
  asked : ((explain s input package rule options).run.run h).2.calls =
    .explain (explainRequest h.config t input options) :: h.calls
  ran : h.evaluate input package rule =
    match t.policy.executable.evaluate t.entrypoint input with
    | .ok result => .ok (.ofResult t.package t.rule result)
    | .error fault => .error (moduleFailure fault)
  origin : ∃ turn ∈ turns, CompiledIn turn.1 h.config t.policy ∧
    turn.1.textOf (explainRequest h.config t input options).source = .ok t.policy.source
  agreeing : ∀ meaning : Meaning, (∀ turn ∈ turns, turn.1.Follows meaning) → s.Follows meaning →
    Agreeing s h input package rule options t meaning

theorem line_map_calls (path : String) : (lineMap s path h).2.calls = h.calls := by
  unfold lineMap
  dsimp only
  cases h.store.lineMap? (Path.ofText path) <;> rfl

theorem explain_calls (found : h.target package rule = .ok t) :
    ((explain s input package rule options).run.run h).2.calls =
      .explain (explainRequest h.config t input options) :: h.calls := by
  have cases := explain_cases s h input package rule options
  generalize (explain s input package rule options).run.run h = outcome at cases ⊢
  obtain ⟨result, after⟩ := outcome
  cases cases with
  | unfound failure missing => cases found.symm.trans missing
  | refused other fault here bad => cases found.symm.trans here; rfl
  | failed other document failure here told bad => cases found.symm.trans here; rfl
  | given other document m _ here told fine mapped =>
      cases found.symm.trans here
      have calls := line_map_calls s (h.record (.explain (explainRequest h.config t input options))) t.policy.path.text
      rwa [mapped] at calls

theorem explain_document (found : h.target package rule = .ok t) (answer : Explained)
    (given : ((explain s input package rule options).run.run h).1 = .ok answer) :
    ∃ document, s.toolchain.explain s.workspace.tree (explainRequest h.config t input options) = .ok document ∧
      Explanation.failure? document = none ∧
      answer.verdict = .ofResult t.package t.rule (Explanation.value? document) := by
  have cases := explain_cases s h input package rule options
  rw [given] at cases
  cases cases with
  | given other document m _ here told fine mapped =>
      cases found.symm.trans here
      exact ⟨document, told, fine, rfl⟩

theorem compiled_meaning (config : Config) (meaning : Meaning) (p : Policy) (plain : p.path.Plain)
    (compiled : CompiledIn s config p) (follows : s.Follows meaning) (name head : String)
    (declared : name ∈ p.packages) (listed : head ∈ p.rules) (named : Source.isIdentifier head.toList = true) (result : Option Json)
    (answered : p.executable.evaluate (Build.entrypoint name head) input = .ok result) :
    result = meaning p.source name head input := by
  obtain ⟨bundle, artifact, built, held, _, loaded⟩ := compiled.built
  have text : s.textOf p.path.text = .ok p.source :=
    (FileTree.read_named_text _ s.workspace.directory p.path plain).trans compiled.read
  have dotted : Source.isDottedPath name.toList = true :=
    Source.mem_packages_dotted p.source name (compiled.packages ▸ declared)
  have entered : Build.entrypoint name head ∈
      Build.entrypoints p.packages (Source.rules p.source) config.defaultRule :=
    List.mem_flatMap.mpr ⟨name, declared, List.mem_map.mpr ⟨head, compiled.rules ▸ listed, rfl⟩⟩
  exact follows.built _ p.source bundle artifact p.executable text built held loaded name head dotted named entered
    input result answered

theorem agreeing_compiled (config : Config) (meaning : Meaning) (earlier : Surroundings)
    (found : h.target package rule = .ok t) (plain : t.policy.path.Plain)
    (compiled : CompiledIn earlier config t.policy) (past : earlier.Follows meaning) (now : s.Follows meaning) :
    Agreeing s h input package rule options t meaning := by
  obtain ⟨_, declared, listed, named⟩ := Target.find_listed _ _ _ t found
  have dotted : Source.isDottedPath t.package.toList = true :=
    Source.mem_packages_dotted t.policy.source t.package (compiled.packages ▸ declared)
  have evaluated (result : Option Json) (answered : t.policy.executable.evaluate t.entrypoint input = .ok result) :
      result = meaning t.policy.source t.package t.rule input :=
    compiled_meaning earlier input config meaning t.policy plain compiled past t.package t.rule declared listed named
      result answered
  have explained (text : String) (document : Json)
      (here : s.textOf (explainRequest h.config t input options).source = .ok text)
      (told : s.toolchain.explain s.workspace.tree (explainRequest h.config t input options) = .ok document)
      (fine : Explanation.failure? document = none) :
      Explanation.value? document = meaning text t.package t.rule input :=
    now.explained _ text document here told fine t.package t.rule dotted named rfl
  refine ⟨?_, ?_, ?_⟩
  · intro result answered
    rw [evaluate_found h input package rule t found, answered, ← evaluated result answered]
  · intro text document here told fine
    rw [explain_run s h input package rule options t found, ← explained text document here told fine]
    simp only [told, fine]
    exact ⟨_, rfl, rfl⟩
  · intro unchanged verdict answer valued traced
    obtain ⟨document, told, fine, shown⟩ := explain_document s h input package rule options t found answer traced
    rw [shown, explained _ document unchanged told fine]
    rw [evaluate_found h input package rule t found] at valued
    cases answered : t.policy.executable.evaluate t.entrypoint input with
    | error fault => simp [answered] at valued
    | ok result =>
        simp only [answered, Except.ok.injEq] at valued
        rw [← valued, evaluated result answered]

theorem answers_accounted (config : Config) (new : Host) (turns : List (Surroundings × Request))
    (started : Host.new config = .ok new) (bare : ∀ turn ∈ turns, Path.Bare turn.1.workspace.directory)
    (found : (new.after turns).target package rule = .ok t) :
    Accounted s (new.after turns) input package rule options t turns := by
  have configured := (reachable_kept config _ (after_reachable config new turns (.new new started))).configured
  obtain ⟨loaded, _⟩ := Target.find_listed _ _ _ t found
  obtain ⟨turn, inside, origin⟩ := new_sourced config new turns started t.policy loaded
  obtain ⟨path, base, resolved⟩ := origin.named
  have plain := Workspace.resolve_plain turn.1.workspace path base t.policy.path (bare turn inside) resolved
  refine ⟨explain_calls s _ input package rule options t found, evaluate_found _ input package rule t found,
    ⟨turn, inside, ?_, ?_⟩, ?_⟩
  · rw [configured]
    exact origin.toCompiledIn
  · exact (FileTree.read_named_text _ turn.1.workspace.directory t.policy.path plain).trans origin.read
  · intro meaning past now
    exact agreeing_compiled s _ input package rule options t config meaning turn.1 found plain origin.toCompiledIn
      (past turn inside) now

end Agreement

def answerDocument (value : Bool) : Json :=
  .obj [("result", .arr [.obj [("expressions", .arr [.obj [("value", .bool value)]])]])]

def interpreting (grants : Text.Bytes → Bool) (tree : FileTree) : Surroundings :=
  { workspace := { tree, directory := ["srv"] }
    toolchain :=
      { version := .ok ⟨0, 70, 0⟩
        build := fun tree request =>
          match tree.readNamed ["srv"] request.source with
          | .error _ => .error (.failed .build "exit status: 1" "" "")
          | .ok text => .ok (.ofFiles [(Bundle.artifactName, .bytes (Text.encode text))])
        explain := fun tree request =>
          match tree.readNamed ["srv"] request.source with
          | .error _ => .error (.failed .explain "exit status: 1" "" "")
          | .ok text => .ok (answerDocument (grants (Text.encode text))) }
    runtime :=
      { load := fun artifact =>
          match artifact with
          | .bytes content => .ok { entrypoints := [], evaluate := fun _ _ => .ok (some (.bool (grants content))) }
          | .scripted _ => .error (.compilation "failed to compile policy: ") } }

theorem interpreting_follows (grants : Text.Bytes → Bool) (tree : FileTree) :
    (interpreting grants tree).Follows fun text _ _ _ => some (.bool (grants (Text.encode text))) := by
  constructor
  · intro request text bundle artifact executable here built held loaded package rule _ _ _ input result answered
    have read : tree.readNamed ["srv"] request.source = .ok text := here
    have named : Bundle.isArtifactName Bundle.artifactName = true := by decide +kernel
    have alone : (Bundle.ofFiles [(Bundle.artifactName, .bytes (Text.encode text))]).artifact =
        .ok (.bytes (Text.encode text)) := by
      simp [Bundle.artifact, Bundle.ofFiles, named]
    simp only [interpreting, read] at built
    cases built
    cases alone.symm.trans held
    cases loaded
    cases answered
    rfl
  · intro request text document here told _ package rule _ _ _
    have read : tree.readNamed ["srv"] request.source = .ok text := here
    simp only [interpreting, read] at told
    cases told
    rfl

def granting : Text.Bytes := Text.encode "package shared\nallow := true\n"

def granted : Meaning := fun text _ _ _ => some (.bool (Text.encode text = granting))

def holding (content : Text.Bytes) : Surroundings :=
  interpreting (· = granting) { nodes := [(["srv"], .directory), (["srv", "a.rego"], .file content)] }

theorem holding_follows (content : Text.Bytes) : (holding content).Follows granted := interpreting_follows _ _

def rewritten : Surroundings := holding (Text.encode "package shared\nallow := false\n")

-- The file is written anew after it was loaded, which a second load does not notice.
def rewriting : List (Surroundings × Request) :=
  [(holding granting, .load "a.rego" none), (rewritten, .load "./a.rego" none)]

theorem rewriting_follows : ∀ turn ∈ rewriting, turn.1.Follows granted := by
  intro turn inside
  have either : turn.1 = holding granting ∨ turn.1 = rewritten := by
    simp only [rewriting, List.mem_cons, List.not_mem_nil, or_false] at inside
    exact inside.imp (congrArg Prod.fst) (congrArg Prod.fst)
  rcases either with same | same <;> exact same ▸ holding_follows _

theorem rewriting_bare : ∀ turn ∈ rewriting, Path.Bare turn.1.workspace.directory := by
  decide +kernel

theorem answered {α β : Type} (result : Except Failure α) (f : α → β) (b : β)
    (told : result.toOption.map f = some b) : ∃ a, result = .ok a ∧ f a = b := by
  cases result with
  | error failure => cases told
  | ok a => exact ⟨a, rfl, Option.some.inj told⟩

theorem answers_accounted_restored :
    ∃ t verdict answer, (idle.after rewriting).target none none = .ok t ∧
      (idle.after rewriting).evaluate .null none none = .ok verdict ∧
      ((explain (holding granting) .null none none {}).run.run (idle.after rewriting)).1 = .ok answer ∧
      verdict.allowed = true ∧ answer.verdict.allowed = true ∧
      Accounted (holding granting) (idle.after rewriting) .null none none {} t rewriting := by
  obtain ⟨t, found, _⟩ := answered ((idle.after rewriting).target none none) (·.rule) "allow" (by decide +kernel)
  obtain ⟨verdict, evaluated, allowed⟩ :=
    answered ((idle.after rewriting).evaluate .null none none) (·.allowed) true (by decide +kernel)
  obtain ⟨answer, explained, granted⟩ :=
    answered ((explain (holding granting) .null none none {}).run.run (idle.after rewriting)).1 (·.verdict.allowed)
      true (by decide +kernel)
  exact ⟨t, verdict, answer, found, evaluated, explained, allowed, granted,
    answers_accounted (holding granting) .null none none {} t {} idle rewriting rfl rewriting_bare found⟩

-- As long as the file has its second text they do not, although all that builds and explains follows one meaning.
theorem rewritten_disagrees :
    Host.new {} = .ok idle ∧ (∀ turn ∈ rewriting, turn.1.Follows granted) ∧ rewritten.Follows granted ∧
      ∃ t verdict answer, (idle.after rewriting).target none none = .ok t ∧
        rewritten.textOf (explainRequest (idle.after rewriting).config t .null {}).source ≠ .ok t.policy.source ∧
        (idle.after rewriting).evaluate .null none none = .ok verdict ∧
        ((explain rewritten .null none none {}).run.run (idle.after rewriting)).1 = .ok answer ∧
        verdict.allowed = true ∧ answer.verdict.allowed = false := by
  obtain ⟨t, found, stale⟩ := answered ((idle.after rewriting).target none none)
    (fun t => decide ((rewritten.textOf t.policy.path.text).toOption = some t.policy.source)) false
    (by decide +kernel)
  obtain ⟨verdict, evaluated, allowed⟩ :=
    answered ((idle.after rewriting).evaluate .null none none) (·.allowed) true (by decide +kernel)
  obtain ⟨answer, explained, refused⟩ :=
    answered ((explain rewritten .null none none {}).run.run (idle.after rewriting)).1 (·.verdict.allowed) false
      (by decide +kernel)
  refine ⟨rfl, rewriting_follows, holding_follows _, t, verdict, answer, found, ?_, evaluated, explained, allowed,
    refused⟩
  intro same
  exact of_decide_eq_false stale (congrArg Except.toOption same)

end Host

end PolicyHost
