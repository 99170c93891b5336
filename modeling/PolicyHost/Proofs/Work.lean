import PolicyHost.Proofs.LineMaps
import PolicyHost.Proofs.Ledger

set_option autoImplicit false

namespace PolicyHost

def Call.isVersion : Call → Bool
  | version => true
  | _ => false

def Request.isQuiet : Request → Bool
  | load _ _ => false
  | loadTogether _ _ _ => false
  | explain _ _ _ _ => false
  | _ => true

namespace Host

section Turn

variable (s : Surroundings) (h : Host)

-- A load with something to compile: its path is not loaded yet, and is read as a text with a package.
structure Due (path : String) (base : Option String) (d : Draft) : Prop extends d.Faithful where
  resolved : s.workspace.resolve path base = .ok d.path
  absent : h.store.find? d.path = none
  read : s.workspace.tree.read d.path = .ok d.source

def probes : List Call := if h.probed.isNone then [.version] else []

-- The calls that a request makes, the earliest first.
inductive Work : Request → List Call → Prop where
  | undue (path : String) (base : Option String) (idle : ∀ d, ¬ Due s h path base d) : Work (.load path base) []
  | unbuilt (path : String) (base : Option String) (d : Draft) (due : Due s h path base d)
      (bare : ∀ bundle artifact, s.toolchain.build s.workspace.tree (buildRequest h d) = .ok bundle →
        bundle.artifact ≠ .ok artifact) :
      Work (.load path base) (probes h ++ [.build (buildRequest h d)])
  | built (path : String) (base : Option String) (d : Draft) (bundle : Bundle) (artifact : Artifact)
      (due : Due s h path base d) (built : s.toolchain.build s.workspace.tree (buildRequest h d) = .ok bundle)
      (held : bundle.artifact = .ok artifact) :
      Work (.load path base) (probes h ++ [.build (buildRequest h d), .load])
  | explained (input : Json) (package rule : Option String) (options : Trace.Options) (t : Target)
      (found : h.target package rule = .ok t) :
      Work (.explain input package rule options) [.explain (explainRequest h.config t input options)]
  | untargeted (input : Json) (package rule : Option String) (options : Trace.Options) (failure : Failure)
      (unfound : h.target package rule = .error failure) : Work (.explain input package rule options) []
  | quiet (request : Request) (quiet : request.isQuiet = true) : Work request []

structure Done (request : Request) (made : List Call) (after : Host) : Prop where
  work : Work s h request made
  calls : after.calls = made.reverse ++ h.calls
  probed : after.probed = if made.any Call.isVersion then some s.toolchain.version? else h.probed

theorem due_drafted (path : String) (base : Option String) (d : Draft) (due : Due s h path base d) :
    draft s d.path = .ok d := by
  simp only [draft, due.read, ← due.packages, ← due.rules]
  exact if_neg (Bool.eq_false_iff.mp due.declared)

theorem drafted_due (path : String) (base : Option String) (key : Path) (d : Draft)
    (resolved : s.workspace.resolve path base = .ok key) (absent : h.store.find? key = none)
    (drafted : draft s key = .ok d) : Due s h path base d := by
  obtain ⟨own, read, faithful⟩ := drafted_source s key d drafted
  subst own
  exact ⟨faithful, resolved, absent, read⟩

theorem asked_calls (d : Draft) : (asked s h d).calls = .build (buildRequest h d) :: ((probes h).reverse ++ h.calls) := by
  rw [asked, record, probe, probes]
  cases h.probed <;> rfl

theorem asked_probed (d : Draft) :
    (asked s h d).probed = if (probes h).any Call.isVersion then some s.toolchain.version? else h.probed := by
  rw [asked, record, probe, probes]
  cases probed : h.probed with
  | none => rfl
  | some version => exact probed

theorem probes_then (calls : List Call) (others : calls.any Call.isVersion = false) :
    (probes h ++ calls).any Call.isVersion = (probes h).any Call.isVersion := by
  rw [List.any_append, others, Bool.or_false]

theorem compile_done (path : String) (base : Option String) (key : Path) (result : Except Failure Policy) (after : Host)
    (resolved : s.workspace.resolve path base = .ok key) (absent : h.store.find? key = none)
    (compiled : CompileCase s h key result after) : ∃ made, Done s h (.load path base) made after := by
  cases compiled with
  | undrafted failure bad =>
      refine ⟨[], .undue path base fun d due => ?_, rfl, rfl⟩
      have same : d.path = key := Except.ok.inj (due.resolved.symm.trans resolved)
      rw [← same, due_drafted s h path base d due] at bad
      cases bad
  | unbuilt d failure drafted bad =>
      refine ⟨_, .unbuilt path base d (drafted_due s h path base key d resolved absent drafted) ?_, ?_, ?_⟩
      · intro bundle artifact built held
        simp [Build.run, built, held] at bad
      · rw [asked_calls, List.reverse_append]
        rfl
      · rw [asked_probed, probes_then h _ rfl]
  | unloaded d artifact fault drafted ran bad =>
      obtain ⟨bundle, built, held⟩ := run_bundle _ _ _ artifact ran
      refine ⟨_, .built path base d bundle artifact (drafted_due s h path base key d resolved absent drafted) built held,
        ?_, ?_⟩
      · rw [record, asked_calls, List.reverse_append]
        rfl
      · rw [record, asked_probed, probes_then h _ rfl]
  | entered d artifact executable drafted ran loaded =>
      obtain ⟨bundle, built, held⟩ := run_bundle _ _ _ artifact ran
      refine ⟨_, .built path base d bundle artifact (drafted_due s h path base key d resolved absent drafted) built held,
        ?_, ?_⟩
      · change .load :: (asked s h d).calls = _
        rw [asked_calls, List.reverse_append]
        rfl
      · change (asked s h d).probed = _
        rw [asked_probed, probes_then h _ rfl]

theorem load_done (path : String) (base : Option String) :
    ∃ made, Done s h (.load path base) made ((load s path base).run.run h).2 := by
  have loaded := load_cases s h path base
  generalize (load s path base).run.run h = outcome at loaded ⊢
  obtain ⟨result, after⟩ := outcome
  cases loaded with
  | refused failure bad =>
      refine ⟨[], .undue path base fun d due => ?_, rfl, rfl⟩
      rw [due.resolved] at bad
      cases bad
  | hit key policy resolved found =>
      refine ⟨[], .undue path base fun d due => ?_, rfl, rfl⟩
      have same : d.path = key := Except.ok.inj (due.resolved.symm.trans resolved)
      rw [← same, due.absent] at found
      cases found
  | failed key failure _ resolved absent compiled =>
      exact compile_done s h path base key _ after resolved absent compiled
  | fresh key policy _ resolved absent compiled =>
      exact compile_done s h path base key _ after resolved absent compiled

theorem line_map_probed (path : String) : (lineMap s path h).2.probed = h.probed := by
  unfold lineMap
  dsimp only
  cases h.store.lineMap? (Path.ofText path) <;> rfl

theorem explain_done (input : Json) (package rule : Option String) (options : Trace.Options) :
    ∃ made, Done s h (.explain input package rule options) made
      ((explain s input package rule options).run.run h).2 := by
  have cases := explain_cases s h input package rule options
  generalize (explain s input package rule options).run.run h = outcome at cases ⊢
  obtain ⟨result, after⟩ := outcome
  cases cases with
  | unfound failure missing => exact ⟨[], .untargeted input package rule options failure missing, rfl, rfl⟩
  | refused t fault found bad => exact ⟨_, .explained input package rule options t found, rfl, rfl⟩
  | failed t document failure found told bad => exact ⟨_, .explained input package rule options t found, rfl, rfl⟩
  | given t document m _ found told fine mapped =>
      have last := congrArg Prod.snd mapped
      refine ⟨_, .explained input package rule options t found, ?_, ?_⟩
      · exact (congrArg Host.calls last).symm.trans (line_map_calls s _ _)
      · exact (congrArg Host.probed last).symm.trans (line_map_probed s _ _)

theorem answer_done (request : Request) (single : request.isSingle = true) :
    ∃ made, Done s h request made (h.answer s request).2 := by
  cases request with
  | load path base => exact load_done s h path base
  | loadTogether path base callers => cases single
  | explain input package rule options => exact explain_done s h input package rule options
  | lineMap path => exact ⟨[], .quiet _ rfl, line_map_calls s h path, line_map_probed s h path⟩
  | _ => exact ⟨[], .quiet _ rfl, rfl, rfl⟩

end Turn

section Run

variable (h : Host) (turns : List (Surroundings × Request))

def questions : Nat := h.calls.countP Call.isVersion

def Tallied : Prop := h.questions = h.probed.isSome.toNat

theorem work_questions (s : Surroundings) (request : Request) (made : List Call) (work : Work s h request made) :
    made.countP Call.isVersion = (made.any Call.isVersion && h.probed.isNone).toNat := by
  have asking (calls : List Call) (others : calls.any Call.isVersion = false) :
      (probes h ++ calls).countP Call.isVersion = ((probes h ++ calls).any Call.isVersion && h.probed.isNone).toNat := by
    have none : calls.countP Call.isVersion = 0 := by
      refine List.countP_eq_zero.mpr fun call inside => ?_
      simpa using List.any_eq_false.mp others call inside
    rw [probes_then h calls others, List.countP_append, none, probes]
    cases h.probed <;> rfl
  cases work with
  | unbuilt path base d due bare => exact asking _ rfl
  | built path base d bundle artifact due built held => exact asking _ rfl
  | _ => rfl

theorem done_tallied (s : Surroundings) (request : Request) (made : List Call) (after : Host)
    (done : Done s h request made after) (tallied : Tallied h) : Tallied after := by
  have more := work_questions h s request made done.work
  rw [Tallied, questions, done.calls, List.countP_append, List.countP_reverse, more, done.probed]
  rw [Tallied, questions] at tallied
  rw [tallied]
  cases made.any Call.isVersion <;> cases h.probed <;> rfl

theorem done_known (s : Surroundings) (request : Request) (made : List Call) (after : Host)
    (done : Done s h request made after) (known : h.probed.isSome = true) : after.probed = h.probed := by
  have more := work_questions h s request made done.work
  rw [Option.isNone_eq_false_iff.mpr known, Bool.and_false] at more
  have silent : made.any Call.isVersion = false :=
    List.any_eq_false.mpr fun call inside => List.countP_eq_zero.mp more call inside
  rw [done.probed, silent]
  rfl

theorem after_tallied (single : ∀ turn ∈ turns, turn.2.isSingle = true) (tallied : Tallied h) :
    Tallied (h.after turns) := by
  induction turns generalizing h with
  | nil => exact tallied
  | cons turn rest ih =>
      obtain ⟨alone, others⟩ := List.forall_mem_cons.mp single
      obtain ⟨made, done⟩ := answer_done turn.1 h turn.2 alone
      exact ih _ others (done_tallied h turn.1 turn.2 made _ done tallied)

theorem after_known (single : ∀ turn ∈ turns, turn.2.isSingle = true) (known : h.probed.isSome = true) :
    (h.after turns).probed = h.probed := by
  induction turns generalizing h with
  | nil => rfl
  | cons turn rest ih =>
      obtain ⟨alone, others⟩ := List.forall_mem_cons.mp single
      obtain ⟨made, done⟩ := answer_done turn.1 h turn.2 alone
      have same := done_known h turn.1 turn.2 made _ done known
      exact (ih _ others (same ▸ known)).trans same

theorem after_append (past later : List (Surroundings × Request)) :
    h.after (past ++ later) = (h.after past).after later := List.foldl_append

structure Frugal : Prop where
  work : ∀ past turn later, turns = past ++ turn :: later →
    ∃ made, Work turn.1 (h.after past) turn.2 made ∧
      (h.after (past ++ [turn])).calls = made.reverse ++ (h.after past).calls
  once : (h.after turns).questions ≤ 1
  unasked : (h.after turns).questions = 0 → (h.after turns).version? = none
  asked : ∀ past turn later, turns = past ++ turn :: later → (h.after past).questions = 0 →
    (h.after (past ++ [turn])).questions = 1 → (h.after turns).version? = turn.1.toolchain.version?
  steady : ∀ past later, turns = past ++ later → (h.after past).questions = 1 →
    (h.after turns).version? = (h.after past).version?

theorem requests_frugal (config : Config) (h : Host) (turns : List (Surroundings × Request))
    (started : Host.new config = .ok h) (single : ∀ turn ∈ turns, turn.2.isSingle = true) : Frugal h turns := by
  have first : Tallied h := by
    rw [new_host config h started]
    rfl
  have tallied (past later : List (Surroundings × Request)) (split : turns = past ++ later) : Tallied (h.after past) := by
    subst split
    exact after_tallied h past (List.forall_mem_append.mp single).1 first
  have done (past : List (Surroundings × Request)) (turn : Surroundings × Request)
      (later : List (Surroundings × Request)) (split : turns = past ++ turn :: later) :
      ∃ made, Done turn.1 (h.after past) turn.2 made (h.after (past ++ [turn])) := by
    subst split
    rw [after_concat]
    exact answer_done turn.1 (h.after past) turn.2 (single turn (by simp))
  have steady (past later : List (Surroundings × Request)) (split : turns = past ++ later)
      (asked : (h.after past).questions = 1) : (h.after turns).probed = (h.after past).probed := by
    have known := (tallied past later split).symm.trans asked
    subst split
    rw [after_append]
    refine after_known (h.after past) later (List.forall_mem_append.mp single).2 ?_
    cases probed : (h.after past).probed with
    | none => simp [probed] at known
    | some version => rfl
  have whole := tallied turns [] (List.append_nil turns).symm
  refine ⟨?_, ?_, ?_, ?_, ?_⟩
  · intro past turn later split
    obtain ⟨made, done⟩ := done past turn later split
    exact ⟨made, done.work, done.calls⟩
  · rw [whole]
    exact Bool.toNat_le _
  · intro unasked
    rw [whole] at unasked
    cases probed : (h.after turns).probed with
    | none => rw [version?, probed]; rfl
    | some version => simp [probed] at unasked
  · intro past turn later split unasked asked
    obtain ⟨made, done⟩ := done past turn later split
    have longer : turns = past ++ [turn] ++ later := split.trans (List.append_cons past turn later)
    have here : made.any Call.isVersion = true := by
      refine (List.any_eq_true).mpr (List.countP_pos_iff.mp ?_)
      have total := asked
      rw [questions, done.calls, List.countP_append, List.countP_reverse] at total
      rw [questions] at unasked
      omega
    rw [version?, steady (past ++ [turn]) later longer asked, done.probed, here]
    rfl
  · intro past later split asked
    rw [version?, steady past later split asked, version?]

-- A load that finds no file, and one that succeeds; then the toolchain does not tell its version any more, and after a
-- clearing the file is compiled by it once more.
def thrifty : List (Surroundings × Request) :=
  let full := permissive twoPolicies ["srv"]
  let mute := { full with toolchain := { full.toolchain with version := .error (.notInstalled "opa") } }
  [(full, .load "c.rego" none), (full, .load "a.rego" none), (full, .load "a.rego" none),
   (mute, .evaluate .null none none), (mute, .explain .null none (some "allow") {}),
   (mute, .explain .null none (some "deny") {}), (mute, .clear), (mute, .load "a.rego" none), (mute, .unload "a.rego")]

theorem requests_frugal_thrifty :
    (idle.after thrifty).calls.reverse.map Call.isVersion = [true, false, false, false, false, false] ∧
      (idle.after thrifty).version? = some ⟨0, 70, 0⟩ ∧ Frugal idle thrifty :=
  ⟨by decide +kernel, by decide +kernel, requests_frugal {} idle thrifty rfl (by decide)⟩

end Run

end Host

end PolicyHost
