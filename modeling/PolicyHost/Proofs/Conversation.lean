import PolicyHost.Proofs.Sessions
import PolicyHost.Wasm.Scripted

set_option autoImplicit false

namespace PolicyHost.Wasm

variable {σ α β : Type}

structure Invocation where
  function : Export
  arguments : List Int
  memory : Memory
  returned : Option Int

-- The same guest, which writes down the calls of those functions that it has.
def Guest.recording (g : Guest σ) : Guest (σ × List Invocation) where
  call f arguments state memory :=
    match g.call f arguments state.1 memory with
    | .absent => .absent
    | .trapped trap next => .trapped trap (next, state.2 ++ [⟨f, arguments, memory, none⟩])
    | .returned value next after => .returned value (next, state.2 ++ [⟨f, arguments, memory, some value⟩]) after

def Instance.recording (i : Instance σ) : Instance (σ × List Invocation) :=
  { guest := i.guest.recording, state := (i.state, []), memory := i.memory }

def opened (limits : Limits) (tables : Tables) (fresh : Instance σ) : Session σ :=
  { fresh with limits, builtins := tables.builtins }

def invocations (limits : Limits) (tables : Tables) (start : Except Fault (Instance σ)) (entrypoint : String)
    (input : Json) : List Invocation :=
  match tables.entrypoints.get? entrypoint, start with
  | some id, .ok fresh => ((evaluation entrypoint id input).run.run (opened limits tables fresh.recording)).2.state.2
  | _, _ => []

-- One line of a script: a function to call, what to call it with, and which of its results will do.
structure Ask where
  function : Export
  suits : List Int → Memory → Prop := fun _ _ => True
  accepts : Int → Bool := fun _ => true

structure Invocation.Answers (call : Invocation) (ask : Ask) : Prop where
  function : call.function = ask.function
  suited : ask.suits call.arguments call.memory

-- Calls that follow a script line by line. They go to its end, or else up to a call that fails or that is not made.
inductive Played : List Ask → List Invocation → Bool → Prop where
  | done : Played [] [] true
  | stopped (script : List Ask) : Played script [] false
  | failed (ask : Ask) (rest : List Ask) (call : Invocation) (asked : call.Answers ask)
      (bad : call.returned.any ask.accepts = false) : Played (ask :: rest) [call] false
  | next (ask : Ask) (rest : List Ask) (call : Invocation) (made : List Invocation) (whole : Bool)
      (asked : call.Answers ask) (good : call.returned.any ask.accepts = true) (tail : Played rest made whole) :
      Played (ask :: rest) (call :: made) whole

def copying (document : Json) : List Ask :=
  let bytes := Text.encode document.text
  [{ function := .malloc, suits := fun arguments _ => arguments = [(bytes.length : Int)]
     accepts := fun addr => decide (0 ≤ addr) },
   { function := .jsonParse
     suits := fun arguments memory => ∃ addr : Nat, arguments = [(addr : Int), (bytes.length : Int)] ∧
       addr + bytes.length ≤ memory.size ∧ memory.slice addr bytes.length = bytes
     accepts := fun parsed => decide (parsed ≠ 0) }]

def evaluating (id : Int) (input : Json) : List Ask :=
  copying (.obj []) ++ (copying input ++
    [{ function := .newContext }, { function := .setInput }, { function := .setData },
     { function := .setEntrypoint, suits := fun arguments _ => ∃ context, arguments = [context, id] },
     { function := .eval, accepts := fun status => decide (status = 0) }, { function := .getResult },
     { function := .jsonDump }])

section Scripts

variable (script rest : List Ask) (made more : List Invocation) (whole : Bool)

theorem played_append (first : Played script made true) (second : Played rest more whole) :
    Played (script ++ rest) (made ++ more) whole := by
  generalize same : true = complete at first
  induction first with
  | done => exact second
  | stopped script => cases same
  | failed ask rest call asked bad => cases same
  | next ask tail call made whole asked good played ih => exact .next ask _ call _ _ asked good (ih same)

theorem played_stopped (first : Played script made false) : Played (script ++ rest) made false := by
  generalize same : false = complete at first
  induction first with
  | done => cases same
  | stopped script => exact .stopped _
  | failed ask tail call asked bad => exact .failed ask _ call asked bad
  | next ask tail call made whole asked good played ih => exact .next ask _ call _ _ asked good (ih same)

theorem played_functions (played : Played script made whole) :
    made.map Invocation.function <+: script.map Ask.function := by
  induction played with
  | done => exact List.nil_prefix
  | stopped script => exact List.nil_prefix
  | failed ask rest call asked bad => exact List.cons_prefix_cons.mpr ⟨asked.function, List.nil_prefix⟩
  | next ask rest call made whole asked good tail ih => exact List.cons_prefix_cons.mpr ⟨asked.function, ih⟩

theorem played_whole (played : Played script made true) : made.map Invocation.function = script.map Ask.function := by
  generalize same : true = complete at played
  induction played with
  | done => rfl
  | stopped script => cases same
  | failed ask rest call asked bad => cases same
  | next ask rest call made whole asked good tail ih => rw [List.map_cons, List.map_cons, asked.function, ih same]

end Scripts

def Session.recorded (s : Session σ) (log : List Invocation) : Session (σ × List Invocation) :=
  { guest := s.guest.recording, state := (s.state, log), memory := s.memory, limits := s.limits, builtins := s.builtins }

def Session.heard (s : Session σ) (f : Export) (arguments : List Int) : List Invocation :=
  match s.guest.call f arguments s.state s.memory with
  | .absent => []
  | .trapped _ _ => [⟨f, arguments, s.memory, none⟩]
  | .returned value _ _ => [⟨f, arguments, s.memory, some value⟩]

-- A step does the same with either guest, and the calls that are written down follow the script.
def Plays (script : List Ask) (x : Run (σ × List Invocation) α) (y : Run σ α) (s : Session σ) (log : List Invocation) :
    Prop :=
  ∃ made, x.run.run (s.recorded log) = ((y.run.run s).1, (y.run.run s).2.recorded (log ++ made)) ∧
    Played script made (y.run.run s).1.isOk

def Fails (x : Run (σ × List Invocation) α) (y : Run σ α) (s : Session σ) (log : List Invocation) : Prop :=
  ∃ fault, x.run.run (s.recorded log) = (.error fault, s.recorded log) ∧ y.run.run s = (.error fault, s)

def oversized (document : Json) : Fault :=
  .invalidInput ("serialized input (" ++ toString (Text.encode document.text).length ++ " bytes) exceeds maximum of " ++
    toString maxInputBytes ++ " bytes")

section Steps

variable (script rest : List Ask) (s : Session σ) (log : List Invocation)

theorem fails_throw (fault : Fault) : Fails (throw fault : Run _ α) (throw fault) s log := ⟨fault, rfl, rfl⟩

theorem fails_abort (fault : Fault) (f : α → Run (σ × List Invocation) β) (g : α → Run σ β) :
    Fails (throw fault >>= f) (throw fault >>= g) s log := ⟨fault, rfl, rfl⟩

theorem plays_fails (x : Run (σ × List Invocation) α) (y : Run σ α) (fails : Fails x y s log) :
    Plays script x y s log := by
  obtain ⟨fault, recorded, plain⟩ := fails
  unfold Plays
  rw [recorded, plain]
  exact ⟨[], by rw [List.append_nil], .stopped script⟩

theorem plays_pure (a : α) : Plays [] (pure a) (pure a) s log :=
  ⟨[], by rw [List.append_nil, session_pure, session_pure], .done⟩

theorem plays_bind (x : Run (σ × List Invocation) α) (y : Run σ α) (f : α → Run (σ × List Invocation) β)
    (g : α → Run σ β) (first : Plays script x y s log)
    (second : ∀ a after log, y.run.run s = (.ok a, after) → Plays rest (f a) (g a) after log) :
    Plays (script ++ rest) (x >>= f) (y >>= g) s log := by
  obtain ⟨made, same, played⟩ := first
  unfold Plays
  rw [session_bind, session_bind, same]
  cases outcome : y.run.run s with
  | mk result after =>
      rw [outcome] at played
      cases result with
      | error fault => exact ⟨made, rfl, played_stopped _ rest made played⟩
      | ok a =>
          obtain ⟨more, then_same, then_played⟩ := second a after (log ++ made) outcome
          refine ⟨made ++ more, ?_, played_append _ rest made more _ played then_played⟩
          rw [← List.append_assoc]
          exact then_same

theorem plays_get (f : Session (σ × List Invocation) → Run (σ × List Invocation) β) (g : Session σ → Run σ β)
    (second : Plays script (f (s.recorded log)) (g s) s log) : Plays script (get >>= f) (get >>= g) s log := by
  unfold Plays
  rw [session_bind, session_bind, session_get, session_get]
  exact second

theorem plays_set (next : Session σ) (f : PUnit → Run (σ × List Invocation) β) (g : PUnit → Run σ β)
    (second : Plays script (f ⟨⟩) (g ⟨⟩) next log) :
    Plays script (set (next.recorded log) >>= f) (set next >>= g) s log := by
  unfold Plays
  rw [session_bind, session_bind, session_set, session_set]
  exact second

theorem invoke_recorded (f : Export) (arguments : List Int) :
    (invoke f arguments).run.run (s.recorded log) =
      (((invoke f arguments).run.run s).1, ((invoke f arguments).run.run s).2.recorded (log ++ s.heard f arguments)) := by
  rw [invoke_run, invoke_run, Session.heard]
  dsimp only [Session.recorded, Guest.recording]
  cases s.guest.call f arguments s.state s.memory with
  | absent => rw [List.append_nil]
  | _ => rfl

theorem plays_call (ask : Ask) (arguments : List Int) (f : Int → Run (σ × List Invocation) β) (g : Int → Run σ β)
    (suited : ask.suits arguments s.memory)
    (refused : ∀ value after log, ask.accepts value = false → Fails (f value) (g value) after log)
    (second : ∀ value after log, ask.accepts value = true → Returns ask.function arguments value s after →
      Plays rest (f value) (g value) after log) :
    Plays (ask :: rest) (invoke ask.function arguments >>= f) (invoke ask.function arguments >>= g) s log := by
  have called := invoke_run s ask.function arguments
  unfold Plays
  rw [session_bind, session_bind, invoke_recorded]
  cases answer : s.guest.call ask.function arguments s.state s.memory with
  | absent =>
      have heard : s.heard ask.function arguments = [] := by rw [Session.heard, answer]
      rw [answer] at called
      rw [called, heard]
      exact ⟨[], rfl, .stopped _⟩
  | trapped trap state =>
      have heard : s.heard ask.function arguments = [⟨ask.function, arguments, s.memory, none⟩] := by rw [Session.heard, answer]
      rw [answer] at called
      rw [called, heard]
      exact ⟨_, rfl, .failed ask rest _ ⟨rfl, suited⟩ rfl⟩
  | returned value state memory =>
      have heard : s.heard ask.function arguments = [⟨ask.function, arguments, s.memory, some value⟩] := by rw [Session.heard, answer]
      rw [answer] at called
      rw [called, heard]
      dsimp only
      cases accepted : ask.accepts value with
      | false =>
          obtain ⟨fault, recorded, plain⟩ := refused value { s with state, memory } _ accepted
          rw [recorded, plain]
          exact ⟨_, rfl, .failed ask rest _ ⟨rfl, suited⟩ accepted⟩
      | true =>
          obtain ⟨made, same, played⟩ := second value { s with state, memory } _ accepted (.intro state memory answer)
          rw [same, List.append_assoc]
          exact ⟨_, rfl, .next ask rest _ made _ ⟨rfl, suited⟩ accepted played⟩

theorem plays_copying (document : Json) : Plays (copying document) (writeJson document) (writeJson document) s log := by
  unfold writeJson copying
  simp only [List.size_toArray]
  split
  · exact plays_fails _ s log _ _ (fails_abort s log _ _ _)
  · refine plays_call _ s log { function := .malloc, suits := _, accepts := _ } _ _ _ rfl ?_ ?_
    · intro addr after log negative
      have negative : addr < 0 := Int.not_le.mp (of_decide_eq_false negative)
      rw [if_pos negative, if_pos negative]
      exact fails_abort after log _ _ _
    · intro addr after log address _
      have address : 0 ≤ addr := of_decide_eq_true address
      rw [if_neg (Int.not_lt.mpr address), if_neg (Int.not_lt.mpr address)]
      refine plays_get _ after log _ _ ?_
      cases fits : after.memory.write? addr.toNat (Text.encode document.text).toArray with
      | none =>
          simp only [Session.recorded, fits]
          exact plays_fails _ after log _ _ (fails_abort after log _ _ _)
      | some memory =>
          simp only [Session.recorded, fits]
          refine plays_set _ after log { after with memory } _ _ ?_
          obtain ⟨inside, written⟩ := Memory.written_slice _ _ _ _ fits
          rw [List.size_toArray] at inside written
          refine plays_call _ _ log { function := .jsonParse, suits := _, accepts := _ } _ _ _ ?_ ?_ ?_
          · refine ⟨addr.toNat, ?_, inside, written⟩
            rw [Int.toNat_of_nonneg address]
          · intro parsed last log rejected
            have rejected : parsed = 0 := Decidable.not_not.mp (of_decide_eq_false rejected)
            rw [if_pos rejected, if_pos rejected]
            exact fails_abort last log _ _ _
          · intro parsed last log accepted _
            have accepted : parsed ≠ 0 := of_decide_eq_true accepted
            rw [if_neg accepted, if_neg accepted]
            exact plays_pure last log parsed

theorem plays_lift (r : Except Fault String) : Plays [] (readJson.liftExcept r) (readJson.liftExcept r) s log := by
  refine ⟨[], ?_, ?_⟩
  · rw [List.append_nil, lift_run, lift_run]
  · rw [lift_run]
    cases r with
    | error fault => exact .stopped _
    | ok text => exact .done

theorem plays_any (ask : Ask) (arguments : List Int) (f : Int → Run (σ × List Invocation) β) (g : Int → Run σ β)
    (suited : ask.suits arguments s.memory) (any : ∀ value, ask.accepts value = true)
    (second : ∀ value after log, Plays rest (f value) (g value) after log) :
    Plays (ask :: rest) (invoke ask.function arguments >>= f) (invoke ask.function arguments >>= g) s log := by
  refine plays_call rest s log ask arguments f g suited ?_ fun value after log _ _ => second value after log
  intro value after log refused
  rw [any value] at refused
  cases refused

theorem plays_dumping (value : Int) :
    Plays [{ function := .jsonDump }] (readJson value) (readJson value) s log := by
  unfold readJson
  refine plays_any [] s log { function := .jsonDump } _ _ _ trivial (fun _ => rfl) fun addr after log => ?_
  refine plays_get [] after log _ _ ?_
  refine plays_bind [] [] after log _ _ _ _ (plays_lift after log _) fun text last log _ => ?_
  cases Json.parse? text with
  | none => exact plays_fails [] last log _ _ (fails_throw last log _)
  | some document => exact plays_pure last log document

theorem plays_evaluating (entrypoint : String) (id : Int) (input : Json) :
    Plays (evaluating id input) (evaluation entrypoint id input) (evaluation entrypoint id input) s log := by
  unfold evaluation evaluating
  refine plays_bind _ _ s log _ _ _ _ (plays_copying s log _) fun data s log _ => ?_
  refine plays_bind _ _ s log _ _ _ _ (plays_copying s log _) fun own s log _ => ?_
  refine plays_any _ s log { function := .newContext } _ _ _ trivial (fun _ => rfl) fun context s log => ?_
  refine plays_any _ s log { function := .setInput } _ _ _ trivial (fun _ => rfl) fun _ s log => ?_
  refine plays_any _ s log { function := .setData } _ _ _ trivial (fun _ => rfl) fun _ s log => ?_
  refine plays_any _ s log { function := .setEntrypoint, suits := _ } _ _ _ ⟨context, rfl⟩ (fun _ => rfl) fun _ s log => ?_
  refine plays_call _ s log { function := .eval, accepts := _ } _ _ _ trivial ?_ fun status s log zero _ => ?_
  · intro status s log failed
    have failed : status ≠ 0 := of_decide_eq_false failed
    rw [if_pos failed, if_pos failed]
    exact fails_abort s log _ _ _
  · have zero : ¬ status ≠ 0 := Decidable.not_not.mpr (of_decide_eq_true zero)
    rw [if_neg zero, if_neg zero]
    refine plays_any _ s log { function := .getResult } _ _ _ trivial (fun _ => rfl) fun found s log => ?_
    refine plays_bind [_] [] s log _ _ _ _ (plays_dumping s log found) fun document s log _ => ?_
    exact plays_pure s log (firstResult document)

theorem write_json_oversized (document : Json) (large : maxInputBytes < (Text.encode document.text).length) :
    (writeJson document).run.run s = (.error (oversized document), s) := by
  simp only [writeJson, List.size_toArray, if_pos large]
  rfl

theorem plays_oversized (entrypoint : String) (id : Int) (input : Json)
    (large : maxInputBytes < (Text.encode input.text).length) :
    Plays (copying (.obj [])) (evaluation entrypoint id input) (evaluation entrypoint id input) s log := by
  unfold evaluation
  rw [← List.append_nil (copying (.obj []))]
  refine plays_bind _ [] s log _ _ _ _ (plays_copying s log _) fun data s log _ => plays_fails [] s log _ _ ?_
  refine ⟨oversized input, ?_, ?_⟩
  · rw [session_bind, write_json_oversized _ input large]
  · rw [session_bind, write_json_oversized _ input large]

end Steps

def protocol : List Export :=
  [.malloc, .jsonParse, .malloc, .jsonParse, .newContext, .setInput, .setData, .setEntrypoint, .eval, .getResult,
   .jsonDump]

section Evaluations

variable (limits : Limits) (tables : Tables) (start : Except Fault (Instance σ)) (entrypoint : String) (input : Json)

structure Conversation : Prop where
  faithful : evaluate limits tables (start.map Instance.recording) entrypoint input =
    evaluate limits tables start entrypoint input
  unknown : tables.entrypoints.get? entrypoint = none →
    invocations limits tables start entrypoint input = [] ∧
      evaluate limits tables start entrypoint input = .error (.unknownEntrypoint entrypoint tables.entrypoints.keys)
  order : (invocations limits tables start entrypoint input).map Invocation.function <+: protocol
  played : ∀ id fresh, tables.entrypoints.get? entrypoint = some id → start = .ok fresh →
    Played (evaluating id input) (invocations limits tables start entrypoint input)
      (evaluate limits tables start entrypoint input).isOk
  complete : ∀ result, evaluate limits tables start entrypoint input = .ok result →
    (invocations limits tables start entrypoint input).map Invocation.function = protocol
  answered : ∀ result, evaluate limits tables start entrypoint input = .ok result ↔
    ∃ id fresh, tables.entrypoints.get? entrypoint = some id ∧ start = .ok fresh ∧
      Evaluated id input (opened limits tables fresh) result
  halted : maxInputBytes < (Text.encode input.text).length →
    (∃ fault, evaluate limits tables start entrypoint input = .error fault) ∧
      (invocations limits tables start entrypoint input).map Invocation.function <+: [.malloc, .jsonParse]
  told : maxInputBytes < (Text.encode input.text).length → ∀ id fresh data after,
    tables.entrypoints.get? entrypoint = some id → start = .ok fresh →
      Copied (.obj []) data (opened limits tables fresh) after →
        evaluate limits tables start entrypoint input = .error (oversized input)

theorem evaluate_started (id : Int) (fresh : Instance σ) (known : tables.entrypoints.get? entrypoint = some id) :
    evaluate limits tables (.ok fresh) entrypoint input =
      ((evaluation entrypoint id input).run.run (opened limits tables fresh)).1 := by
  rw [evaluate, known]
  rfl

theorem invocations_started (id : Int) (fresh : Instance σ) (known : tables.entrypoints.get? entrypoint = some id) :
    invocations limits tables (.ok fresh) entrypoint input =
      ((evaluation entrypoint id input).run.run ((opened limits tables fresh).recorded [])).2.state.2 := by
  unfold invocations
  rw [known]
  rfl

theorem invocations_played (script : List Ask) (id : Int) (fresh : Instance σ)
    (known : tables.entrypoints.get? entrypoint = some id)
    (plays : Plays script (evaluation entrypoint id input) (evaluation entrypoint id input)
      (opened limits tables fresh) []) :
    Played script (invocations limits tables (.ok fresh) entrypoint input)
      (evaluate limits tables (.ok fresh) entrypoint input).isOk := by
  obtain ⟨made, same, played⟩ := plays
  rw [invocations_started limits tables entrypoint input id fresh known, same,
    evaluate_started limits tables entrypoint input id fresh known]
  exact played

theorem evaluate_answered (result : Option Json) :
    evaluate limits tables start entrypoint input = .ok result ↔
      ∃ id fresh, tables.entrypoints.get? entrypoint = some id ∧ start = .ok fresh ∧
        Evaluated id input (opened limits tables fresh) result := by
  constructor
  · intro done
    cases known : tables.entrypoints.get? entrypoint with
    | none =>
        rw [evaluate, known] at done
        cases done
    | some id =>
        cases start with
        | error fault =>
            rw [evaluate, known] at done
            cases done
        | ok fresh =>
            rw [evaluate_started limits tables entrypoint input id fresh known] at done
            refine ⟨id, fresh, rfl, rfl, (evaluation_ok _ entrypoint id input result).mp ⟨_, Prod.ext done rfl⟩⟩
  · rintro ⟨id, fresh, known, rfl, evaluated⟩
    obtain ⟨after, done⟩ := (evaluation_ok _ entrypoint id input result).mpr evaluated
    rw [evaluate_started limits tables entrypoint input id fresh known, done]

theorem evaluate_recorded :
    evaluate limits tables (start.map Instance.recording) entrypoint input =
      evaluate limits tables start entrypoint input := by
  cases known : tables.entrypoints.get? entrypoint with
  | none => rw [evaluate, evaluate, known]
  | some id =>
      cases start with
      | error fault => rw [evaluate, evaluate, known, Except.map]
      | ok fresh =>
          obtain ⟨made, same, _⟩ := plays_evaluating (opened limits tables fresh) [] entrypoint id input
          rw [evaluate_started limits tables entrypoint input id fresh known, Except.map,
            evaluate_started limits tables entrypoint input id fresh.recording known]
          exact congrArg Prod.fst same

theorem unknown_entrypoint (unknown : tables.entrypoints.get? entrypoint = none) :
    invocations limits tables start entrypoint input = [] ∧
      evaluate limits tables start entrypoint input = .error (.unknownEntrypoint entrypoint tables.entrypoints.keys) := by
  unfold invocations evaluate
  rw [unknown]
  exact ⟨rfl, rfl⟩

theorem invocations_ordered (script : Int → List Ask) (functions : List Export)
    (same : ∀ id, (script id).map Ask.function = functions)
    (plays : ∀ id (s : Session σ),
      Plays (script id) (evaluation entrypoint id input) (evaluation entrypoint id input) s []) :
    (invocations limits tables start entrypoint input).map Invocation.function <+: functions := by
  cases known : tables.entrypoints.get? entrypoint with
  | none =>
      rw [(unknown_entrypoint limits tables start entrypoint input known).1]
      exact List.nil_prefix
  | some id =>
      cases start with
      | error fault =>
          unfold invocations
          rw [known]
          exact List.nil_prefix
      | ok fresh =>
          rw [← same id]
          exact played_functions _ _ _
            (invocations_played limits tables entrypoint input (script id) id fresh known (plays id _))

theorem large_input_halted (large : maxInputBytes < (Text.encode input.text).length) :
    (∃ fault, evaluate limits tables start entrypoint input = .error fault) ∧
      (invocations limits tables start entrypoint input).map Invocation.function <+: [.malloc, .jsonParse] := by
  constructor
  · cases done : evaluate limits tables start entrypoint input with
    | error fault => exact ⟨fault, rfl⟩
    | ok result =>
        obtain ⟨id, fresh, known, started, evaluated⟩ :=
          (evaluate_answered limits tables start entrypoint input result).mp done
        cases evaluated with
        | intro _ _ _ _ _ _ _ _ _ _ _ _ _ _ _ _ _ _ empty copied =>
            cases copied with
            | intro addr given memory after small => omega
  · exact invocations_ordered limits tables start entrypoint input (fun _ => copying (.obj [])) _ (fun _ => rfl)
      fun id s => plays_oversized s [] entrypoint id input large

theorem large_input_told (large : maxInputBytes < (Text.encode input.text).length) (id : Int) (fresh : Instance σ)
    (data : Int) (after : Session σ) (known : tables.entrypoints.get? entrypoint = some id)
    (empty : Copied (.obj []) data (opened limits tables fresh) after) :
    evaluate limits tables (.ok fresh) entrypoint input = .error (oversized input) := by
  rw [evaluate_started limits tables entrypoint input id fresh known]
  unfold evaluation
  rw [session_bind, (write_json_ok _ _ _ _).mpr empty]
  dsimp only
  rw [session_bind, write_json_oversized _ input large]

theorem evaluation_conversation : Conversation limits tables start entrypoint input := by
  have played (id : Int) (fresh : Instance σ) (known : tables.entrypoints.get? entrypoint = some id)
      (started : start = .ok fresh) : Played (evaluating id input) (invocations limits tables start entrypoint input)
        (evaluate limits tables start entrypoint input).isOk := by
    subst started
    exact invocations_played limits tables entrypoint input _ id fresh known (plays_evaluating _ [] entrypoint id input)
  refine ⟨evaluate_recorded limits tables start entrypoint input,
    unknown_entrypoint limits tables start entrypoint input, ?_, played, ?_,
    evaluate_answered limits tables start entrypoint input, large_input_halted limits tables start entrypoint input, ?_⟩
  · exact invocations_ordered limits tables start entrypoint input (fun id => evaluating id input) protocol
      (fun _ => rfl) fun id s => plays_evaluating s [] entrypoint id input
  · intro result done
    obtain ⟨id, fresh, known, started, _⟩ := (evaluate_answered limits tables start entrypoint input result).mp done
    have whole := played id fresh known started
    rw [done] at whole
    exact played_whole _ _ whole
  · intro large id fresh data after known started empty
    subst started
    exact large_input_told limits tables entrypoint input large id fresh data after known empty

-- A guest that evaluates with a status other than zero is not asked for a result.
example :
    let script : Script :=
      { entrypoints := [], builtins := [], result := Text.encode "[]", abortText := [], printText := [], status := 2 }
    (invocations {} ⟨.ofList [("a/allow", 7)], .empty⟩ (script.start {}) "a/allow" .null).map Invocation.function =
      protocol.take 9 := by
  decide +kernel

end Evaluations

end PolicyHost.Wasm
