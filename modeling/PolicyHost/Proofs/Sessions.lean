import PolicyHost.Proofs.Memory
import PolicyHost.Wasm.Session

set_option autoImplicit false

namespace PolicyHost.Wasm

variable {σ α β : Type}

section Steps

variable (s after : Session σ)

theorem session_bind (x : Run σ α) (next : α → Run σ β) :
    (x >>= next).run.run s =
      match x.run.run s with
      | (.ok a, s) => (next a).run.run s
      | (.error fault, s) => (.error fault, s) := by
  change (ExceptT.bindCont next (x s).1) (x s).2 = _
  generalize outcome : x s = r
  obtain ⟨result, after⟩ := r
  have same : x.run.run s = (result, after) := outcome
  rw [same]
  cases result <;> rfl

theorem session_throw (fault : Fault) : (throw fault : Run σ α).run.run s = (.error fault, s) := rfl

theorem session_pure (a : α) : (pure a : Run σ α).run.run s = (.ok a, s) := rfl

theorem session_get : (get : Run σ (Session σ)).run.run s = (.ok s, s) := rfl

theorem session_set : (set after : Run σ PUnit).run.run s = (.ok ⟨⟩, after) := rfl

theorem bind_ok (x : Run σ α) (next : α → Run σ β) (b : β) :
    (x >>= next).run.run s = (.ok b, after) ↔
      ∃ a between, x.run.run s = (.ok a, between) ∧ (next a).run.run between = (.ok b, after) := by
  rw [session_bind]
  generalize x.run.run s = outcome
  obtain ⟨result, between⟩ := outcome
  cases result with
  | error fault =>
      constructor
      · rintro ⟨⟩
      · rintro ⟨_, _, ⟨⟩, _⟩
  | ok a =>
      constructor
      · exact fun done => ⟨a, between, rfl, done⟩
      · rintro ⟨_, _, same, done⟩
        cases same
        exact done

theorem invoke_run (f : Export) (arguments : List Int) :
    (invoke f arguments).run.run s =
      match s.guest.call f arguments s.state s.memory with
      | .absent => (.error (.abi ("missing or mistyped export '" ++ f.name ++ "': ")), s)
      | .trapped trap state => (.error (classify s.limits s.builtins f trap), { s with state })
      | .returned value state memory => (.ok value, { s with state, memory }) := by
  simp only [invoke, session_bind, session_get]
  cases s.guest.call f arguments s.state s.memory <;> rfl

end Steps

inductive Returns (f : Export) (arguments : List Int) (value : Int) (s : Session σ) : Session σ → Prop where
  | intro (state : σ) (memory : Memory)
      (answer : s.guest.call f arguments s.state s.memory = .returned value state memory) :
      Returns f arguments value s { s with state, memory }

-- A document of an allowed size that the guest makes room for and takes over.
inductive Copied (document : Json) (parsed : Int) (s : Session σ) : Session σ → Prop where
  | intro (addr : Int) (given : Session σ) (memory : Memory) (after : Session σ)
      (small : (Text.encode document.text).length ≤ maxInputBytes)
      (room : Returns .malloc [((Text.encode document.text).length : Int)] addr s given) (address : 0 ≤ addr)
      (fits : given.memory.write? addr.toNat (Text.encode document.text).toArray = some memory)
      (taken : Returns .jsonParse [addr, ((Text.encode document.text).length : Int)] parsed { given with memory } after)
      (accepted : parsed ≠ 0) : Copied document parsed s after

inductive Dumped (value : Int) (document : Json) (s : Session σ) : Session σ → Prop where
  | intro (addr : Int) (text : String) (after : Session σ) (written : Returns .jsonDump [value] addr s after)
      (held : after.memory.Holds addr text) (parsed : Json.parse? text = some document) : Dumped value document s after

inductive Gives : Json → Option Json → Prop where
  | first (item : Json) (rest : List Json) : Gives (.arr (item :: rest)) (item.get? "result")
  | other (document : Json) (shapeless : ∀ item rest, document ≠ .arr (item :: rest)) : Gives document none

theorem gives_iff (document : Json) (result : Option Json) :
    Gives document result ↔ firstResult document = result := by
  constructor
  · intro gives
    cases gives with
    | first item rest => rfl
    | other _ shapeless =>
        unfold firstResult
        split
        · next item rest => exact absurd rfl (shapeless item rest)
        · rfl
  · rintro rfl
    unfold firstResult
    split
    · next item rest => exact .first item rest
    · next shapeless => exact .other document shapeless

inductive Evaluated (id : Int) (input : Json) (s : Session σ) : Option Json → Prop where
  | intro (data own context found : Int) (document : Json) (result : Option Json) (a b c d e f g h last : Session σ)
      (x y z : Int)
      (empty : Copied (.obj []) data s a) (copied : Copied input own a b) (made : Returns .newContext [] context b c)
      (withInput : Returns .setInput [context, own] x c d) (withData : Returns .setData [context, data] y d e)
      (withEntry : Returns .setEntrypoint [context, id] z e f) (ran : Returns .eval [context] 0 f g)
      (got : Returns .getResult [context] found g h) (dumped : Dumped found document h last)
      (gives : Gives document result) : Evaluated id input s result

section Success

variable (s after : Session σ)

theorem invoke_ok (f : Export) (arguments : List Int) (value : Int) :
    (invoke f arguments).run.run s = (.ok value, after) ↔ Returns f arguments value s after := by
  rw [invoke_run]
  constructor
  · intro done
    cases answer : s.guest.call f arguments s.state s.memory with
    | returned result state memory =>
        rw [answer] at done
        cases done
        exact .intro state memory answer
    | _ =>
        rw [answer] at done
        cases done
  · rintro ⟨state, memory, answer⟩
    rw [answer]

theorem write_json_ok (document : Json) (parsed : Int) :
    (writeJson document).run.run s = (.ok parsed, after) ↔ Copied document parsed s after := by
  simp only [writeJson, List.size_toArray]
  constructor
  · intro done
    split at done
    · rw [session_bind, session_throw] at done
      cases done
    · next small =>
        obtain ⟨addr, given, room, done⟩ := (bind_ok _ _ _ _ _).mp done
        split at done
        · rw [session_bind, session_throw] at done
          cases done
        · next address =>
            rw [session_bind, session_get] at done
            dsimp only at done
            split at done
            · rw [session_bind, session_throw] at done
              cases done
            · next memory fits =>
                rw [session_bind, session_set] at done
                obtain ⟨value, last, taken, done⟩ := (bind_ok _ _ _ _ _).mp done
                split at done
                · rw [session_bind, session_throw] at done
                  cases done
                · next accepted =>
                    rw [session_pure] at done
                    cases done
                    exact .intro addr given memory after (by omega) ((invoke_ok _ _ _ _ _).mp room) (by omega) fits
                      ((invoke_ok _ _ _ _ _).mp taken) accepted
  · rintro ⟨addr, given, memory, _, small, room, address, fits, taken, accepted⟩
    rw [if_neg (by omega)]
    refine (bind_ok _ _ _ _ _).mpr ⟨addr, given, (invoke_ok _ _ _ _ _).mpr room, ?_⟩
    rw [if_neg (by omega), session_bind, session_get]
    simp only [fits]
    rw [session_bind, session_set]
    refine (bind_ok _ _ _ _ _).mpr ⟨parsed, after, (invoke_ok _ _ _ _ _).mpr taken, ?_⟩
    rw [if_neg accepted, session_pure]

theorem lift_run (r : Except Fault String) : (readJson.liftExcept r : Run σ String).run.run s = (r, s) := by
  cases r <;> rfl

theorem read_json_ok (value : Int) (document : Json) :
    (readJson value).run.run s = (.ok document, after) ↔ Dumped value document s after := by
  unfold readJson
  constructor
  · intro done
    obtain ⟨addr, last, written, done⟩ := (bind_ok _ _ _ _ _).mp done
    rw [session_bind, session_get] at done
    obtain ⟨text, between, read, done⟩ := (bind_ok _ _ _ _ _).mp done
    rw [lift_run] at read
    obtain ⟨held, same⟩ := Prod.mk.inj read
    subst same
    cases parsed : Json.parse? text with
    | none =>
        rw [parsed, session_throw] at done
        cases done
    | some found =>
        rw [parsed, session_pure] at done
        cases done
        exact .intro addr text after ((invoke_ok _ _ _ _ _).mp written)
          ((Memory.read_text_holds _ _ _).mp held) parsed
  · rintro ⟨addr, text, _, written, held, parsed⟩
    refine (bind_ok _ _ _ _ _).mpr ⟨addr, after, (invoke_ok _ _ _ _ _).mpr written, ?_⟩
    rw [session_bind, session_get]
    refine (bind_ok _ _ _ _ _).mpr ⟨text, after, ?_, ?_⟩
    · rw [lift_run, (Memory.read_text_holds _ _ _).mpr held]
    · rw [parsed, session_pure]

theorem evaluation_ok (entrypoint : String) (id : Int) (input : Json) (result : Option Json) :
    (∃ after, (evaluation entrypoint id input).run.run s = (.ok result, after)) ↔ Evaluated id input s result := by
  unfold evaluation
  constructor
  · rintro ⟨_, done⟩
    obtain ⟨data, a, empty, done⟩ := (bind_ok _ _ _ _ _).mp done
    obtain ⟨own, b, copied, done⟩ := (bind_ok _ _ _ _ _).mp done
    obtain ⟨context, c, made, done⟩ := (bind_ok _ _ _ _ _).mp done
    obtain ⟨_, d, withInput, done⟩ := (bind_ok _ _ _ _ _).mp done
    obtain ⟨_, e, withData, done⟩ := (bind_ok _ _ _ _ _).mp done
    obtain ⟨_, f, withEntry, done⟩ := (bind_ok _ _ _ _ _).mp done
    obtain ⟨status, g, ran, done⟩ := (bind_ok _ _ _ _ _).mp done
    split at done
    · rw [session_bind, session_throw] at done
      cases done
    · next zero =>
        obtain ⟨found, h, got, done⟩ := (bind_ok _ _ _ _ _).mp done
        obtain ⟨document, last, dumped, done⟩ := (bind_ok _ _ _ _ _).mp done
        rw [session_pure] at done
        cases done
        rw [Decidable.not_not] at zero
        rw [zero] at ran
        simp only [write_json_ok, invoke_ok, read_json_ok] at empty copied made withInput withData withEntry ran got dumped
        exact .intro data own context found document _ a b c d e f g h _ _ _ _ empty copied made withInput withData
          withEntry ran got dumped ((gives_iff document _).mpr rfl)
  · rintro ⟨data, own, context, found, document, _, a, b, c, d, e, f, g, h, last, x, y, z, empty, copied, made, withInput,
      withData, withEntry, ran, got, dumped, gives⟩
    refine ⟨last, ?_⟩
    refine (bind_ok _ _ _ _ _).mpr ⟨data, a, (write_json_ok _ _ _ _).mpr empty, ?_⟩
    refine (bind_ok _ _ _ _ _).mpr ⟨own, b, (write_json_ok _ _ _ _).mpr copied, ?_⟩
    refine (bind_ok _ _ _ _ _).mpr ⟨context, c, (invoke_ok _ _ _ _ _).mpr made, ?_⟩
    refine (bind_ok _ _ _ _ _).mpr ⟨x, d, (invoke_ok _ _ _ _ _).mpr withInput, ?_⟩
    refine (bind_ok _ _ _ _ _).mpr ⟨y, e, (invoke_ok _ _ _ _ _).mpr withData, ?_⟩
    refine (bind_ok _ _ _ _ _).mpr ⟨z, f, (invoke_ok _ _ _ _ _).mpr withEntry, ?_⟩
    refine (bind_ok _ _ _ _ _).mpr ⟨0, g, (invoke_ok _ _ _ _ _).mpr ran, ?_⟩
    rw [if_neg (Decidable.not_not.mpr rfl)]
    refine (bind_ok _ _ _ _ _).mpr ⟨found, h, (invoke_ok _ _ _ _ _).mpr got, ?_⟩
    refine (bind_ok _ _ _ _ _).mpr ⟨document, last, (read_json_ok _ _ _ _).mpr dumped, ?_⟩
    rw [session_pure, (gives_iff document _).mp gives]

end Success

end PolicyHost.Wasm
