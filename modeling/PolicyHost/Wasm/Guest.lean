import PolicyHost.Wasm.Memory

/-!
A guest is a compiled policy at work: functions that the host calls and a memory that both share. Its
state is of any type, so that any behaviour is a guest.
-/

set_option autoImplicit false

namespace PolicyHost.Wasm

inductive Export where
  | builtins
  | entrypoints
  | malloc
  | jsonParse
  | jsonDump
  | newContext
  | setInput
  | setData
  | setEntrypoint
  | eval
  | getResult
  deriving DecidableEq, Inhabited, Repr

def Export.name : Export → String
  | builtins => "builtins"
  | entrypoints => "entrypoints"
  | malloc => "opa_malloc"
  | jsonParse => "opa_json_parse"
  | jsonDump => "opa_json_dump"
  | newContext => "opa_eval_ctx_new"
  | setInput => "opa_eval_ctx_set_input"
  | setData => "opa_eval_ctx_set_data"
  | setEntrypoint => "opa_eval_ctx_set_entrypoint"
  | eval => "eval"
  | getResult => "opa_eval_ctx_get_result"

inductive Trap.Cause where
  | builtin (id : Int)
  | outOfFuel
  | aborted (message : String)
  | other
  deriving DecidableEq, Inhabited, Repr

structure Trap where
  cause : Trap.Cause
  fuelSpent : Bool := false
  growthDenied : Bool := false
  deriving DecidableEq, Inhabited, Repr

inductive CallResult (σ : Type) where
  | absent
  | trapped (trap : Trap) (state : σ)
  | returned (value : Int) (state : σ) (memory : Memory)

structure Guest (σ : Type) where
  call : Export → List Int → σ → Memory → CallResult σ

structure Instance (σ : Type) where
  guest : Guest σ
  state : σ
  memory : Memory

end PolicyHost.Wasm
