/-!
What can go wrong when a compiled policy is loaded or evaluated. Where a message ends in a colon and a
blank, what follows is up to the engine below and is left out.
-/

set_option autoImplicit false

namespace PolicyHost.Wasm

inductive Fault where
  | invalidLimits (detail : String)
  | compilation (detail : String)
  | abi (detail : String)
  | unknownEntrypoint (name : String) (available : List String)
  | invalidInput (detail : String)
  | evaluation (detail : String)
  | unsupportedBuiltin (name : String)
  | outOfFuel (budget : Nat)
  | memoryExceeded (limit : Nat)
  | invalidOutput (detail : String)
  deriving DecidableEq, Inhabited, Repr

def commaList (items : List String) : String := ", ".intercalate items

namespace Fault

def message : Fault → String
  | invalidLimits detail => "invalid WASM runtime config: " ++ detail
  | compilation detail => "WASM compilation error: " ++ detail
  | abi detail => "policy module does not follow the OPA WASM ABI: " ++ detail
  | unknownEntrypoint name available =>
      "entrypoint '" ++ name ++ "' not found. Available entrypoints: " ++ commaList available
  | invalidInput detail => "invalid policy input: " ++ detail
  | evaluation detail => "policy evaluation error: " ++ detail
  | unsupportedBuiltin name =>
      "policy requires builtin '" ++ name ++ "' which this runtime does not provide. " ++
        "Use the toolchain's eval mode for policies depending on it."
  | outOfFuel budget =>
      "policy evaluation exhausted its fuel budget of " ++ toString budget ++
        " units. Consider raising fuel_per_evaluation."
  | memoryExceeded limit =>
      "policy evaluation exceeded memory limit of " ++ toString limit ++
        " bytes. Consider increasing memory_limit_bytes."
  | invalidOutput detail => "invalid policy output: " ++ detail

end Fault

end PolicyHost.Wasm
