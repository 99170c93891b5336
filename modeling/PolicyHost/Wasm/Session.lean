import PolicyHost.Json.Parser
import PolicyHost.Json.Printer
import PolicyHost.Wasm.Guest
import PolicyHost.Wasm.Limits

set_option autoImplicit false

namespace PolicyHost.Wasm

def maxInputBytes : Nat := 1048576

structure Tables where
  entrypoints : Dict Int
  builtins : Dict Int

structure Session (σ : Type) extends Instance σ where
  limits : Limits
  builtins : Dict Int

abbrev Run (σ α : Type) := ExceptT Fault (StateM (Session σ)) α

-- The name of a builtin by its number: of several names for it, the last.
def builtinName (builtins : Dict Int) (id : Int) : String :=
  match builtins.entries.findRev? fun entry => entry.2 = id with
  | some (name, _) => name
  | none => "#" ++ toString id

def trapText : Trap.Cause → String
  | .aborted message => "opa_abort: " ++ message
  | _ => ""

-- The fault that a trap amounts to: a missing builtin, then spent fuel, then denied memory, and else the trap
-- itself.
def classify (limits : Limits) (builtins : Dict Int) (f : Export) (trap : Trap) : Fault :=
  match trap.cause with
  | .builtin id => .unsupportedBuiltin (builtinName builtins id)
  | cause =>
      if cause = .outOfFuel ∨ trap.fuelSpent then .outOfFuel limits.fuel
      else if trap.growthDenied then .memoryExceeded limits.memoryBytes
      else .evaluation ("'" ++ f.name ++ "' trapped: " ++ trapText cause)

variable {σ : Type}

def invoke (f : Export) (arguments : List Int) : Run σ Int := do
  let s ← get
  match s.guest.call f arguments s.state s.memory with
  | .absent => throw (.abi ("missing or mistyped export '" ++ f.name ++ "': "))
  | .trapped trap state => do
      set { s with state }
      throw (classify s.limits s.builtins f trap)
  | .returned value state memory => do
      set { s with state, memory }
      return value

def writeJson (value : Json) : Run σ Int := do
  let bytes := (Text.encode value.text).toArray
  if maxInputBytes < bytes.size then
    throw (.invalidInput ("serialized input (" ++ toString bytes.size ++ " bytes) exceeds maximum of " ++
      toString maxInputBytes ++ " bytes"))
  let addr ← invoke .malloc [(bytes.size : Int)]
  if addr < 0 then throw (.abi ("opa_malloc returned negative address " ++ toString addr))
  let s ← get
  match s.memory.write? addr.toNat bytes with
  | none => throw (.memoryExceeded s.limits.memoryBytes)
  | some memory => set { s with memory }
  let parsed ← invoke .jsonParse [addr, (bytes.size : Int)]
  if parsed = 0 then throw (.invalidInput "policy runtime rejected the input JSON")
  return parsed

def readJson (addr : Int) : Run σ Json := do
  let textAddr ← invoke .jsonDump [addr]
  let s ← get
  let text ← liftExcept (s.memory.readText textAddr)
  match Json.parse? text with
  | some value => return value
  | none => throw (.invalidOutput "policy emitted invalid JSON: ")
where
  liftExcept (r : Except Fault String) : Run σ String :=
    match r with
    | .ok text => pure text
    | .error fault => throw fault

def int32? (j : Json) : Option Int :=
  j.int?.bind fun n => if -2147483648 ≤ n && n ≤ 2147483647 then some n else none

def table? : Json → Option (Dict Int)
  | .obj members =>
      (members.mapM fun (m : String × Json) => (int32? m.2).map fun n => (m.1, n)).map Dict.ofList
  | _ => none

def readTable (f : Export) : Run σ (Dict Int) := do
  let addr ← invoke f []
  let value ← readJson addr
  match table? value with
  | some table => return table
  | none => throw (.abi (f.name ++ "() is not a name->id map: "))

def tables : Run σ Tables := do
  let builtins ← readTable .builtins
  let entrypoints ← readTable .entrypoints
  if entrypoints.isEmpty then throw (.abi "module exports no entrypoints")
  return { entrypoints, builtins }

def loadTables (limits : Limits) (fresh : Instance σ) : Except Fault Tables :=
  (tables.run { fresh with limits, builtins := .empty }).1

def describeStatus (status : Int) : String :=
  if status = 1 then "internal error"
  else if status = 2 then "invalid type"
  else if status = 3 then "invalid path"
  else "unknown error"

def firstResult : Json → Option Json
  | .arr (first :: _) => first.get? "result"
  | _ => none

def evaluation (entrypoint : String) (id : Int) (input : Json) : Run σ (Option Json) := do
  let data ← writeJson (.obj [])
  let inputAddr ← writeJson input
  let context ← invoke .newContext []
  let _ ← invoke .setInput [context, inputAddr]
  let _ ← invoke .setData [context, data]
  let _ ← invoke .setEntrypoint [context, id]
  let status ← invoke .eval [context]
  if status ≠ 0 then
    throw (.evaluation ("eval of '" ++ entrypoint ++ "' returned status " ++ toString status ++ " (" ++
      describeStatus status ++ ")"))
  let result ← invoke .getResult [context]
  let results ← readJson result
  return firstResult results

def evaluate (limits : Limits) (tables : Tables) (start : Except Fault (Instance σ))
    (entrypoint : String) (input : Json) : Except Fault (Option Json) :=
  match tables.entrypoints.get? entrypoint with
  | none => .error (.unknownEntrypoint entrypoint tables.entrypoints.keys)
  | some id =>
      match start with
      | .error fault => .error fault
      | .ok fresh => ((evaluation entrypoint id input).run { fresh with limits, builtins := tables.builtins }).1

end PolicyHost.Wasm
