import PolicyHost.Wasm.Session

set_option autoImplicit false

namespace PolicyHost.Wasm

namespace Script

inductive MemorySource where
  | imported
  | exported
  | misnamed
  | missing
  deriving DecidableEq, Inhabited, Repr

inductive Eval where
  | ok
  | entrypointStatus
  | println
  | abort
  | unreachable
  | loop
  | grow
  | builtin (arity : Nat)
  deriving DecidableEq, Inhabited, Repr

end Script

structure Script where
  memory : Script.MemorySource := .imported
  pages : Nat := 2
  tableElements : Nat := 0
  imports : List (String × String) := []
  entrypoints : Text.Bytes
  builtins : Text.Bytes
  result : Text.Bytes
  abortText : Text.Bytes
  printText : Text.Bytes
  builtinsAddr : Int := 8192
  entrypointsAddr : Int := 1024
  resultAddr : Int := 16384
  abortAddr : Int := 32768
  printAddr : Int := 36864
  -- The address that every allocation gives, instead of the next free one.
  malloc : Option Int := none
  -- The number of the parse that is rejected.
  reject : Option Nat := none
  returnsInput : Bool := false
  status : Int := 0
  eval : Script.Eval := .ok
  growPages : Int := 1
  builtinId : Int := 7
  missing : List String := []
  trapIn : List String := []

namespace Script

def heapStart : Int := 65536

def contextAddr : Int := 4096

def maxTableElements : Nat := 10000

def hostFunctions : List String :=
  ["opa_abort", "opa_println", "opa_builtin0", "opa_builtin1", "opa_builtin2", "opa_builtin3",
   "opa_builtin4"]

structure State where
  heap : Int := heapStart
  parses : Nat := 0
  input : Int := 0
  entrypoint : Int := 0
  deriving DecidableEq, Inhabited, Repr

def segments (s : Script) : List (Nat × Array UInt8) :=
  [(1024, s.entrypoints), (8192, s.builtins), (16384, s.result), (32768, s.abortText),
   (36864, s.printText)].map fun (addr, bytes) => (addr, (bytes ++ [0]).toArray)

def grown? (limits : Limits) (memory : Memory) (pages : Int) : Option Memory :=
  let size := memory.size + pages.toNat * Memory.pageBytes
  if 0 ≤ pages && size ≤ limits.memoryBytes then some { memory with size } else none

def runEval (s : Script) (limits : Limits) (state : State) (memory : Memory) : CallResult State :=
  match s.eval with
  | .ok => .returned s.status state memory
  | .println => .returned s.status state memory
  | .entrypointStatus => .returned state.entrypoint state memory
  | .abort =>
      let message := match memory.readText s.abortAddr with
        | .ok text => text
        | .error _ => "<unreadable abort message>"
      .trapped { cause := .aborted message } state
  | .unreachable => .trapped { cause := .other } state
  | .loop => .trapped { cause := .outOfFuel, fuelSpent := true } state
  | .grow =>
      match grown? limits memory s.growPages with
      | some memory => .returned 0 state memory
      | none => .trapped { cause := .other, growthDenied := true } state
  | .builtin _ => .trapped { cause := .builtin s.builtinId } state

def call (s : Script) (limits : Limits) (f : Export) (arguments : List Int) (state : State)
    (memory : Memory) : CallResult State :=
  if f.name ∈ s.missing then .absent
  else if f.name ∈ s.trapIn then .trapped { cause := .other } state
  else match f, arguments with
    | .builtins, _ => .returned s.builtinsAddr state memory
    | .entrypoints, _ => .returned s.entrypointsAddr state memory
    | .malloc, count :: _ =>
        .returned (s.malloc.getD state.heap) { state with heap := state.heap + count + 1 } memory
    | .jsonParse, addr :: _ =>
        let parses := state.parses + 1
        .returned (if s.reject = some parses then 0 else addr) { state with parses } memory
    | .jsonDump, addr :: _ => .returned addr state memory
    | .newContext, _ => .returned contextAddr state memory
    | .setInput, _ :: input :: _ => .returned 0 { state with input } memory
    | .setEntrypoint, _ :: entrypoint :: _ => .returned 0 { state with entrypoint } memory
    | .eval, _ => s.runEval limits state memory
    | .getResult, _ => .returned (if s.returnsInput then state.input else s.resultAddr) state memory
    | _, _ => .returned 0 state memory

def guest (s : Script) (limits : Limits) : Guest State := ⟨s.call limits⟩

def importFault? : String × String → Option Fault
  | ("env", "memory") => some (.abi "env.memory is not declared as a memory")
  | ("env", name) =>
      if name ∈ hostFunctions then none
      else some (.abi ("policy imports unknown host function 'env::" ++ name ++ "'"))
  | (source, name) => some (.abi ("unexpected import '" ++ source ++ "::" ++ name ++ "'"))

def initialMemory? (s : Script) : Option Memory :=
  s.segments.foldlM (fun m segment => m.write? segment.1 segment.2) (Memory.ofPages s.pages)

def start (s : Script) (limits : Limits) : Except Fault (Instance State) :=
  let tooLarge := limits.memoryBytes < s.pages * Memory.pageBytes
  let failed : Except Fault (Instance State) := .error (.abi "failed to instantiate policy: ")
  match s.memory with
  | .missing => .error (.abi "policy neither imports nor exports memory")
  | .misnamed => .error (.abi "env.memory is not declared as a memory")
  | source =>
      if source = .imported ∧ tooLarge then .error (.abi "failed to allocate policy memory: ")
      else match s.imports.findSome? importFault? with
        | some fault => .error fault
        | none =>
            if tooLarge ∨ ¬ s.imports.isEmpty ∨ maxTableElements < s.tableElements then failed
            else match s.initialMemory? with
              | some memory => .ok { guest := s.guest limits, state := {}, memory }
              | none => failed

end Script

end PolicyHost.Wasm
