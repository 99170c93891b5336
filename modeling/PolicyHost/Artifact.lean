import PolicyHost.Wasm.Scripted

set_option autoImplicit false

namespace PolicyHost

inductive Artifact where
  | bytes (content : Text.Bytes)
  | scripted (script : Wasm.Script)

namespace Artifact

def header : Text.Bytes := [0x00, 0x61, 0x73, 0x6D, 0x01, 0x00, 0x00, 0x00]

def size : Artifact → Nat
  | bytes content => content.length
  | scripted _ => 0

end Artifact

structure Executable where
  entrypoints : List String
  evaluate : String → Json → Except Wasm.Fault (Option Json)

structure Runtime where
  load : Artifact → Except Wasm.Fault Executable

namespace Runtime

def loadScript (limits : Wasm.Limits) (script : Wasm.Script) : Except Wasm.Fault Executable := do
  let fresh ← script.start limits
  let tables ← Wasm.loadTables limits fresh
  return { entrypoints := tables.entrypoints.keys
           evaluate := Wasm.evaluate limits tables (script.start limits) }

-- Runs modules within limits. Bytes are no policy: they are empty, an empty module, or no module.
def wasm (limits : Wasm.Limits) : Runtime where
  load
    | .scripted script => loadScript limits script
    | .bytes content =>
        if content.isEmpty then
          .error (.compilation "policy binary is empty. Rebuild it with `opa build -t wasm`.")
        else if content = Artifact.header then .error (.abi "policy neither imports nor exports memory")
        else .error (.compilation "failed to compile policy: ")

def answering (entrypoints : List String)
    (evaluate : String → Json → Except Wasm.Fault (Option Json)) : Runtime where
  load _ := .ok { entrypoints, evaluate }

def refusing (fault : Wasm.Fault) : Runtime where
  load _ := .error fault

def failing : Runtime where
  load artifact := .error (.compilation ("mock failure loading " ++ toString artifact.size ++ " byte policy"))

end Runtime

end PolicyHost
