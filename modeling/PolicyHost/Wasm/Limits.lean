import PolicyHost.Json.Record
import PolicyHost.Wasm.Fault

set_option autoImplicit false

namespace PolicyHost.Wasm

structure Limits where
  memoryBytes : Nat := 67108864
  fuel : Nat := 2000000000
  deriving DecidableEq, Inhabited, Repr

namespace Limits

def maxMemoryBytes : Nat := 1073741824

def minFuel : Nat := 10000

def fault? (l : Limits) : Option Fault :=
  if l.memoryBytes = 0 then some (.invalidLimits "memory_limit_bytes must be > 0")
  else if maxMemoryBytes < l.memoryBytes then
    some (.invalidLimits ("memory_limit_bytes (" ++ toString l.memoryBytes ++ ") exceeds maximum of " ++
      toString maxMemoryBytes ++ " (1 GB)"))
  else if l.fuel < minFuel then
    some (.invalidLimits ("fuel_per_evaluation must be >= " ++ toString minFuel))
  else none

def toJson (l : Limits) : Json :=
  .obj [("fuel_per_evaluation", .nat l.fuel), ("memory_limit_bytes", .nat l.memoryBytes)]

def ofJson? (j : Json) (loose : Bool) : Option Limits := do
  let r ← Json.Record.ofJson? ["memory_limit_bytes", "fuel_per_evaluation"] j loose
  let default : Limits := {}
  let memoryBytes ← r.orElse "memory_limit_bytes" Json.nat? default.memoryBytes
  let fuel ← r.orElse "fuel_per_evaluation" Json.nat? default.fuel
  some { memoryBytes, fuel }

end Limits

end PolicyHost.Wasm
