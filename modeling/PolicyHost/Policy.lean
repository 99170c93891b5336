import PolicyHost.Artifact
import PolicyHost.Path
import PolicyHost.Source.LineMap

set_option autoImplicit false

namespace PolicyHost

def saturated (n : Nat) : Nat := min n (UInt64.size - 1)

def pageBytes : Nat := 65536

def heapPerByte : Nat := 2

def estimateMemory (size : Nat) : Nat :=
  saturated (saturated (size + pageBytes) + saturated (size * heapPerByte))

def total (sizes : List Nat) : Nat := sizes.foldl (· + ·) 0

structure Policy where
  path : Path
  packages : NameSet
  rules : NameSet
  size : Nat
  -- Number of the load; later loads have greater ones.
  order : Nat
  source : String
  executable : Executable

structure LoadOutcome where
  path : String
  packages : List String
  rules : List String
  cached : Bool
  size : Nat
  estimate : Nat
  deriving DecidableEq, Inhabited, Repr

namespace LoadOutcome

def toJson (o : LoadOutcome) : Json :=
  .obj [("cached", .bool o.cached), ("estimated_memory_bytes", .nat o.estimate),
    ("namespaces", .strings o.packages), ("path", .str o.path), ("rules", .strings o.rules),
    ("wasm_size_bytes", .nat o.size)]

def fields : List String :=
  ["path", "namespaces", "rules", "cached", "wasm_size_bytes", "estimated_memory_bytes"]

def ofJson? (j : Json) : Option LoadOutcome := do
  let r ← Json.Record.ofJson? fields j false
  let path ← r.required "path" Json.str?
  let packages ← r.required "namespaces" Json.strings?
  let rules ← r.required "rules" Json.strings?
  let cached ← r.required "cached" Json.bool?
  let size ← r.required "wasm_size_bytes" Json.nat?
  let estimate ← r.required "estimated_memory_bytes" Json.nat?
  some { path, packages, rules, cached, size, estimate }

end LoadOutcome

structure PolicySummary where
  path : String
  packages : List String
  rules : List String
  size : Nat
  estimate : Nat
  deriving DecidableEq, Inhabited, Repr

structure PolicyMemory where
  path : String
  size : Nat
  estimate : Nat
  deriving DecidableEq, Inhabited, Repr

namespace PolicyMemory

def toJson (m : PolicyMemory) : Json :=
  .obj [("estimated_memory_bytes", .nat m.estimate), ("path", .str m.path),
    ("wasm_size_bytes", .nat m.size)]

def ofJson? (j : Json) : Option PolicyMemory := do
  let r ← Json.Record.ofJson? ["path", "wasm_size_bytes", "estimated_memory_bytes"] j false
  let path ← r.required "path" Json.str?
  let size ← r.required "wasm_size_bytes" Json.nat?
  let estimate ← r.required "estimated_memory_bytes" Json.nat?
  some { path, size, estimate }

def ofSummary (s : PolicySummary) : PolicyMemory := { path := s.path, size := s.size, estimate := s.estimate }

end PolicyMemory

structure MemoryReport where
  total : Nat
  count : Nat
  policies : List PolicyMemory
  deriving DecidableEq, Inhabited, Repr

namespace MemoryReport

def toJson (r : MemoryReport) : Json :=
  .obj [("policies", .arr (r.policies.map PolicyMemory.toJson)), ("policy_count", .nat r.count),
    ("total_estimated_bytes", .nat r.total)]

def ofJson? (j : Json) : Option MemoryReport := do
  let r ← Json.Record.ofJson? ["total_estimated_bytes", "policy_count", "policies"] j false
  let total ← r.required "total_estimated_bytes" Json.nat?
  let count ← r.required "policy_count" Json.nat?
  let policies ← r.required "policies" (Json.list? PolicyMemory.ofJson?)
  some { total, count, policies }

end MemoryReport

namespace Policy

def estimate (p : Policy) : Nat := estimateMemory p.size

def outcome (p : Policy) (cached : Bool) : LoadOutcome :=
  { path := p.path.text, packages := p.packages.toList, rules := p.rules.toList, cached, size := p.size
    estimate := p.estimate }

def summary (p : Policy) : PolicySummary :=
  { path := p.path.text, packages := p.packages.toList, rules := p.rules.toList, size := p.size
    estimate := p.estimate }

def lineMap (p : Policy) : LineMap := .ofSource p.source

end Policy

end PolicyHost
