import PolicyHost.Policy

set_option autoImplicit false

namespace PolicyHost

structure Store where
  policies : List Policy
  lineMaps : List (Path × LineMap)

namespace Store

def empty : Store := ⟨[], []⟩

instance : Inhabited Store := ⟨empty⟩

def find? (s : Store) (path : Path) : Option Policy := s.policies.find? fun p => p.path = path

def lineMap? (s : Store) (path : Path) : Option LineMap := s.lineMaps.lookup path

def putPolicy (s : Store) (policy : Policy) : Store :=
  { s with policies := s.policies.filter (fun p => p.path ≠ policy.path) ++ [policy] }

def putLineMap (s : Store) (path : Path) (m : LineMap) : Store :=
  { s with lineMaps := s.lineMaps.filter (fun entry => entry.1 ≠ path) ++ [(path, m)] }

def erasePolicy (s : Store) (path : Path) : Store :=
  { s with policies := s.policies.filter fun p => p.path ≠ path }

def eraseLineMap (s : Store) (path : Path) : Store :=
  { s with lineMaps := s.lineMaps.filter fun entry => entry.1 ≠ path }

def clearPolicies (s : Store) : Store := { s with policies := [] }

def clearLineMaps (s : Store) : Store := { s with lineMaps := [] }

def inOrder (s : Store) : List Policy := s.policies.mergeSort fun p q => p.order ≤ q.order

def size (s : Store) : Nat := s.policies.length

def earliest? : List Policy → Option Policy
  | [] => none
  | p :: rest =>
      match earliest? rest with
      | some q => some (if q.order < p.order then q else p)
      | none => some p

def declares (package : Option String) (p : Policy) : Bool :=
  match package with
  | some name => decide (name ∈ p.packages)
  | none => true

def findByPackage? (s : Store) (package : Option String) : Option Policy :=
  earliest? (s.policies.filter (declares package))

def packages (s : Store) : NameSet := .ofList (s.policies.flatMap fun p => p.packages.toList)

def totalMemory (s : Store) : Nat := total (s.policies.map Policy.estimate)

def summaries (s : Store) : List PolicySummary := s.inOrder.map Policy.summary

def memoryReport (s : Store) : MemoryReport :=
  let policies := s.summaries.map PolicyMemory.ofSummary
  { total := total (policies.map PolicyMemory.estimate), count := policies.length, policies }

end Store

end PolicyHost
