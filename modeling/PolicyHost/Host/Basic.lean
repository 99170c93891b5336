import PolicyHost.Confinement
import PolicyHost.Config
import PolicyHost.Store
import PolicyHost.Toolchain.Basic

set_option autoImplicit false

namespace PolicyHost

structure Surroundings where
  workspace : Workspace
  toolchain : Toolchain
  runtime : Runtime

inductive Call where
  | version
  | build (request : Toolchain.BuildRequest)
  | explain (request : Toolchain.ExplainRequest)
  | load

structure Host where
  config : Config
  store : Store
  nextOrder : Nat
  -- The version that the toolchain told when it was asked, which happens once.
  probed : Option (Option Version)
  calls : List Call

namespace Host

-- Steps of a request; what a failed step left behind stays.
abbrev Action (α : Type) := ExceptT Failure (StateM Host) α

def new (config : Config) : Except Failure Host := do
  config.check
  return { config, store := .empty, nextOrder := 0, probed := none, calls := [] }

def record (h : Host) (call : Call) : Host := { h with calls := call :: h.calls }

def version? (h : Host) : Option Version := h.probed.join

def updateStore (h : Host) (change : Store → Store) : Host := { h with store := change h.store }

def settled {α : Type} (r : Except Failure α) : Action α := ExceptT.mk (pure r)

end Host

end PolicyHost
