import PolicyHost.FileTree
import PolicyHost.Json.Parser
import PolicyHost.Json.Printer
import PolicyHost.Toolchain.Bundle
import PolicyHost.Toolchain.Fault
import PolicyHost.Trace.Basic
import PolicyHost.Version

/-!
The toolchain as the host sees it: three calls, each of which gives a result or a fault. Builds and
explanations read the policy from the file tree, so both are functions of the tree at the time of the
call.
-/

set_option autoImplicit false

namespace PolicyHost

namespace Toolchain

structure BuildRequest where
  source : String
  entrypoints : List String
  output : String
  deriving DecidableEq, Inhabited, Repr

structure ExplainRequest where
  source : String
  inputFile : String
  input : Json
  query : String
  level : Trace.Level
  maxBytes : Nat

def ExplainRequest.readInput? (r : ExplainRequest) : Option Json := Json.parse? r.input.text

end Toolchain

structure Toolchain where
  version : Except Toolchain.Fault Version
  build : FileTree → Toolchain.BuildRequest → Except Toolchain.Fault Bundle
  explain : FileTree → Toolchain.ExplainRequest → Except Toolchain.Fault Json

namespace Toolchain

def temporary : String := "<temporary>"

def answering (version : Except Fault Version) (bundle : Except Fault Bundle)
    (document : Except Fault Json) : Toolchain where
  version := version
  build _ _ := bundle
  explain _ _ := document

def version? (toolchain : Toolchain) : Option Version := toolchain.version.toOption

end Toolchain

end PolicyHost
