import PolicyHost.Build.Diagnostic
import PolicyHost.Build.Entrypoint
import PolicyHost.Toolchain.Basic

set_option autoImplicit false

namespace PolicyHost.Build

open Toolchain (Fault BuildRequest)

def compilation (message : String) (suggestions : List String) : Failure :=
  { kind := .compilationError, message, suggestions }

def faultFailure (source : String) : Fault → Failure
  | .notInstalled binary =>
      compilation ("policy toolchain '" ++ binary ++ "' is not installed or not on PATH") Fault.installHints
  | .failed _ _ stderr _ => diagnose source stderr
  | .timeout _ ms =>
      compilation ("policy compilation timed out after " ++ toString ms ++ "ms")
        ["raise WARDEN_BUILD_TIMEOUT_MS for very large policies"]
  | fault => compilation ("policy compilation failed: " ++ fault.message) []

def failureOf (source : String) (fault : Fault) : Failure :=
  let failure := faultFailure source fault
  if fault.retryable then failure.suggest Fault.retryHint else failure

def request (source : String) (packages rules : NameSet) (defaultRule : String) : BuildRequest :=
  { source, entrypoints := entrypoints packages rules defaultRule, output := Toolchain.temporary }

def run (toolchain : Toolchain) (tree : FileTree) (request : BuildRequest) : Except Failure Artifact :=
  match toolchain.build tree request with
  | .error fault => .error (failureOf request.source fault)
  | .ok bundle => bundle.artifact

end PolicyHost.Build
