import PolicyHost.Decision
import PolicyHost.Host.Target

set_option autoImplicit false

namespace PolicyHost.Host

def moduleFailure (fault : Wasm.Fault) : Failure :=
  match fault with
  | .invalidInput detail =>
      { kind := .invalidInput, message := detail
        suggestions := ["keep the input document under 1 MB"] }
  | .unknownEntrypoint name available =>
      { kind := .invalidRule, message := "entrypoint '" ++ name ++ "' was not compiled into the policy"
        suggestions := ["available entrypoints: " ++ Wasm.commaList available] }
  | .unsupportedBuiltin _ =>
      (Failure.evaluation fault.message).suggest
        "evaluate with a trace to run the policy through the toolchain"
  | .compilation _ => { kind := .artifactLoadError, message := fault.message }
  | .abi _ => { kind := .artifactLoadError, message := fault.message }
  | .invalidLimits _ => { kind := .artifactLoadError, message := fault.message }
  | _ => .evaluation fault.message

def evaluate (h : Host) (input : Json) (package rule : Option String) : Except Failure Verdict := do
  let target ← h.target package rule
  match target.policy.executable.evaluate target.entrypoint input with
  | .ok result => return .ofResult target.package target.rule result
  | .error fault => .error (moduleFailure fault)

end PolicyHost.Host
