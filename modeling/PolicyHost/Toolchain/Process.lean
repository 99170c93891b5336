import PolicyHost.Toolchain.Basic

set_option autoImplicit false

namespace PolicyHost.Toolchain

structure Outcome where
  stdout : Text.Bytes := []
  stderr : Text.Bytes := []
  exit : UInt8 := 0
  hangs : Bool := false
  deriving Inhabited

structure Program where
  version : Outcome := {}
  build : Outcome := {}
  explain : Outcome := {}
  bundle : Bundle := .missing

structure Timeouts where
  version : Nat
  build : Nat
  explain : Nat

def maxErrorBytes : Nat := 1048576

def maxSmallOutputBytes : Nat := 1048576

def readable (bytes : Text.Bytes) : String := Text.trimmed (Text.decodeLossy bytes)

def Outcome.capture (o : Outcome) (command : Command) (timeoutMs limit : Nat) : Except Fault Text.Bytes :=
  if o.hangs || timeoutMs = 0 then .error (.timeout command timeoutMs)
  else if limit < o.stdout.length then .error (.outputTooLarge command limit)
  else if o.exit ≠ 0 then
    .error (.failed command ("exit status: " ++ toString o.exit.toNat)
      (readable (o.stderr.take maxErrorBytes)) (readable o.stdout))
  else .ok o.stdout

def Outcome.readVersion (o : Outcome) (timeoutMs : Nat) : Except Fault Version := do
  let output := Text.decodeLossy (← o.capture .version timeoutMs maxSmallOutputBytes)
  match Version.find? output with
  | some version => return version
  | none =>
      .error (.invalidOutput ("no 'Version: X.Y.Z' line in `opa version` output: " ++ Text.trimmed output))

def Outcome.readDocument (o : Outcome) (timeoutMs limit : Nat) : Except Fault Json := do
  let output ← o.capture .explain timeoutMs limit
  match (Text.decode? output).bind Json.parse? with
  | some document => return document
  | none => .error (.invalidOutput "`opa eval` did not print JSON: ")

def running (program : Program) (timeouts : Timeouts) : Toolchain where
  version := program.version.readVersion timeouts.version
  build _ _ := do
    let _ ← program.build.capture .build timeouts.build maxSmallOutputBytes
    return program.bundle
  explain _ request := program.explain.readDocument timeouts.explain request.maxBytes

def missing (binary : String) : Toolchain :=
  answering (.error (.notInstalled binary)) (.error (.notInstalled binary)) (.error (.notInstalled binary))

def versionArguments : List String := [Command.version.name]

def BuildRequest.arguments (r : BuildRequest) : List String :=
  [Command.build.name, "-t", "wasm", "-o", r.output] ++ r.entrypoints.flatMap (fun e => ["-e", e]) ++
    [r.source]

def ExplainRequest.arguments (r : ExplainRequest) : List String :=
  [Command.explain.name, "--format", "json", "--explain", r.level.explainMode, "--data", r.source,
    "--input", r.inputFile, r.query]

end PolicyHost.Toolchain
