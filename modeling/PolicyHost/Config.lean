import PolicyHost.Failure
import PolicyHost.Toml.Document
import PolicyHost.Version
import PolicyHost.Wasm.Limits

set_option autoImplicit false

namespace PolicyHost

structure Config where
  binary : String := "opa"
  buildTimeoutMs : Nat := 30000
  evalTimeoutMs : Nat := 10000
  versionTimeoutMs : Nat := 5000
  defaultRule : String := "allow"
  maxInstanceBytes : Nat := 52428800
  minVersion : String := "0.40.0"
  traceBufferMinBytes : Nat := 8388608
  traceBufferMultiplier : Nat := 16
  defaultTraceBytes : Nat := 262144
  wasm : Wasm.Limits := {}
  deriving DecidableEq, Inhabited, Repr

namespace Config

def maxTimeoutMs : Nat := 600000

def maxSize : Nat := UInt64.size - 1

def traceBufferBytes (c : Config) (budget : Nat) : Nat :=
  max (min (budget * c.traceBufferMultiplier) maxSize) c.traceBufferMinBytes

def fault (message : String) : Failure :=
  { kind := .invalidInput, message, suggestions := ["check the engine configuration"] }

def checkTimeout (name : String) (ms : Nat) : Except Failure Unit :=
  if ms = 0 then .error (fault (name ++ " must be > 0"))
  else if maxTimeoutMs < ms then
    .error (fault (name ++ " (" ++ toString ms ++ ") exceeds maximum of " ++ toString maxTimeoutMs ++
      " (10 minutes)"))
  else .ok ()

def checkPositive (name : String) (n : Nat) : Except Failure Unit :=
  if n = 0 then .error (fault (name ++ " must be > 0")) else .ok ()

def checkFilled (name text : String) : Except Failure Unit :=
  if text.isEmpty then .error (fault (name ++ " must not be empty")) else .ok ()

def checkVersion (text : String) : Except Failure Unit :=
  if (Version.parse? text).isSome then .ok ()
  else .error (fault ("min_toolchain_version '" ++ text ++ "' is not of the form X.Y.Z"))

def checkLimits (limits : Wasm.Limits) : Except Failure Unit :=
  match limits.fault? with
  | some f => .error (fault f.message)
  | none => .ok ()

def check (c : Config) : Except Failure Unit := do
  checkFilled "opa_binary" c.binary
  checkTimeout "build_timeout_ms" c.buildTimeoutMs
  checkTimeout "eval_timeout_ms" c.evalTimeoutMs
  checkTimeout "version_timeout_ms" c.versionTimeoutMs
  checkFilled "default_rule" (Text.trimmed c.defaultRule)
  checkPositive "trace_buffer_min_bytes" c.traceBufferMinBytes
  checkPositive "trace_buffer_multiplier" c.traceBufferMultiplier
  checkPositive "default_trace_max_bytes" c.defaultTraceBytes
  checkVersion c.minVersion
  checkLimits c.wasm

def toJson (c : Config) : Json :=
  .obj [("build_timeout_ms", .nat c.buildTimeoutMs), ("default_rule", .str c.defaultRule),
    ("default_trace_max_bytes", .nat c.defaultTraceBytes), ("eval_timeout_ms", .nat c.evalTimeoutMs),
    ("max_instance_memory_bytes", .nat c.maxInstanceBytes), ("min_toolchain_version", .str c.minVersion),
    ("opa_binary", .str c.binary), ("trace_buffer_min_bytes", .nat c.traceBufferMinBytes),
    ("trace_buffer_multiplier", .nat c.traceBufferMultiplier),
    ("version_timeout_ms", .nat c.versionTimeoutMs), ("wasm", c.wasm.toJson)]

def fields : List String :=
  ["opa_binary", "build_timeout_ms", "eval_timeout_ms", "version_timeout_ms", "default_rule",
   "max_instance_memory_bytes", "min_toolchain_version", "trace_buffer_min_bytes",
   "trace_buffer_multiplier", "default_trace_max_bytes", "wasm"]

def ofJson? (j : Json) (loose : Bool) : Option Config := do
  let r ← Json.Record.ofJson? fields j loose
  let default : Config := {}
  let binary ← r.orElse "opa_binary" Json.str? default.binary
  let buildTimeoutMs ← r.orElse "build_timeout_ms" Json.nat? default.buildTimeoutMs
  let evalTimeoutMs ← r.orElse "eval_timeout_ms" Json.nat? default.evalTimeoutMs
  let versionTimeoutMs ← r.orElse "version_timeout_ms" Json.nat? default.versionTimeoutMs
  let defaultRule ← r.orElse "default_rule" Json.str? default.defaultRule
  let maxInstanceBytes ← r.orElse "max_instance_memory_bytes" Json.nat? default.maxInstanceBytes
  let minVersion ← r.orElse "min_toolchain_version" Json.str? default.minVersion
  let traceBufferMinBytes ← r.orElse "trace_buffer_min_bytes" Json.nat? default.traceBufferMinBytes
  let traceBufferMultiplier ←
    r.orElse "trace_buffer_multiplier" Json.nat? default.traceBufferMultiplier
  let defaultTraceBytes ← r.orElse "default_trace_max_bytes" Json.nat? default.defaultTraceBytes
  let wasm ← r.orElse "wasm" (Wasm.Limits.ofJson? · loose) default.wasm
  some
    { binary, buildTimeoutMs, evalTimeoutMs, versionTimeoutMs, defaultRule, maxInstanceBytes
      minVersion, traceBufferMinBytes, traceBufferMultiplier, defaultTraceBytes, wasm }

-- The configuration in a TOML document, checked. Of an array in place of a record, further items do not count.
def ofToml (text : String) : Except Failure Config := do
  let some c := (Toml.parse? text).bind (ofJson? · true) | .error (fault "invalid engine config: ")
  c.check
  return c

def ofEnvironment (lookup : String → Option String) : Config :=
  let default : Config := {}
  let number (name : String) (otherwise : Nat) : Nat :=
    ((lookup name).bind fun text => Text.parseUInt64 text.toList).getD otherwise
  { default with
    binary := (lookup "WARDEN_OPA_BINARY").getD default.binary
    buildTimeoutMs := number "WARDEN_BUILD_TIMEOUT_MS" default.buildTimeoutMs
    evalTimeoutMs := number "WARDEN_EVAL_TIMEOUT_MS" default.evalTimeoutMs
    maxInstanceBytes := number "WARDEN_MAX_INSTANCE_MEMORY_BYTES" default.maxInstanceBytes }

end Config

end PolicyHost
