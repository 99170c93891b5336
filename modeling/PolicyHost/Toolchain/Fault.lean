set_option autoImplicit false

namespace PolicyHost.Toolchain

inductive Command where
  | version
  | build
  | explain
  deriving DecidableEq, Inhabited, Repr

def Command.name : Command → String
  | version => "version"
  | build => "build"
  | explain => "eval"

inductive Fault where
  | notInstalled (binary : String)
  | failed (command : Command) (status stderr stdout : String)
  | timeout (command : Command) (ms : Nat)
  | outputTooLarge (command : Command) (limit : Nat)
  | invalidOutput (detail : String)
  | io (detail : String)
  deriving DecidableEq, Inhabited, Repr

def fraction (thousandths : Nat) : String :=
  if thousandths = 0 then ""
  else if thousandths % 100 = 0 then "." ++ toString (thousandths / 100)
  else if thousandths % 10 = 0 then
    "." ++ toString (thousandths / 100) ++ toString (thousandths / 10 % 10)
  else "." ++ toString (thousandths / 100) ++ toString (thousandths / 10 % 10) ++ toString (thousandths % 10)

def duration (ms : Nat) : String :=
  if ms = 0 then "0ns"
  else if ms < 1000 then toString ms ++ "ms"
  else toString (ms / 1000) ++ fraction (ms % 1000) ++ "s"

namespace Fault

def call (command : Command) : String := "`opa " ++ command.name ++ "` "

def message : Fault → String
  | notInstalled binary => "toolchain executable '" ++ binary ++ "' was not found"
  | failed command status stderr _ => call command ++ "failed (" ++ status ++ "): " ++ stderr
  | timeout command ms => call command ++ "timed out after " ++ duration ms
  | outputTooLarge command limit =>
      call command ++ "produced more than " ++ toString limit ++ " bytes of output"
  | invalidOutput detail => "unexpected toolchain output: " ++ detail
  | io detail => "I/O error running toolchain: " ++ detail

def retryable : Fault → Bool
  | timeout _ _ => true
  | io _ => true
  | _ => false

def retryHint : String := "the toolchain failure may be transient; retry the request"

def installHints : List String :=
  ["install OPA: https://www.openpolicyagent.org/docs/latest/#running-opa",
   "or set WARDEN_OPA_BINARY to the full path of the opa executable"]

end Fault

end PolicyHost.Toolchain
