import PolicyHost.Archive.Tar
import PolicyHost.Artifact
import PolicyHost.Failure
import PolicyHost.Text.Search

set_option autoImplicit false

namespace PolicyHost

structure Bundle where
  files : List (String × Artifact)
  whole : Bool

namespace Bundle

def ofFiles (files : List (String × Artifact)) : Bundle := ⟨files, true⟩

def missing : Bundle := ⟨[], false⟩

def ofBytes (bytes : Text.Bytes) : Bundle :=
  let (files, whole) := Archive.untar bytes
  ⟨files.map fun (name, content) => (Text.decodeLossy name, .bytes content), whole⟩

def artifactName : String := "policy.wasm"

-- Whether an archived file is the module: its name counts up to a zero character, and without leading `./` and
-- then without leading slashes.
def isArtifactName (name : String) : Bool :=
  let cs := name.toList.takeWhile (· ≠ '\x00')
  (Text.dropCopies "./".toList cs.length cs).dropWhile (· = '/') = artifactName.toList

def artifact (b : Bundle) : Except Failure Artifact :=
  match b.files.find? fun file => isArtifactName file.1 with
  | some (_, artifact) => .ok artifact
  | none =>
      if b.whole then
        .error
          { kind := .artifactLoadError
            message := "bundle does not contain " ++ artifactName
            suggestions := ["check that `opa build -t wasm` is supported by the installed toolchain"] }
      else .error { kind := .artifactLoadError, message := "failed to read bundle" }

end Bundle

end PolicyHost
