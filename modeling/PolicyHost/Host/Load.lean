import PolicyHost.Build.Compile
import PolicyHost.Host.Basic

set_option autoImplicit false

namespace PolicyHost.Host

structure Draft where
  path : Path
  source : String
  packages : NameSet
  rules : NameSet

def unreadable (path : Path) : FileTree.Fault → Failure
  | .notFound =>
      { kind := .fileNotFound
        message := "policy file not found: " ++ path.text
        suggestions := ["check the path and that the file is readable"] }
  | fault =>
      { kind := .fileNotFound
        message := "failed to read policy file " ++ path.text ++ ": " ++ fault.message }

def withoutPackage (path : Path) : Failure :=
  { kind := .invalidNamespace
    message := "no package declaration found in " ++ path.text
    suggestions :=
      ["add a package declaration at the top of the file, e.g. `package authz`"] }

def draft (s : Surroundings) (path : Path) : Except Failure Draft :=
  match s.workspace.tree.read path with
  | .error fault => .error (unreadable path fault)
  | .ok source =>
      let packages := Source.packages source
      if packages.isEmpty then .error (withoutPackage path)
      else .ok { path, source, packages, rules := Source.rules source }

def probe (s : Surroundings) (h : Host) : Host :=
  match h.probed with
  | some _ => h
  | none => { h.record .version with probed := some s.toolchain.version? }

def build (s : Surroundings) (d : Draft) : Action Artifact := do
  let request := Build.request d.path.text d.packages d.rules (← get).config.defaultRule
  modify (·.record (.build request))
  settled (Build.run s.toolchain s.workspace.tree request)

def loadFailure (fault : Wasm.Fault) : Failure :=
  { kind := .artifactLoadError, message := "failed to load compiled policy: " ++ fault.message }

def instantiate (s : Surroundings) (d : Draft) (artifact : Artifact) : Action Policy := do
  modify (·.record .load)
  match s.runtime.load artifact with
  | .error fault => throw (loadFailure fault)
  | .ok executable =>
      let h ← get
      set { h with nextOrder := h.nextOrder + 1 }
      return { path := d.path
               packages := d.packages
               rules := Build.compiledRules d.rules h.config.defaultRule
               size := artifact.size
               order := h.nextOrder
               source := d.source
               executable }

def publishLineMap (policy : Policy) (h : Host) : Host :=
  h.updateStore (·.putLineMap policy.path policy.lineMap)

def publishPolicy (policy : Policy) (h : Host) : Host := h.updateStore (·.putPolicy policy)

def compile (s : Surroundings) (path : Path) : Action Policy := do
  let d ← settled (draft s path)
  modify (probe s)
  let artifact ← build s d
  let policy ← instantiate s d artifact
  modify (publishLineMap policy)
  modify (publishPolicy policy)
  return policy

def load (s : Surroundings) (path : String) (base : Option String) : Action LoadOutcome := do
  let key ← settled (s.workspace.resolve path base)
  match (← get).store.find? key with
  | some policy => return policy.outcome true
  | none => return (← compile s key).outcome false

def unloadKey (s : Surroundings) (path : String) : Path :=
  (Path.absolute? s.workspace.directory path).getD (.ofText path)

def unload (s : Surroundings) (path : String) (h : Host) : Bool × Host :=
  let key := unloadKey s path
  let h := h.updateStore (·.eraseLineMap key)
  ((h.store.find? key).isSome, h.updateStore (·.erasePolicy key))

def clear (h : Host) : Host := (h.updateStore (·.clearPolicies)).updateStore (·.clearLineMaps)

def lineMap (s : Surroundings) (path : String) (h : Host) : LineMap × Host :=
  let key := Path.ofText path
  match h.store.lineMap? key with
  | some m => (m, h)
  | none =>
      let m := match s.workspace.tree.readNamed s.workspace.directory path with
        | .ok source => LineMap.ofSource source
        | .error _ => .empty
      (m, h.updateStore (·.putLineMap key m))

end PolicyHost.Host
