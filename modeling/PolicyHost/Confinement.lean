import PolicyHost.Failure
import PolicyHost.FileTree

set_option autoImplicit false

namespace PolicyHost

structure Workspace where
  tree : FileTree
  directory : Location

namespace Workspace

def absolute (w : Workspace) (text : String) : Except Failure Path :=
  match Path.absolute? w.directory text with
  | some path => .ok path
  | none =>
      .error
        { kind := .invalidInput
          message := "cannot resolve path " ++ text ++ ": cannot make an empty path absolute" }

def outside (text : String) (base : Path) : Failure :=
  { kind := .pathSecurityError
    message := "policy path " ++ text ++ " resolves outside the allowed directory " ++ base.text
    suggestions := ["use a path inside the allowed directory without '..' segments"] }

def escapes (w : Workspace) (path base : Path) : Bool :=
  match w.tree.locate path, w.tree.locate base with
  | .ok place, .ok allowed => !(allowed.isPrefixOf place)
  | _, _ => false

def confined (w : Workspace) (text : String) (base : Path) : Except Failure Path :=
  let path := Path.fromPlace base.names text
  if path.isInside base && !(w.escapes path base) then .ok path else .error (outside text base)

def resolve (w : Workspace) (text : String) (base : Option String) : Except Failure Path :=
  match base with
  | none => w.absolute text
  | some base => do w.confined text (← w.absolute base)

end Workspace

end PolicyHost
