import PolicyHost.Path
import PolicyHost.Text.Utf8

/-!
File trees with directories, files and symbolic links. `FileTree.walk?` follows a path from a place,
through every link, to a file or a directory. Only what stands at its place on the way counts, so a tree
is any assignment of nodes to places.
-/

set_option autoImplicit false

namespace PolicyHost

inductive FileTree.Node where
  | directory
  | file (content : Text.Bytes)
  | link (target : String)
  deriving DecidableEq, Inhabited, Repr

-- The node at each place but the root, which is a directory.
structure FileTree where
  nodes : List (Location × FileTree.Node)
  deriving DecidableEq, Inhabited, Repr

namespace FileTree

inductive Fault where
  | notFound
  | notDirectory
  | isDirectory
  | tooManyLinks
  | notText
  | zeroCharacter
  deriving DecidableEq, Inhabited, Repr

def Fault.message : Fault → String
  | notFound => "No such file or directory (os error 2)"
  | notDirectory => "Not a directory (os error 20)"
  | isDirectory => "Is a directory (os error 21)"
  | tooManyLinks => "Too many levels of symbolic links (os error 40)"
  | notText => "stream did not contain valid UTF-8"
  | zeroCharacter => "file name contained an unexpected NUL byte"

def empty : FileTree := ⟨[]⟩

def get? (t : FileTree) (place : Location) : Option Node :=
  if place.isEmpty then some .directory else t.nodes.lookup place

def set (t : FileTree) (place : Location) (node : Node) : FileTree :=
  ⟨(place, node) :: t.nodes.filter fun entry => entry.1 ≠ place⟩

def erase (t : FileTree) (place : Location) : FileTree :=
  ⟨t.nodes.filter fun entry => entry.1 ≠ place⟩

inductive Progress where
  | arrived (place : Location)
  | link (place : Location) (target : String) (rest : List String)
  | failed (fault : Fault)

def advance (t : FileTree) (place : Location) : List String → Progress
  | [] => .arrived place
  | segment :: rest =>
      if segment = ".." then t.advance place.dropLast rest
      else if Path.counts segment then
        match t.get? (place ++ [segment]) with
        | none => .failed .notFound
        | some .directory => t.advance (place ++ [segment]) rest
        | some (.file _) => if rest.isEmpty then .arrived (place ++ [segment]) else .failed .notDirectory
        | some (.link target) => .link place target rest
      else t.advance place rest

def origin (place : Location) (text : String) : Location := if Path.isRooted text then [] else place

def walkFrom (t : FileTree) : Nat → Location → List String → Except Fault Location
  | links, place, segments =>
      match t.advance place segments with
      | .arrived place => .ok place
      | .failed fault => .error fault
      | .link place target rest =>
          match links with
          | 0 => .error .tooManyLinks
          | links + 1 => t.walkFrom links (origin place target) (Path.segments target ++ rest)

def maxLinks : Nat := 40

def walk? (t : FileTree) (directory : Location) (segments : List String) : Except Fault Location :=
  if segments.any fun segment => segment.toList.contains '\x00' then .error .zeroCharacter
  else t.walkFrom maxLinks directory segments

def textAt (t : FileTree) (place : Location) : Except Fault String :=
  match t.get? place with
  | some (.file content) =>
      match Text.decode? content with
      | some text => .ok text
      | none => .error .notText
  | some .directory => .error .isDirectory
  | _ => .error .notFound

def locate (t : FileTree) (p : Path) : Except Fault Location := t.walk? [] p.names

def read (t : FileTree) (p : Path) : Except Fault String := do t.textAt (← t.locate p)

-- The text of the file that a text names as seen from a directory. A slash at its end asks for a directory.
def readNamed (t : FileTree) (directory : Location) (text : String) : Except Fault String :=
  if text.isEmpty then .error .notFound
  else do t.textAt (← t.walk? (origin directory text) (Path.segments text))

def makeFrom (t : FileTree) (links : Nat) (place : Location) :
    List String → Option (FileTree × Location)
  | [] => some (t, place)
  | segment :: rest =>
      if segment = ".." then t.makeFrom links place.dropLast rest
      else if Path.counts segment then
        let next := place ++ [segment]
        match t.get? next with
        | none => (t.set next .directory).makeFrom links next rest
        | some .directory => t.makeFrom links next rest
        | some (.file _) => none
        | some (.link target) =>
            match t.walkFrom links (origin place target) (Path.segments target) with
            | .ok there => if t.get? there = some .directory then t.makeFrom links there rest else none
            | .error _ => none
      else t.makeFrom links place rest

def makeDirectory? (t : FileTree) (directory : Location) (text : String) : Option (FileTree × Location) :=
  t.makeFrom maxLinks (origin directory text) (Path.segments text)

def writeAt (t : FileTree) (content : Text.Bytes) : Nat → Location → String → Option FileTree
  | links, place, name =>
      let there := place ++ [name]
      match t.get? there with
      | none => some (t.set there (.file content))
      | some (.file _) => some (t.set there (.file content))
      | some .directory => none
      | some (.link target) =>
          match links with
          | 0 => none
          | links + 1 =>
              let segments := (Path.segments target).filter Path.counts
              match segments.getLast?, t.walkFrom links (origin place target) segments.dropLast with
              | some name, .ok place => t.writeAt content links place name
              | _, _ => none

def parent? (t : FileTree) (directory : Location) (text : String) :
    Option (FileTree × Location × String) :=
  let segments := (Path.segments text).filter Path.counts
  match segments.getLast?, t.makeFrom maxLinks (origin directory text) segments.dropLast with
  | some name, some (t, place) => if name = ".." then none else some (t, place, name)
  | _, _ => none

def write? (t : FileTree) (directory : Location) (text : String) (content : Text.Bytes) : Option FileTree :=
  match t.parent? directory text with
  | some (t, place, name) => t.writeAt content maxLinks place name
  | none => none

def link? (t : FileTree) (directory : Location) (text target : String) : Option FileTree :=
  match t.parent? directory text with
  | some (t, place, name) =>
      if (t.get? (place ++ [name])).isSome then none else some (t.set (place ++ [name]) (.link target))
  | none => none

def remove? (t : FileTree) (directory : Location) (text : String) : Option FileTree :=
  let segments := (Path.segments text).filter Path.counts
  match segments.getLast?, t.walkFrom maxLinks (origin directory text) segments.dropLast with
  | some name, .ok place =>
      match t.get? (place ++ [name]) with
      | some .directory => none
      | none => none
      | some _ => some (t.erase (place ++ [name]))
  | _, _ => none

end FileTree

end PolicyHost
