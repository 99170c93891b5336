import PolicyHost.Text.Blank

set_option autoImplicit false

namespace PolicyHost

abbrev Location := List String

structure Path where
  rooted : Bool
  names : List String
  deriving DecidableEq, Inhabited, Repr

namespace Path

def segments (text : String) : List String := (Text.splitOn '/' text.toList).map String.ofList

def isRooted (text : String) : Bool := text.toList.head? = some '/'

def counts (segment : String) : Bool := segment ≠ "" && segment ≠ "."

def ofText (text : String) : Path :=
  let segments := segments text
  let names := segments.filter counts
  { rooted := isRooted text, names := if segments.head? = some "." then "." :: names else names }

def text (p : Path) : String := (if p.rooted then "/" else "") ++ "/".intercalate p.names

instance : ToString Path := ⟨text⟩

def ofLocation (place : Location) : Path := ⟨true, place⟩

def step (place : Location) (segment : String) : Location :=
  if segment = ".." then place.dropLast else if counts segment then place ++ [segment] else place

def follow (place : Location) (segments : List String) : Location := segments.foldl step place

def fromPlace (place : Location) (text : String) : Path :=
  ofLocation (follow (if isRooted text then [] else place) (segments text))

def absolute? (directory : Location) (text : String) : Option Path :=
  if text.isEmpty then none else some (fromPlace directory text)

def isInside (p base : Path) : Bool := p.rooted = base.rooted && base.names.isPrefixOf p.names

end Path

end PolicyHost
