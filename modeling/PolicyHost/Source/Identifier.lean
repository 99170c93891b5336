import PolicyHost.Text.Blank
import PolicyHost.Text.Digit

set_option autoImplicit false

namespace PolicyHost.Source

def startsIdentifier (c : Char) : Bool := Text.isLetter c || c == '_'

def continuesIdentifier (c : Char) : Bool := startsIdentifier c || Text.isDigit c

def isIdentifier : List Char → Bool
  | [] => false
  | c :: rest => startsIdentifier c && rest.all continuesIdentifier

def isDottedPath (cs : List Char) : Bool := (Text.splitOn '.' cs).all isIdentifier

def identifier? : List Char → Option (List Char × List Char)
  | [] => none
  | c :: rest =>
      if startsIdentifier c then
        some (c :: rest.takeWhile continuesIdentifier, rest.dropWhile continuesIdentifier)
      else none

def dottedFrom (done : List Char) : List Char → List Char
  | [] => done.reverse
  | '.' :: c :: rest => if startsIdentifier c then dottedFrom (c :: '.' :: done) rest else done.reverse
  | c :: rest => if continuesIdentifier c then dottedFrom (c :: done) rest else done.reverse

def dottedPath? : List Char → Option (List Char)
  | [] => none
  | c :: rest => if startsIdentifier c then some (dottedFrom [c] rest) else none

end PolicyHost.Source
