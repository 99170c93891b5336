import PolicyHost.Dict
import PolicyHost.Source.Identifier
import PolicyHost.Text.Word

set_option autoImplicit false

namespace PolicyHost.Source

def afterWord? (word : List Char) (cs : List Char) : Option (List Char) :=
  if word.isPrefixOf cs then
    match cs.drop word.length with
    | [] => none
    | c :: rest => if Text.isBlank c then some (Text.skipBlanks rest) else none
  else none

def package? (line : List Char) : Option String :=
  (afterWord? "package".toList (Text.skipBlanks line)).bind fun rest =>
    (dottedPath? rest).map String.ofList

def reserved : List String :=
  ["package", "import", "default", "not", "some", "every", "with", "as", "if", "else", "contains",
   "in", "true", "false", "null"]

def openers : List (List Char) := ["if".toList, "contains".toList]

def opensWith (word cs : List Char) : Bool :=
  word.isPrefixOf cs && Text.wordEnds (cs.drop word.length)

-- A value or a body opens here; a double equals sign is a comparison.
def opensBody : List Char → Bool
  | ':' :: '=' :: _ => true
  | '=' :: '=' :: _ => false
  | '=' :: _ => true
  | '\x7b' :: _ => true
  | cs => openers.any fun word => opensWith word cs

def skipKey (cs : List Char) : List Char :=
  match Text.skipBlanks cs with
  | '[' :: rest =>
      match rest.dropWhile (· ≠ ']') with
      | _ :: rest => Text.skipBlanks rest
      | [] => '[' :: rest
  | cs => cs

-- The part of a name before a final opener, if the name ends with one where no word goes on.
def beforeOpener? (name rest : List Char) : Option (List Char) :=
  openers.findSome? fun word =>
    if word.length < name.length && word.isSuffixOf name && Text.wordEnds rest then
      some (name.take (name.length - word.length))
    else none

def headName? (cs : List Char) : Option (List Char) :=
  (identifier? cs).bind fun (name, rest) =>
    if opensBody (skipKey rest) then some name else beforeOpener? name rest

def anyHead? (line : List Char) : Option (List Char) :=
  ((afterWord? "default".toList line).bind headName?).or (headName? line)

def head? (line : List Char) : Option String :=
  (anyHead? line).bind fun name =>
    let name := String.ofList name
    if name ∈ reserved then none else some name

def numbered (source : String) : List (UInt32 × List Char) :=
  ((Text.lines source.toList).zipIdx 1).filterMap fun (line, n) =>
    if h : n < UInt32.size then some (UInt32.ofNatLT n h, line) else none

def heads (source : String) : List (UInt32 × String) :=
  (numbered source).filterMap fun (n, line) => (head? line).map fun name => (n, name)

def packages (source : String) : NameSet := .ofList ((Text.lines source.toList).filterMap package?)

def rules (source : String) : NameSet := .ofList ((heads source).map Prod.snd)

end PolicyHost.Source
