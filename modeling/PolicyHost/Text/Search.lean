set_option autoImplicit false

namespace PolicyHost.Text

variable {α : Type}

def findAnywhere (p : List Char → Option α) : List Char → Option α
  | [] => p []
  | c :: rest =>
      match p (c :: rest) with
      | some found => some found
      | none => findAnywhere p rest

def findAfterBreak (p : List Char → Option α) : List Char → Option α
  | [] => none
  | c :: rest =>
      if c = '\n' then
        match p rest with
        | some found => some found
        | none => findAfterBreak p rest
      else findAfterBreak p rest

def findAtLineStart (p : List Char → Option α) (cs : List Char) : Option α :=
  match p cs with
  | some found => some found
  | none => findAfterBreak p cs

def afterPrefix? (word cs : List Char) : Option (List Char) :=
  if word.isPrefixOf cs then some (cs.drop word.length) else none

def dropCopies (word : List Char) : Nat → List Char → List Char
  | 0, cs => cs
  | fuel + 1, cs =>
      match afterPrefix? word cs with
      | some rest => dropCopies word fuel rest
      | none => cs

end PolicyHost.Text
