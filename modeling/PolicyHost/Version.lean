import PolicyHost.Text.Blank
import PolicyHost.Text.Digit
import PolicyHost.Text.Search
import PolicyHost.Json.Record

set_option autoImplicit false

namespace PolicyHost

structure Version where
  major : UInt32
  minor : UInt32
  patch : UInt32
  deriving DecidableEq, Inhabited, Repr

namespace Version

def chars (v : Version) : List Char :=
  Text.decimal v.major.toNat ++ '.' :: Text.decimal v.minor.toNat ++ '.' :: Text.decimal v.patch.toNat

def text (v : Version) : String := String.ofList v.chars

instance : ToString Version := ⟨text⟩

def ofParts? (major minor patch : List Char) : Option Version := do
  let major ← Text.parseUInt32 major
  let minor ← Text.parseUInt32 minor
  let patch ← Text.parseUInt32 patch
  some ⟨major, minor, patch⟩

-- Three numbers with points between them, after any number of `v` and with blanks around.
def parseChars (cs : List Char) : Option Version :=
  match Text.splitOn '.' ((Text.trim cs).dropWhile (· == 'v')) with
  | [major, minor, patch] => ofParts? major minor patch
  | _ => none

def parse? (s : String) : Option Version := parseChars s.toList

def digitRun (cs : List Char) : Option (List Char × List Char) :=
  match cs.span Text.isDecimal with
  | ([], _) => none
  | (digits, rest) => some (digits, rest)

def lineAt (cs : List Char) : Option (List Char × List Char × List Char) := do
  let rest ← Text.afterPrefix? "Version:".toList cs
  let rest := Text.skipBlanks rest
  let rest := (Text.afterPrefix? ['v'] rest).getD rest
  let (major, rest) ← digitRun rest
  let rest ← Text.afterPrefix? ['.'] rest
  let (minor, rest) ← digitRun rest
  let rest ← Text.afterPrefix? ['.'] rest
  let (patch, _) ← digitRun rest
  some (major, minor, patch)

-- The version of the first version line; none also if that line writes no version.
def find? (output : String) : Option Version :=
  (Text.findAtLineStart lineAt output.toList).bind fun (major, minor, patch) => ofParts? major minor patch

def compare (v w : Version) : Ordering :=
  (Ord.compare v.major w.major).then ((Ord.compare v.minor w.minor).then (Ord.compare v.patch w.patch))

def toJson (v : Version) : Json :=
  .obj [("major", .nat v.major.toNat), ("minor", .nat v.minor.toNat), ("patch", .nat v.patch.toNat)]

def ofJson? (j : Json) : Option Version := do
  let r ← Json.Record.ofJson? ["major", "minor", "patch"] j false
  let major ← r.required "major" Json.uint32?
  let minor ← r.required "minor" Json.uint32?
  let patch ← r.required "patch" Json.uint32?
  some ⟨major, minor, patch⟩

end Version

end PolicyHost
