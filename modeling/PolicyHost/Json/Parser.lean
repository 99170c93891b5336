import PolicyHost.Json.Basic
import PolicyHost.Text.Digit

set_option autoImplicit false

namespace PolicyHost.Json

abbrev Reader (α : Type) := List Char → Option (α × List Char)

def maxDepth : Nat := 127

def isSpace (c : Char) : Bool := c == ' ' || c == '\n' || c == '\t' || c == '\r'

def skipSpace (cs : List Char) : List Char := cs.dropWhile isSpace

def takeDigits (cs : List Char) : List Char × List Char := cs.span Text.isDigit

def absorb (significand : Nat) : List Char → Nat × List Char
  | [] => (significand, [])
  | d :: rest =>
      let next := 10 * significand + Text.digitValue d
      if next ≤ maxInteger then absorb next rest else (significand, d :: rest)

-- Greatest exponent that is read as it stands; a greater one makes any number zero or too large.
def maxExponentText : Nat := Int32.size / 2 - 1

def readExponent (cs : List Char) : Option ((Bool × Nat) × List Char) :=
  let (negative, cs) := match cs with
    | '-' :: rest => (true, rest)
    | '+' :: rest => (false, rest)
    | _ => (false, cs)
  let (digits, rest) := takeDigits cs
  if digits.isEmpty then none else some ((negative, Text.ofDigits digits), rest)

def floatOf (negative : Bool) (whole fraction : List Char) (exponent : Bool × Nat) : Option Number :=
  let (significand, dropped) := absorb 0 whole
  let (significand, unread) := absorb significand fraction
  let shift : Int := (dropped.length : Int) - ((fraction.length - unread.length : Nat) : Int)
  let value :=
    if maxExponentText < exponent.2 then
      if significand ≠ 0 && !exponent.1 then none else some (Binary64.zero negative)
    else
      let power : Int := if exponent.1 then -(exponent.2 : Int) else exponent.2
      Binary64.ofDecimal negative significand (shift + power)
  value.map .float

-- An integer, if 64 bits hold it; minus zero is a float.
def integerOf (negative : Bool) (digits : List Char) : Option Number :=
  let n := Text.ofDigits digits
  if negative then
    if 0 < n && minInteger ≤ -(n : Int) then some (.int (-(n : Int)))
    else floatOf true digits [] (false, 0)
  else if n ≤ maxInteger then some (.int n)
  else floatOf false digits [] (false, 0)

def readFraction : List Char → Option (Option (List Char) × List Char)
  | '.' :: rest =>
      let (digits, rest) := takeDigits rest
      if digits.isEmpty then none else some (some digits, rest)
  | cs => some (none, cs)

def readPower : List Char → Option (Option (Bool × Nat) × List Char)
  | c :: rest =>
      if c = 'e' || c = 'E' then (readExponent rest).map fun (e, rest) => (some e, rest)
      else some (none, c :: rest)
  | [] => some (none, [])

def readUnsigned (negative : Bool) : Reader Number := fun cs => do
  let (whole, rest) := takeDigits cs
  if whole.isEmpty || (whole.length > 1 && whole.head? == some '0') then none
  else
    let (fraction, rest) ← readFraction rest
    let (power, rest) ← readPower rest
    let number ← match fraction, power with
      | none, none => integerOf negative whole
      | _, _ => floatOf negative whole (fraction.getD []) (power.getD (false, 0))
    some (number, rest)

def readNumber : Reader Number
  | '-' :: rest => readUnsigned true rest
  | cs => readUnsigned false cs

def hexValue (c : Char) : Option Nat :=
  if '0' ≤ c && c ≤ '9' then some (c.toNat - 48)
  else if 'a' ≤ c && c ≤ 'f' then some (c.toNat - 87)
  else if 'A' ≤ c && c ≤ 'F' then some (c.toNat - 55)
  else none

def hex4 (a b c d : Char) : Option Nat := do
  let a ← hexValue a
  let b ← hexValue b
  let c ← hexValue c
  let d ← hexValue d
  some (((a * 16 + b) * 16 + c) * 16 + d)

def shortEscape : Char → Option Char
  | '"' => some '"'
  | '\\' => some '\\'
  | '/' => some '/'
  | 'b' => some '\x08'
  | 'f' => some '\x0c'
  | 'n' => some '\n'
  | 'r' => some '\r'
  | 't' => some '\t'
  | _ => none

def joinSurrogates (high low : Nat) : Char := Char.ofNat (0x10000 + (high - 0xD800) * 0x400 + (low - 0xDC00))

def readStringFrom (done : List Char) : List Char → Option (String × List Char)
  | '"' :: rest => some (String.ofList done.reverse, rest)
  | '\\' :: 'u' :: a :: b :: c :: d :: rest =>
      match hex4 a b c d with
      | none => none
      | some unit =>
          if 0xD800 ≤ unit && unit < 0xDC00 then
            match rest with
            | '\\' :: 'u' :: e :: f :: g :: h :: rest =>
                match hex4 e f g h with
                | some low =>
                    if 0xDC00 ≤ low && low < 0xE000 then readStringFrom (joinSurrogates unit low :: done) rest
                    else none
                | none => none
            | _ => none
          else if 0xDC00 ≤ unit && unit < 0xE000 then none
          else readStringFrom (Char.ofNat unit :: done) rest
  | '\\' :: c :: rest =>
      match shortEscape c with
      | some c => readStringFrom (c :: done) rest
      | none => none
  | c :: rest => if c.toNat < 32 then none else readStringFrom (c :: done) rest
  | [] => none

def readItems {α : Type} (item : Reader α) (close : Char) : Nat → Reader (List α)
  | 0, _ => none
  | fuel + 1, cs =>
      match item (skipSpace cs) with
      | none => none
      | some (first, rest) =>
          match skipSpace rest with
          | [] => none
          | c :: rest =>
              if c = ',' then
                (readItems item close fuel rest).map fun (items, rest) => (first :: items, rest)
              else if c = close then some ([first], rest)
              else none

def readSequence {α : Type} (item : Reader α) (close : Char) (fuel : Nat) : Reader (List α) := fun cs =>
  match skipSpace cs with
  | c :: rest => if c = close then some ([], rest) else readItems item close fuel (c :: rest)
  | [] => none

def readMember (value : Reader Json) : Reader (String × Json)
  | '"' :: rest =>
      match readStringFrom [] rest with
      | some (name, rest) =>
          match skipSpace rest with
          | ':' :: rest => (value (skipSpace rest)).map fun (v, rest) => ((name, v), rest)
          | _ => none
      | none => none
  | _ => none

def readValue (fuel : Nat) : Nat → Reader Json
  | _, 'n' :: 'u' :: 'l' :: 'l' :: rest => some (.null, rest)
  | _, 't' :: 'r' :: 'u' :: 'e' :: rest => some (.bool true, rest)
  | _, 'f' :: 'a' :: 'l' :: 's' :: 'e' :: rest => some (.bool false, rest)
  | _, '"' :: rest => (readStringFrom [] rest).map fun (s, rest) => (.str s, rest)
  | 0, '[' :: _ => none
  | 0, '\x7b' :: _ => none
  | depth + 1, '[' :: rest =>
      (readSequence (readValue fuel depth) ']' fuel rest).map fun (items, rest) => (.arr items, rest)
  | depth + 1, '\x7b' :: rest =>
      (readSequence (readMember (readValue fuel depth)) '\x7d' fuel rest).map
        fun (members, rest) => (.ofMembers members, rest)
  | _, cs => (readNumber cs).map fun (n, rest) => (.num n, rest)

def parseChars (cs : List Char) : Option Json :=
  match readValue (cs.length + 1) maxDepth (skipSpace cs) with
  | some (value, rest) => if (skipSpace rest).isEmpty then some value else none
  | none => none

def parse? (text : String) : Option Json := parseChars text.toList

end PolicyHost.Json
