import PolicyHost.Json.Basic
import PolicyHost.Number.Shortest
import PolicyHost.Text.Digit
import PolicyHost.Text.Utf8

set_option autoImplicit false

namespace PolicyHost

def signed (n : Int) : List Char :=
  match n with
  | .ofNat n => Text.decimal n
  | .negSucc n => '-' :: Text.decimal (n + 1)

namespace Binary64

def maxWhole : Int := 16

def maxLeadingZeros : Int := 4

def layout (digits : List Char) (power : Int) : List Char :=
  let count : Int := digits.length
  let point := count + power
  if 0 ≤ power && point ≤ maxWhole then digits ++ List.replicate power.toNat '0' ++ ['.', '0']
  else if 0 < point && point ≤ maxWhole then digits.take point.toNat ++ '.' :: digits.drop point.toNat
  else if point ≤ 0 && -maxLeadingZeros ≤ point then
    '0' :: '.' :: List.replicate (-point).toNat '0' ++ digits
  else
    let mantissa := match digits with
      | first :: second :: rest => first :: '.' :: second :: rest
      | _ => digits
    mantissa ++ 'e' :: signed (point - 1)

def chars (x : Binary64) : List Char :=
  let magnitude :=
    if x.isZero then ['0', '.', '0'] else layout (Text.decimal x.shortest.1) x.shortest.2
  if x.negative then '-' :: magnitude else magnitude

end Binary64

namespace Json

def Number.chars : Number → List Char
  | .int n => signed n
  | .float x => x.chars

def hexDigit (n : Nat) : Char := if n < 10 then Char.ofNat (48 + n) else Char.ofNat (87 + n)

def escape (c : Char) : List Char :=
  if c = '"' then ['\\', '"']
  else if c = '\\' then ['\\', '\\']
  else if c.toNat = 8 then ['\\', 'b']
  else if c.toNat = 9 then ['\\', 't']
  else if c.toNat = 10 then ['\\', 'n']
  else if c.toNat = 12 then ['\\', 'f']
  else if c.toNat = 13 then ['\\', 'r']
  else if c.toNat < 32 then ['\\', 'u', '0', '0', hexDigit (c.toNat / 16), hexDigit (c.toNat % 16)]
  else [c]

def quote (s : String) : List Char := '"' :: s.toList.flatMap escape ++ ['"']

mutual

def chars : Json → List Char
  | .null => ['n', 'u', 'l', 'l']
  | .bool true => ['t', 'r', 'u', 'e']
  | .bool false => ['f', 'a', 'l', 's', 'e']
  | .num n => n.chars
  | .str s => quote s
  | .arr items => '[' :: itemChars items ++ [']']
  | .obj members => '\x7b' :: memberChars members ++ ['\x7d']

def itemChars : List Json → List Char
  | [] => []
  | [item] => chars item
  | item :: next :: rest => chars item ++ ',' :: itemChars (next :: rest)

def memberChars : List (String × Json) → List Char
  | [] => []
  | [(name, value)] => quote name ++ ':' :: chars value
  | (name, value) :: next :: rest => quote name ++ ':' :: chars value ++ ',' :: memberChars (next :: rest)

end

def text (j : Json) : String := String.ofList j.chars

def size (j : Json) : Nat := Text.utf8Length j.chars

end Json

end PolicyHost
