import PolicyHost.Json.Parser
import PolicyHost.Text.Blank

set_option autoImplicit false

namespace PolicyHost.Toml

open Json (Reader)

def isSpace (c : Char) : Bool := c == ' ' || c == '\t'

def skipSpace (cs : List Char) : List Char := cs.dropWhile isSpace

def isPlain (c : Char) : Bool := c == '\t' || (0x20 ≤ c.toNat && c.toNat ≠ 0x7F)

def newline? : List Char → Option (List Char)
  | '\n' :: rest => some rest
  | '\r' :: '\n' :: rest => some rest
  | _ => none

def codePoint? (digits : List Char) : Option Char := do
  let values ← digits.mapM Json.hexValue
  let n := values.foldl (fun n d => 16 * n + d) 0
  if n < 0xD800 || (0xE000 ≤ n && n < 0x110000) then some (Char.ofNat n) else none

def shortEscape : Char → Option Char
  | 'b' => some '\x08'
  | 'f' => some '\x0c'
  | 'n' => some '\n'
  | 'r' => some '\r'
  | 't' => some '\t'
  | '"' => some '"'
  | '\\' => some '\\'
  | _ => none

def escape? : Reader Char
  | 'u' :: rest =>
      if rest.length < 4 then none else (codePoint? (rest.take 4)).map fun c => (c, rest.drop 4)
  | 'U' :: rest =>
      if rest.length < 8 then none else (codePoint? (rest.take 8)).map fun c => (c, rest.drop 8)
  | c :: rest => (shortEscape c).map fun c => (c, rest)
  | [] => none

def lineString (quote : Char) : Nat → List Char → Reader String
  | 0, _, _ => none
  | fuel + 1, done, c :: rest =>
      if c = quote then some (String.ofList done.reverse, rest)
      else if c = '\\' && quote = '"' then
        match escape? rest with
        | some (e, rest) => lineString quote fuel (e :: done) rest
        | none => none
      else if isPlain c then lineString quote fuel (c :: done) rest
      else none
  | _ + 1, _, [] => none

def continueLine? (cs : List Char) : Option (List Char) :=
  (newline? (skipSpace cs)).map fun rest =>
    rest.dropWhile fun c => isSpace c || c == '\n' || c == '\r'

-- A string of several lines after its opening quotes. Up to two quotes right before the closing three belong to
-- it.
def blockString (quote : Char) : Nat → List Char → Reader String
  | 0, _, _ => none
  | fuel + 1, done, cs =>
      match cs with
      | [] => none
      | c :: rest =>
          if c = quote then
            let run := (cs.takeWhile (· == quote)).length
            if run < 3 then blockString quote fuel (quote :: done) rest
            else if run ≤ 5 then
              some (String.ofList (done.reverse ++ List.replicate (run - 3) quote), cs.drop run)
            else none
          else if c = '\\' && quote = '"' then
            match continueLine? rest with
            | some rest => blockString quote fuel done rest
            | none =>
                match escape? rest with
                | some (e, rest) => blockString quote fuel (e :: done) rest
                | none => none
          else if isPlain c then blockString quote fuel (c :: done) rest
          else
            match newline? cs with
            | some rest => blockString quote fuel ('\n' :: done) rest
            | none => none

def string? (quote : Char) (cs : List Char) : Option (String × List Char) :=
  match cs with
  | a :: b :: rest =>
      if a = quote && b = quote then
        let rest := (newline? rest).getD rest
        blockString quote (rest.length + 1) [] rest
      else lineString quote (cs.length + 1) [] cs
  | _ => lineString quote (cs.length + 1) [] cs

def isBare (c : Char) : Bool := Text.isLetter c || Text.isDigit c || c == '_' || c == '-'

def keyPart? : Reader String
  | [] => none
  | c :: rest =>
      if c = '"' || c = '\'' then lineString c (rest.length + 1) [] rest
      else if isBare c then
        some (String.ofList (c :: rest.takeWhile isBare), rest.dropWhile isBare)
      else none

def key? : Nat → Reader (List String)
  | 0, _ => none
  | fuel + 1, cs =>
      match keyPart? (skipSpace cs) with
      | none => none
      | some (part, rest) =>
          match skipSpace rest with
          | '.' :: rest => (key? fuel rest).map fun (parts, rest) => (part :: parts, rest)
          | rest => some ([part], rest)

def digits? (isOne : Char → Bool) (cs : List Char) : Option (List Char) :=
  let groups := Text.splitOn '_' cs
  if groups.all fun group => !group.isEmpty && group.all isOne then some groups.flatten else none

def maxInteger : Int := Int64.maxValue.toInt

def integerOf (n : Int) : Option Json :=
  if Json.minInteger ≤ n && n ≤ maxInteger then some (.num (.int n)) else none

def inBase? (base : Nat) (cs : List Char) : Option Json := do
  let isOne (c : Char) : Bool := (Json.hexValue c).any (· < base)
  let digits ← digits? isOne cs
  let values ← digits.mapM Json.hexValue
  integerOf (values.foldl (fun n d => base * n + d) 0 : Nat)

def sign : List Char → Bool × List Char
  | '-' :: rest => (true, rest)
  | '+' :: rest => (false, rest)
  | cs => (false, cs)

def wholeDigits? (cs : List Char) : Option (List Char) :=
  (digits? Text.isDigit cs).filter fun digits => digits.length = 1 || digits.head? != some '0'

def exponent? (cs : List Char) : Option (Bool × Nat) :=
  let (negative, cs) := sign cs
  (digits? Text.isDigit cs).map fun digits => (negative, Text.ofDigits digits)

def decimal? (negative : Bool) (cs : List Char) : Option Json :=
  let (mantissa, power) := cs.span fun c => c ≠ 'e' && c ≠ 'E'
  let (whole, fraction) := mantissa.span (· ≠ '.')
  match wholeDigits? whole with
  | none => none
  | some digits =>
      match fraction, power with
      | [], [] =>
          let n : Int := Text.ofDigits digits
          integerOf (if negative then -n else n)
      | _, _ => do
          let fraction ← match fraction with
            | [] => some []
            | _ :: cs => digits? Text.isDigit cs
          let power ← match power with
            | [] => some (false, 0)
            | _ :: cs => exponent? cs
          (Json.floatOf negative digits fraction power).map .num

def number? (cs : List Char) : Option Json :=
  match cs with
  | '0' :: 'x' :: rest => inBase? 16 rest
  | '0' :: 'o' :: rest => inBase? 8 rest
  | '0' :: 'b' :: rest => inBase? 2 rest
  | _ =>
      let (negative, rest) := sign cs
      if rest = "inf".toList || rest = "nan".toList then some .null else decimal? negative rest

def twoDigits? : Reader Nat
  | a :: b :: rest =>
      if Text.isDigit a && Text.isDigit b then some (Text.ofDigits [a, b], rest) else none
  | _ => none

def after? (c : Char) : List Char → Option (List Char)
  | d :: rest => if c = d then some rest else none
  | [] => none

def daysIn (year month : Nat) : Nat :=
  if month = 2 then if (year % 4 = 0 && year % 100 ≠ 0) || year % 400 = 0 then 29 else 28
  else if month = 4 || month = 6 || month = 9 || month = 11 then 30
  else 31

def date? (cs : List Char) : Option (List Char) := do
  let year := cs.take 4
  if year.length = 4 && year.all Text.isDigit then
    let rest ← after? '-' (cs.drop 4)
    let (month, rest) ← twoDigits? rest
    let rest ← after? '-' rest
    let (day, rest) ← twoDigits? rest
    if 1 ≤ month && month ≤ 12 && 1 ≤ day && day ≤ daysIn (Text.ofDigits year) month then some rest else none
  else none

def time? (cs : List Char) : Option (List Char) := do
  let (hour, rest) ← twoDigits? cs
  let rest ← after? ':' rest
  let (minute, rest) ← twoDigits? rest
  let rest ← after? ':' rest
  let (second, rest) ← twoDigits? rest
  if hour ≤ 23 && minute ≤ 59 && second ≤ 60 then
    match rest with
    | '.' :: rest => if (rest.head?.any Text.isDigit) then some (rest.dropWhile Text.isDigit) else none
    | rest => some rest
  else none

def offset? (cs : List Char) : Option (List Char) :=
  match cs with
  | 'Z' :: rest => some rest
  | 'z' :: rest => some rest
  | '+' :: rest => hours rest
  | '-' :: rest => hours rest
  | _ => some cs
where
  hours (cs : List Char) : Option (List Char) := do
    let (hour, rest) ← twoDigits? cs
    let rest ← after? ':' rest
    let (minute, rest) ← twoDigits? rest
    if hour ≤ 23 && minute ≤ 59 then some rest else none

def dateTime? (cs : List Char) : Option (List Char) :=
  (date? cs).bind fun rest =>
    match rest with
    | c :: after =>
        if c = 'T' || c = 't' then (time? after).bind offset?
        else if c = ' ' then
          match time? after with
          | some rest => offset? rest
          | none => some rest
        else some rest
    | [] => some []

def moment? (cs : List Char) : Option (List Char) := (dateTime? cs).or (time? cs)

def isNumberChar (c : Char) : Bool := isBare c || c == '+' || c == '.'

def bareValue? (cs : List Char) : Option (Json × List Char) :=
  match moment? cs with
  | some rest =>
      let text := String.ofList (cs.take (cs.length - rest.length))
      some (.obj [("$__toml_private_datetime", .str text)], rest)
  | none =>
      let (token, rest) := cs.span isNumberChar
      if token = "true".toList then some (.bool true, rest)
      else if token = "false".toList then some (.bool false, rest)
      else (number? token).map fun n => (n, rest)

end PolicyHost.Toml
