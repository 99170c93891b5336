set_option autoImplicit false

namespace PolicyHost.Text

abbrev Bytes := List UInt8

def encode (s : String) : Bytes := s.toUTF8.data.toList

def decode? (bytes : Bytes) : Option String := String.fromUTF8? ⟨bytes.toArray⟩

def isContinuation (b : UInt8) : Bool := 0x80 ≤ b && b ≤ 0xBF

-- The bytes that may follow a lead byte, and how many continuation bytes follow those.
def follow (lead : UInt8) : Option (UInt8 × UInt8 × Nat) :=
  if 0xC2 ≤ lead && lead ≤ 0xDF then some (0x80, 0xBF, 0)
  else if lead == 0xE0 then some (0xA0, 0xBF, 1)
  else if lead == 0xED then some (0x80, 0x9F, 1)
  else if 0xE1 ≤ lead && lead ≤ 0xEF then some (0x80, 0xBF, 1)
  else if lead == 0xF0 then some (0x90, 0xBF, 2)
  else if 0xF1 ≤ lead && lead ≤ 0xF3 then some (0x80, 0xBF, 2)
  else if lead == 0xF4 then some (0x80, 0x8F, 2)
  else none

def continuations : Nat → Bytes → Nat
  | 0, _ => 0
  | _ + 1, [] => 0
  | n + 1, b :: rest => if isContinuation b then 1 + continuations n rest else 0

def sequence (lead : UInt8) (rest : Bytes) : Nat × Bool :=
  if lead < 0x80 then (1, true)
  else match follow lead, rest with
    | some (low, high, more), b :: rest =>
        if low ≤ b && b ≤ high then
          let found := continuations more rest
          (2 + found, found == more)
        else (1, false)
    | _, _ => (1, false)

def decodeSequence : Bytes → Char
  | [a] => Char.ofNat a.toNat
  | [a, b] => Char.ofNat ((a.toNat % 0x20) * 0x40 + b.toNat % 0x40)
  | [a, b, c] => Char.ofNat (((a.toNat % 0x10) * 0x40 + b.toNat % 0x40) * 0x40 + c.toNat % 0x40)
  | [a, b, c, d] =>
      Char.ofNat ((((a.toNat % 0x08) * 0x40 + b.toNat % 0x40) * 0x40 + c.toNat % 0x40) * 0x40 + d.toNat % 0x40)
  | _ => '\uFFFD'

def decodeFrom (done : List Char) (bytes : Bytes) : List Char :=
  match bytes with
  | [] => done.reverse
  | lead :: rest =>
      let (length, complete) := sequence lead rest
      let char := if complete then decodeSequence (lead :: rest.take (length - 1)) else '\uFFFD'
      decodeFrom (char :: done) (rest.drop (length - 1))
  termination_by bytes.length
  decreasing_by simp only [List.length_drop, List.length_cons]; omega

def decodeLossy (bytes : Bytes) : String := String.ofList (decodeFrom [] bytes)

def utf8Length (cs : List Char) : Nat := cs.foldl (fun n c => n + c.utf8Size) 0

end PolicyHost.Text
