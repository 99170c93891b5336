import PolicyHost.Archive.Inflate

set_option autoImplicit false

namespace PolicyHost.Archive

open Text (Bytes)

structure Stream where
  content : Bytes
  sound : Bool

namespace Gzip

def littleEndian (bytes : Bytes) : Nat := bytes.foldr (fun b n => b.toNat + 256 * n) 0

def afterText? : Bytes → Option Bytes
  | [] => none
  | b :: rest => if b = 0 then some rest else afterText? rest

def drop? (count : Nat) (bytes : Bytes) : Option Bytes :=
  if count ≤ bytes.length then some (bytes.drop count) else none

def skip? (present : Bool) (skip : Bytes → Option Bytes) (bytes : Bytes) : Option Bytes :=
  if present then skip bytes else some bytes

def afterExtra? (bytes : Bytes) : Option Bytes :=
  (drop? 2 bytes).bind (drop? (littleEndian (bytes.take 2)))

def afterHeader? : Bytes → Option Bytes
  | 0x1F :: 0x8B :: 8 :: flags :: rest => do
      if 32 ≤ flags then none
      let rest ← drop? 6 rest
      let rest ← skip? (flags.toNat.testBit 2) afterExtra? rest
      let rest ← skip? (flags.toNat.testBit 3) afterText? rest
      let rest ← skip? (flags.toNat.testBit 4) afterText? rest
      skip? (flags.toNat.testBit 1) (drop? 2) rest
  | _ => none

def checkBit (sum : UInt32) : UInt32 := if sum &&& 1 = 1 then (sum >>> 1) ^^^ 0xEDB88320 else sum >>> 1

def checkByte (sum : UInt32) (b : UInt8) : UInt32 :=
  (List.range 8).foldl (fun sum _ => checkBit sum) (sum ^^^ b.toUInt32)

def checksum (bytes : Bytes) : UInt32 := bytes.foldl checkByte 0xFFFFFFFF ^^^ 0xFFFFFFFF

def fits (content tail : Bytes) : Bool :=
  8 ≤ tail.length && littleEndian (tail.take 4) == (checksum content).toNat &&
    littleEndian ((tail.drop 4).take 4) == content.length % 4294967296

end Gzip

def gunzip (bytes : Bytes) : Stream :=
  match Gzip.afterHeader? bytes with
  | none => ⟨[], false⟩
  | some packed =>
      match inflate packed with
      | ⟨done, none⟩ => ⟨done.reverse, false⟩
      | ⟨done, some rest⟩ =>
          let content := done.reverse
          ⟨content, Gzip.fits content (packed.drop (packed.length - rest.length / 8))⟩

end PolicyHost.Archive
