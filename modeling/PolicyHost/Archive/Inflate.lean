import PolicyHost.Archive.Huffman
import PolicyHost.Text.Utf8

set_option autoImplicit false

namespace PolicyHost.Archive

open Text (Bytes)

structure Unpacked where
  done : Bytes
  rest : Option Bits

namespace Inflate

def lengthCodes : List (Nat × Nat) :=
  [(3, 0), (4, 0), (5, 0), (6, 0), (7, 0), (8, 0), (9, 0), (10, 0), (11, 1), (13, 1), (15, 1), (17, 1),
   (19, 2), (23, 2), (27, 2), (31, 2), (35, 3), (43, 3), (51, 3), (59, 3), (67, 4), (83, 4), (99, 4),
   (115, 4), (131, 5), (163, 5), (195, 5), (227, 5), (258, 0)]

def distanceCodes : List (Nat × Nat) :=
  [(1, 0), (2, 0), (3, 0), (4, 0), (5, 1), (7, 1), (9, 2), (13, 2), (17, 3), (25, 3), (33, 4), (49, 4),
   (65, 5), (97, 5), (129, 6), (193, 6), (257, 7), (385, 7), (513, 8), (769, 8), (1025, 9), (1537, 9),
   (2049, 10), (3073, 10), (4097, 11), (6145, 11), (8193, 12), (12289, 12), (16385, 13), (24577, 13)]

def fixedLengths : List Nat :=
  List.replicate 144 8 ++ List.replicate 112 9 ++ List.replicate 24 7 ++ List.replicate 8 8

def fixedDistances : List Nat := List.replicate 32 5

def lengthOrder : List Nat := [16, 17, 18, 0, 8, 7, 9, 6, 10, 5, 11, 4, 12, 3, 13, 2, 14, 1, 15]

def endOfBlock : Nat := 256

def extended? (table : List (Nat × Nat)) (symbol : Nat) (bits : Bits) : Option (Nat × Bits) := do
  let (base, count) ← table[symbol]?
  let (more, rest) ← number? count bits
  some (base + more, rest)

def copy? (distance : Nat) : Nat → Bytes → Option Bytes
  | 0, done => some done
  | count + 1, done =>
      match done[distance - 1]? with
      | some b => copy? distance count (b :: done)
      | none => none

def copied? (distances : Huffman.Code) (symbol : Nat) (done : Bytes) (bits : Bits) :
    Option (Bytes × Bits) := do
  let (count, bits) ← extended? lengthCodes (symbol - endOfBlock - 1) bits
  let (symbol, bits) ← Huffman.symbol? distances bits
  let (distance, bits) ← extended? distanceCodes symbol bits
  let done ← copy? distance count done
  some (done, bits)

def coded (literals distances : Huffman.Code) : Nat → Bytes → Bits → Unpacked
  | 0, done, _ => ⟨done, none⟩
  | fuel + 1, done, bits =>
      match Huffman.symbol? literals bits with
      | none => ⟨done, none⟩
      | some (symbol, bits) =>
          if symbol < endOfBlock then coded literals distances fuel (UInt8.ofNat symbol :: done) bits
          else if symbol = endOfBlock then ⟨done, some bits⟩
          else
            match copied? distances symbol done bits with
            | some (done, bits) => coded literals distances fuel done bits
            | none => ⟨done, none⟩

def stored : Nat → Bytes → Bits → Unpacked
  | 0, done, bits => ⟨done, some bits⟩
  | count + 1, done, bits =>
      match number? 8 bits with
      | some (b, bits) => stored count (UInt8.ofNat b :: done) bits
      | none => ⟨done, none⟩

def storedBlock (done : Bytes) (bits : Bits) : Unpacked :=
  match number? 16 (bits.drop (bits.length % 8)) with
  | none => ⟨done, none⟩
  | some (count, bits) =>
      match number? 16 bits with
      | some (check, bits) => if count + check = 65535 then stored count done bits else ⟨done, none⟩
      | none => ⟨done, none⟩

def lengths? (code : Huffman.Code) : Nat → Nat → List Nat → Bits → Option (List Nat × Bits)
  | 0, _, _, _ => none
  | fuel + 1, count, done, bits =>
      if count = done.length then some (done.reverse, bits)
      else if count < done.length then none
      else
        match Huffman.symbol? code bits with
        | none => none
        | some (symbol, bits) =>
            if symbol < 16 then lengths? code fuel count (symbol :: done) bits
            else
              let (length, base, more) :=
                if symbol = 16 then (done.head?, 3, 2)
                else if symbol = 17 then (some 0, 3, 3)
                else (some 0, 11, 7)
              match length, number? more bits with
              | some length, some (n, bits) =>
                  lengths? code fuel count (List.replicate (base + n) length ++ done) bits
              | _, _ => none

def triples? : Nat → Bits → Option (List Nat × Bits)
  | 0, bits => some ([], bits)
  | n + 1, bits =>
      match number? 3 bits with
      | some (a, bits) => (triples? n bits).map fun (rest, bits) => (a :: rest, bits)
      | none => none

def codes? (bits : Bits) : Option (Huffman.Code × Huffman.Code × Bits) := do
  let (literals, bits) ← number? 5 bits
  let (distances, bits) ← number? 5 bits
  let (stated, bits) ← number? 4 bits
  let (own, bits) ← triples? (stated + 4) bits
  let lengthOf (symbol : Nat) : Nat := ((lengthOrder.zip own).lookup symbol).getD 0
  let code ← Huffman.ofLengths? ((List.range 19).map lengthOf)
  let (lengths, bits) ← lengths? code (bits.length + 1) (literals + 257 + distances + 1) [] bits
  let first ← Huffman.ofLengths? (lengths.take (literals + 257))
  let second ← Huffman.ofLengths? (lengths.drop (literals + 257))
  some (first, second, bits)

def block (kind : Nat) (done : Bytes) (bits : Bits) : Unpacked :=
  if kind = 0 then storedBlock done bits
  else
    let codes :=
      if kind = 1 then do
        some (← Huffman.ofLengths? fixedLengths, ← Huffman.ofLengths? fixedDistances, bits)
      else if kind = 2 then codes? bits
      else none
    match codes with
    | some (literals, distances, bits) => coded literals distances (bits.length + 1) done bits
    | none => ⟨done, none⟩

def blocks : Nat → Bytes → Bits → Unpacked
  | 0, done, _ => ⟨done, none⟩
  | fuel + 1, done, bits =>
      match number? 1 bits, number? 2 (bits.drop 1) with
      | some (last, _), some (kind, bits) =>
          match block kind done bits with
          | ⟨done, some bits⟩ => if last = 1 then ⟨done, some bits⟩ else blocks fuel done bits
          | unpacked => unpacked
      | _, _ => ⟨done, none⟩

def bitsOf (bytes : Bytes) : Bits :=
  bytes.flatMap fun b => (List.range 8).map fun i => b.toNat.testBit i

end Inflate

def inflate (bytes : Bytes) : Unpacked :=
  let bits := Inflate.bitsOf bytes
  Inflate.blocks (bits.length + 1) [] bits

end PolicyHost.Archive
