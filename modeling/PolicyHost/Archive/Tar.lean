import PolicyHost.Archive.Gzip

set_option autoImplicit false

namespace PolicyHost.Archive

open Text (Bytes)

-- What comes next in an archive. A file that the archive breaks off in has what there is of it.
inductive Tar.Next where
  | file (name : Bytes) (content : Bytes) (rest : Stream)
  | finished
  | broken

namespace Tar

def blockSize : Nat := 512

def field (header : Bytes) (start count : Nat) : Bytes :=
  ((header.drop start).take count).takeWhile (· ≠ 0)

def isOctal (b : UInt8) : Bool := 0x30 ≤ b && b ≤ 0x37

def octal? (bytes : Bytes) : Option Nat :=
  let isSpace (b : UInt8) : Bool := b = 0x20 || (9 ≤ b && b ≤ 13)
  let digits := ((bytes.dropWhile isSpace).reverse.dropWhile isSpace).reverse
  if digits.isEmpty || !digits.all isOctal then none
  else some (digits.foldl (fun n b => 8 * n + (b.toNat - 0x30)) 0)

def size? (header : Bytes) : Option Nat :=
  match (header.drop 124).take 12 with
  | first :: rest =>
      if 0x80 ≤ first then some ((rest.drop 3).foldl (fun n b => 256 * n + b.toNat) 0)
      else octal? (field header 124 12)
  | [] => none

def sum (header : Bytes) : Nat :=
  (header.take 148 ++ header.drop 156).foldl (fun sum b => sum + b.toNat) (8 * 0x20)

def isExtended (header : Bytes) : Bool := (header.drop 257).take 8 = Text.encode "ustar\x0000"

def name (header : Bytes) : Bytes :=
  let last := field header 0 100
  let first := field header 345 155
  if isExtended header && !first.isEmpty then first ++ 0x2F :: last else last

def next (s : Stream) : Next :=
  if s.content.isEmpty then if s.sound then .finished else .broken
  else
    let header := s.content.take blockSize
    if header.length < blockSize then .broken
    else if header.all (· = 0) then .finished
    else
      match octal? (field header 148 8), size? header with
      | some check, some size =>
          let body := s.content.drop blockSize
          let padded := (size + blockSize - 1) / blockSize * blockSize
          let rest : Stream :=
            if body.length < padded then ⟨[], false⟩ else { s with content := body.drop padded }
          if check ≠ sum header then .broken
          else if body.length < size ∧ ¬ s.sound then .broken
          else .file (name header) (body.take size) rest
      | _, _ => .broken

def files : Nat → Stream → List (Bytes × Bytes) × Bool
  | 0, _ => ([], false)
  | fuel + 1, s =>
      match next s with
      | .finished => ([], true)
      | .broken => ([], false)
      | .file name content rest =>
          let (others, whole) := files fuel rest
          ((name, content) :: others, whole)

end Tar

def untar (bytes : Bytes) : List (Bytes × Bytes) × Bool :=
  let s := gunzip bytes
  Tar.files (s.content.length / Tar.blockSize + 2) s

end PolicyHost.Archive
