set_option autoImplicit false

namespace PolicyHost.Archive

abbrev Bits := List Bool

def number? : Nat → Bits → Option (Nat × Bits)
  | 0, bits => some (0, bits)
  | _ + 1, [] => none
  | n + 1, b :: bits => (number? n bits).map fun (high, rest) => (b.toNat + 2 * high, rest)

namespace Huffman

abbrev Code := List ((Nat × Nat) × Nat)

def maxLength : Nat := 15

def wordsFrom (lengths : List (Nat × Nat)) : Nat → Nat → Nat → Code
  | 0, _, _ => []
  | count + 1, length, word =>
      let symbols := (lengths.filter fun entry => entry.1 = length).map Prod.snd
      ((symbols.zipIdx word).map fun (symbol, word) => ((length, word), symbol)) ++
        wordsFrom lengths count (length + 1) ((word + symbols.length) * 2)

def weight (lengths : List Nat) : Nat :=
  lengths.foldl (fun sum length => if length = 0 then sum else sum + Nat.pow 2 (maxLength - length)) 0

-- The code with words of given lengths; length zero is no word. A code with more than one word has to take up
-- all words.
def ofLengths? (lengths : List Nat) : Option Code :=
  if 1 < lengths.countP (· ≠ 0) ∧ weight lengths ≠ Nat.pow 2 maxLength then none
  else some (wordsFrom (lengths.zipIdx) maxLength 1 0)

def symbolFrom (code : Code) : Nat → Nat → Nat → Bits → Option (Nat × Bits)
  | 0, _, _, _ => none
  | _ + 1, _, _, [] => none
  | more + 1, length, word, b :: bits =>
      let word := 2 * word + b.toNat
      match code.lookup (length + 1, word) with
      | some symbol => some (symbol, bits)
      | none => symbolFrom code more (length + 1) word bits

def symbol? (code : Code) (bits : Bits) : Option (Nat × Bits) := symbolFrom code maxLength 0 0 bits

end Huffman

end PolicyHost.Archive
