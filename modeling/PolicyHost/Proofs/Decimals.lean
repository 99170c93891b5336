import PolicyHost.Text.Blank
import PolicyHost.Text.Digit

set_option autoImplicit false

namespace PolicyHost.Text

theorem decimal_digit (n : Nat) (c : Char) (inside : c ∈ decimal n) : isDigit c = true := by
  have digit := Nat.isDigit_of_mem_toDigits (by decide) (by decide) inside
  simpa [isDigit, Char.isDigit, Char.le_def] using digit

theorem decimal_free (n : Nat) (c : Char) (other : isDigit c = false) : c ∉ decimal n := fun inside => by
  rw [decimal_digit n c inside] at other
  cases other

theorem decimal_decimal (n : Nat) (c : Char) (inside : c ∈ decimal n) : isDecimal c = true := by
  rw [isDecimal, decimal_digit n c inside, Bool.true_or]

theorem decimal_filled (n : Nat) : decimal n ≠ [] := Nat.toDigits_ne_nil

theorem of_digits_decimal (n : Nat) : ofDigits (decimal n) = n := Nat.ofDigitChars_ten_toDigits

structure Numeral (cs : List Char) (n : Nat) : Prop where
  filled : cs ≠ []
  digits : ∀ c ∈ cs, isDigit c = true
  value : ofDigits cs = n

def Signed (cs : List Char) (n : Nat) : Prop := Numeral cs n ∨ ∃ digits, cs = '+' :: digits ∧ Numeral digits n

theorem decimal_numeral (n : Nat) : Numeral (decimal n) n :=
  ⟨decimal_filled n, decimal_digit n, of_digits_decimal n⟩

theorem decimal_signed (n : Nat) : Signed (decimal n) n := .inl (decimal_numeral n)

theorem numeral_free (cs : List Char) (n : Nat) (c : Char) (numeral : Numeral cs n) (other : isDigit c = false) :
    c ∉ cs := fun inside => by
  rw [numeral.digits c inside] at other
  cases other

theorem numeral_below_iff (limit n : Nat) (cs : List Char) :
    (if cs.isEmpty || !cs.all isDigit then none else if ofDigits cs < limit then some (ofDigits cs) else none) =
      some n ↔ Numeral cs n ∧ n < limit := by
  by_cases filled : cs = []
  · simpa [filled] using fun numeral => absurd rfl numeral.filled
  · by_cases digits : cs.all isDigit = true
    · rw [if_neg (by simp [filled, digits])]
      constructor
      · intro read
        obtain ⟨small, value⟩ := Option.ite_none_right_eq_some.mp read
        exact ⟨⟨filled, List.all_eq_true.mp digits, Option.some.inj value⟩, Option.some.inj value ▸ small⟩
      · rintro ⟨⟨_, _, rfl⟩, small⟩
        exact if_pos small
    · rw [if_pos (by simp [digits])]
      refine iff_of_false nofun fun ⟨numeral, _⟩ => digits ?_
      exact List.all_eq_true.mpr numeral.digits

theorem parse_below_iff (limit n : Nat) (cs : List Char) : parseBelow limit cs = some n ↔ Signed cs n ∧ n < limit := by
  unfold parseBelow Signed
  split
  · next rest =>
      have unsigned : ¬ Numeral ('+' :: rest) n := fun numeral =>
        numeral_free _ n '+' numeral rfl List.mem_cons_self
      rw [numeral_below_iff]
      simp [unsigned]
  · next other =>
      have unmarked : ¬ ∃ digits, cs = '+' :: digits ∧ Numeral digits n := fun ⟨digits, same, _⟩ => other digits same
      rw [numeral_below_iff, or_iff_left unmarked]

theorem parse_uint32_iff (cs : List Char) (n : UInt32) : parseUInt32 cs = some n ↔ Signed cs n.toNat := by
  rw [parseUInt32, Option.map_eq_some_iff]
  constructor
  · rintro ⟨m, read, rfl⟩
    obtain ⟨signed, small⟩ := (parse_below_iff UInt32.size m cs).mp read
    rwa [UInt32.toNat_ofNat_of_lt' small]
  · exact fun signed => ⟨n.toNat, (parse_below_iff _ _ cs).mpr ⟨signed, n.toNat_lt⟩, UInt32.ofNat_toNat⟩

theorem parse_uint32_decimal (n : UInt32) : parseUInt32 (decimal n.toNat) = some n :=
  (parse_uint32_iff _ n).mpr (decimal_signed n.toNat)

theorem signed_all (cs : List Char) (n : Nat) (signed : Signed cs n) (c : Char) (inside : c ∈ cs) :
    c = '+' ∨ isDigit c = true := by
  rcases signed with numeral | ⟨digits, rfl, numeral⟩
  · exact .inr (numeral.digits c inside)
  · rcases List.mem_cons.mp inside with plus | digit
    · exact .inl plus
    · exact .inr (numeral.digits c digit)

theorem signed_free (cs : List Char) (n : Nat) (c : Char) (signed : Signed cs n) (unsigned : c ≠ '+')
    (other : isDigit c = false) : c ∉ cs := fun inside => by
  rcases signed_all cs n signed c inside with plus | digit
  · exact unsigned plus
  · rw [digit] at other
    cases other

theorem numeral_iff (cs : List Char) (n : Nat) : Numeral cs n ↔ Signed cs n ∧ '+' ∉ cs := by
  constructor
  · exact fun numeral => ⟨.inl numeral, numeral_free cs n '+' numeral rfl⟩
  · rintro ⟨numeral | ⟨digits, rfl, _⟩, unsigned⟩
    · exact numeral
    · exact absurd List.mem_cons_self unsigned

theorem digit_solid (c : Char) (digit : isDigit c = true) : isBlank c = false := by
  have bounds : 48 ≤ c.toNat ∧ c.toNat ≤ 57 := by simpa [isDigit, Char.le_def, UInt32.le_iff_toNat_le] using digit
  simp [isBlank]
  omega

end PolicyHost.Text
