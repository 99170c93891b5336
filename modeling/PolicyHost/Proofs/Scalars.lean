import Mathlib.Tactic.IntervalCases
import PolicyHost.Json.Parser
import PolicyHost.Json.Printer
import PolicyHost.Proofs.Decimals

set_option autoImplicit false

namespace PolicyHost

namespace Json

inductive Escaped (c : Char) : List Char → Prop where
  | named (letter : Char) (short : shortEscape letter = some c) (other : letter ≠ 'u') : Escaped c ['\\', letter]
  | numbered (control : c.toNat < 32) :
      Escaped c ['\\', 'u', '0', '0', hexDigit (c.toNat / 16), hexDigit (c.toNat % 16)]
  | plain (printable : 32 ≤ c.toNat) (unquoted : c ≠ '"') (straight : c ≠ '\\') : Escaped c [c]

theorem escape_escaped (c : Char) : Escaped c (escape c) := by
  have numbered (n : Nat) (same : c.toNat = n) : some (Char.ofNat n) = some c := by rw [← same, Char.ofNat_toNat]
  unfold escape
  by_cases quoted : c = '"'
  · rw [if_pos quoted]
    exact .named '"' (congrArg some quoted.symm) (by decide)
  · rw [if_neg quoted]
    by_cases slash : c = '\\'
    · rw [if_pos slash]
      exact .named '\\' (congrArg some slash.symm) (by decide)
    · rw [if_neg slash]
      split_ifs with backspace tab line form carriage control
      · exact .named 'b' (numbered 8 backspace) (by decide)
      · exact .named 't' (numbered 9 tab) (by decide)
      · exact .named 'n' (numbered 10 line) (by decide)
      · exact .named 'f' (numbered 12 form) (by decide)
      · exact .named 'r' (numbered 13 carriage) (by decide)
      · exact .numbered control
      · exact .plain (Nat.le_of_not_lt control) quoted slash

theorem hex_digit_value (n : Nat) (small : n < 16) : hexValue (hexDigit n) = some n := by
  interval_cases n <;> rfl

theorem read_escaped (c : Char) (cs done rest : List Char) (escaped : Escaped c cs) :
    readStringFrom done (cs ++ rest) = readStringFrom (c :: done) rest := by
  cases escaped with
  | named letter short other =>
      rw [List.cons_append, List.singleton_append, readStringFrom, short]
      exact fun _ _ _ _ _ same => absurd same other
  | numbered control =>
      have zero : hexValue '0' = some 0 := rfl
      have high := hex_digit_value (c.toNat / 16) (by omega)
      have low := hex_digit_value (c.toNat % 16) (by omega)
      have number : hex4 '0' '0' (hexDigit (c.toNat / 16)) (hexDigit (c.toNat % 16)) = some c.toNat := by
        simp only [hex4, zero, high, low, Option.bind_eq_bind, Option.bind_some, Option.some.injEq]
        omega
      simp only [List.cons_append, List.nil_append, readStringFrom, number]
      rw [if_neg (by simp; omega), if_neg (by simp; omega), Char.ofNat_toNat]
  | plain printable unquoted straight =>
      rw [List.singleton_append, readStringFrom, if_neg (Nat.not_lt.mpr printable)]
      · exact fun same => absurd same unquoted
      · exact fun _ _ _ _ _ same => absurd same straight
      · exact fun _ _ same => absurd same straight

theorem read_quoted (cs done rest : List Char) :
    readStringFrom done (cs.flatMap escape ++ '"' :: rest) = some (String.ofList (done.reverse ++ cs), rest) := by
  induction cs generalizing done with
  | nil => rw [List.flatMap_nil, List.nil_append, readStringFrom, List.append_nil]
  | cons c cs ih =>
      rw [List.flatMap_cons, List.append_assoc, read_escaped c _ _ _ (escape_escaped c), ih, List.reverse_cons,
        List.append_assoc, List.singleton_append]

theorem quote_append (s : String) (rest : List Char) :
    quote s ++ rest = '"' :: (s.toList.flatMap escape ++ '"' :: rest) := by
  rw [quote, List.cons_append, List.cons_append, List.append_assoc, List.singleton_append]

theorem quote_next (s t : String) (rest more : List Char) (same : quote s ++ rest = quote t ++ more) :
    s = t ∧ rest = more := by
  rw [quote_append, quote_append, List.cons.injEq] at same
  have read := read_quoted s.toList [] rest
  rw [same.2, read_quoted, List.reverse_nil, List.nil_append, List.nil_append, String.ofList_toList,
    String.ofList_toList] at read
  exact (Prod.mk.inj (Option.some.inj read)).imp Eq.symm Eq.symm

end Json

theorem signed_chars (n : Int) (c : Char) (inside : c ∈ signed n) : c = '-' ∨ Text.isDigit c = true := by
  cases n with
  | ofNat n => exact .inr (Text.decimal_digit n c inside)
  | negSucc n => exact (List.mem_cons.mp inside).imp_right (Text.decimal_digit (n + 1) c)

theorem decimal_injective (m n : Nat) (same : Text.decimal m = Text.decimal n) : m = n := by
  rw [← Text.of_digits_decimal m, same, Text.of_digits_decimal]

theorem signed_negative (m n : Nat) (same : Text.decimal m = '-' :: Text.decimal n) : False :=
  Text.decimal_free m '-' rfl (same ▸ List.mem_cons_self)

theorem signed_injective (m n : Int) (same : signed m = signed n) : m = n := by
  cases m with
  | ofNat m =>
      cases n with
      | ofNat n => exact congrArg Int.ofNat (decimal_injective m n same)
      | negSucc n => exact absurd same (signed_negative m (n + 1))
  | negSucc m =>
      cases n with
      | ofNat n => exact absurd same.symm (signed_negative n (m + 1))
      | negSucc n => exact congrArg Int.negSucc (Nat.succ.inj (decimal_injective _ _ (List.cons.inj same).2))

end PolicyHost
