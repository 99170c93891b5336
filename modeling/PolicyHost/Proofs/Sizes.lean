import Mathlib
import PolicyHost.Trace.Budget

set_option autoImplicit false

namespace PolicyHost

theorem utf8_length_from (n : Nat) (cs : List Char) :
    cs.foldl (fun n c => n + c.utf8Size) n = n + Text.utf8Length cs := by
  unfold Text.utf8Length
  induction cs generalizing n with
  | nil => rfl
  | cons c cs ih =>
      simp only [List.foldl_cons]
      rw [ih (n + c.utf8Size), ih (0 + c.utf8Size)]
      omega

theorem utf8_length_cons (c : Char) (cs : List Char) :
    Text.utf8Length (c :: cs) = c.utf8Size + Text.utf8Length cs := by
  simpa [Text.utf8Length] using utf8_length_from c.utf8Size cs

theorem utf8_length_append (a b : List Char) : Text.utf8Length (a ++ b) = Text.utf8Length a + Text.utf8Length b := by
  rw [Text.utf8Length, List.foldl_append, utf8_length_from]
  rfl

theorem utf8_length_digits (cs : List Char) (digits : ∀ c ∈ cs, c.isDigit = true) :
    Text.utf8Length cs = cs.length := by
  induction cs with
  | nil => rfl
  | cons c cs ih =>
      have one : c.utf8Size = 1 := by
        have digit := digits c List.mem_cons_self
        simp only [Char.isDigit, Bool.and_eq_true, decide_eq_true_eq] at digit
        exact Char.utf8Size_eq_one_iff.mpr (UInt32.le_trans digit.2 (by decide))
      rw [utf8_length_cons, one, ih fun c member => digits c (List.mem_cons_of_mem _ member), List.length_cons]
      omega

theorem utf8_length_eq (cs : List Char) : Text.utf8Length cs = String.utf8Len cs := by
  induction cs with
  | nil => rfl
  | cons c cs ih => rw [utf8_length_cons, String.utf8Len_cons, ih, Nat.add_comm]

theorem encode_length (cs : List Char) : (Text.encode (String.ofList cs)).length = Text.utf8Length cs := by
  rw [utf8_length_eq, ← String.utf8ByteSize_ofList]
  rfl

def digits (n : Nat) : Nat := (Text.decimal n).length

theorem digits_le_iff (n k : Nat) (positive : 0 < k) : digits n ≤ k ↔ n < 10 ^ k :=
  Nat.length_toDigits_le_iff (by decide) positive

theorem digits_pos (n : Nat) : 0 < digits n := Nat.length_toDigits_pos

theorem lt_pow_digits (n : Nat) : n < 10 ^ digits n := (digits_le_iff n _ (digits_pos n)).mp (Nat.le_refl _)

theorem digits_mono (a b : Nat) (less : a ≤ b) : digits a ≤ digits b :=
  (digits_le_iff a _ (digits_pos b)).mpr (Nat.lt_of_le_of_lt less (lt_pow_digits b))

-- A few more bytes, few as against the power of ten above, make a number longer by one digit at most.
theorem digits_add (n few : Nat) (bound : few ≤ 20 ∨ few ≤ digits n + 1) : digits (n + few) ≤ digits n + 1 := by
  have positive := digits_pos n
  have below := lt_pow_digits n
  have tenfold : 10 ^ (digits n + 1) = 10 * 10 ^ digits n := by rw [Nat.pow_succ, Nat.mul_comm]
  have long : digits n < 10 ^ digits n := Nat.lt_pow_self (by decide)
  have ten : 10 ^ 1 ≤ 10 ^ digits n := Nat.pow_le_pow_right (by decide) positive
  exact (digits_le_iff _ _ (by omega)).mpr (by omega)

namespace Json

def memberBytes (member : String × Json) : Nat := Text.utf8Length (quote member.1) + member.2.size + 2

theorem item_chars_bytes (items : List Json) (filled : items ≠ []) :
    Text.utf8Length (itemChars items) + 1 = (items.map fun item => item.size + 1).sum := by
  induction items with
  | nil => exact absurd rfl filled
  | cons item rest ih =>
      cases rest with
      | nil => simp [itemChars, size]
      | cons next rest =>
          have tail := ih (List.cons_ne_nil next rest)
          have comma : Char.utf8Size ',' = 1 := by decide
          rw [List.map_cons, List.sum_cons, ← tail, itemChars, utf8_length_append, utf8_length_cons, comma]
          simp only [size]
          omega

theorem member_chars_bytes (members : List (String × Json)) (filled : members ≠ []) :
    Text.utf8Length (memberChars members) + 1 = (members.map memberBytes).sum := by
  have colon : Char.utf8Size ':' = 1 := by decide
  have comma : Char.utf8Size ',' = 1 := by decide
  induction members with
  | nil => exact absurd rfl filled
  | cons member rest ih =>
      obtain ⟨name, value⟩ := member
      cases rest with
      | nil =>
          simp only [memberChars, utf8_length_append, utf8_length_cons, colon, List.map_cons, List.map_nil,
            List.sum_cons, List.sum_nil, memberBytes, size]
          omega
      | cons next rest =>
          have tail := ih (List.cons_ne_nil next rest)
          rw [List.map_cons, List.sum_cons, ← tail, memberChars, utf8_length_append, utf8_length_cons, utf8_length_append,
            utf8_length_cons, colon, comma]
          simp only [memberBytes, size]
          omega

theorem arr_size (items : List Json) : (Json.arr items).size = (items.map fun item => item.size + 1).sum - 1 + 2 := by
  have brackets : Char.utf8Size '[' = 1 ∧ Char.utf8Size ']' = 1 := by decide
  have whole : (Json.arr items).size = 1 + Text.utf8Length (itemChars items) + 1 := by
    rw [size, chars, List.cons_append, utf8_length_cons, utf8_length_append, utf8_length_cons, brackets.1, brackets.2]
    change 1 + (_ + (1 + 0)) = _
    omega
  by_cases filled : items = []
  · subst filled
    rfl
  · have bytes := item_chars_bytes items filled
    omega

theorem obj_size (members : List (String × Json)) :
    (Json.obj members).size = (members.map memberBytes).sum - 1 + 2 := by
  have braces : Char.utf8Size '\x7b' = 1 ∧ Char.utf8Size '\x7d' = 1 := by decide
  have whole : (Json.obj members).size = 1 + Text.utf8Length (memberChars members) + 1 := by
    rw [size, chars, List.cons_append, utf8_length_cons, utf8_length_append, utf8_length_cons, braces.1, braces.2]
    change 1 + (_ + (1 + 0)) = _
    omega
  by_cases filled : members = []
  · subst filled
    rfl
  · have bytes := member_chars_bytes members filled
    omega

theorem arr_take_size (items : List Json) (n : Nat) : (Json.arr (items.take n)).size ≤ (Json.arr items).size := by
  have split : (items.map fun item => item.size + 1).sum =
      ((items.take n).map fun item => item.size + 1).sum + ((items.drop n).map fun item => item.size + 1).sum := by
    rw [← List.sum_append, ← List.map_append, List.take_append_drop]
  rw [arr_size, arr_size]
  omega

theorem nat_size (n : Nat) : (Json.nat n).size = digits n :=
  utf8_length_digits _ fun _ member => Nat.isDigit_of_mem_toDigits (by decide) (by decide) member

theorem true_size (b : Bool) : (Json.bool true).size ≤ (Json.bool b).size := by cases b <;> decide

theorem empty_dict_size (d : Dict Json) : (Json.ofDict Dict.empty).size ≤ (Json.ofDict d).size := by
  unfold ofDict
  rw [obj_size, obj_size]
  change 2 ≤ _
  omega

end Json

namespace Trace

def noteMembers (notes : List Note) : List (String × Json) :=
  if notes.isEmpty then [] else [("notes", .arr (notes.map Note.toJson))]

def otherMembers (t : Trace) : List (String × Json) :=
  [("execution_path", .arr (t.path.map Step.toJson)), ("final_decision", decisionJson t.finalDecision),
    ("level", .str t.level.name)] ++ noteMembers t.notes ++
  [("rules_evaluated", .arr (t.rules.map RuleEntry.toJson)), ("truncated", .bool t.truncated),
    ("variable_bindings", .ofDict t.bindings)]

def frame (t : Trace) : Nat :=
  (t.otherMembers.map Json.memberBytes).sum + Text.utf8Length (Json.quote "size_bytes") + 3

theorem text_length (t : Trace) : (Text.encode t.toJson.text).length = t.measure := encode_length t.toJson.chars

theorem measure_eq (t : Trace) : t.measure = t.frame + digits t.sizeBytes := by
  unfold measure toJson
  rw [Json.obj_size]
  simp only [frame, otherMembers, noteMembers, List.map_append, List.map_cons, List.map_nil, List.sum_append, List.sum_cons,
    List.sum_nil, Json.memberBytes, Json.nat_size]
  omega

theorem frame_halved (t : Trace) : t.halved.frame ≤ t.frame := by
  have path := Json.arr_take_size (t.path.map Step.toJson) (t.path.length / 2)
  have rules := Json.arr_take_size (t.rules.map RuleEntry.toJson) (t.rules.length / 2)
  have flag := Json.true_size t.truncated
  rw [← List.map_take] at path rules
  simp only [frame, otherMembers, halved, List.map_append, List.map_cons, List.map_nil, List.sum_append, List.sum_cons,
    List.sum_nil, Json.memberBytes]
  omega

theorem frame_without_bindings (t : Trace) : { t with bindings := .empty, truncated := true }.frame ≤ t.frame := by
  have bindings := Json.empty_dict_size t.bindings
  have flag := Json.true_size t.truncated
  simp only [frame, otherMembers, List.map_append, List.map_cons, List.map_nil, List.sum_append, List.sum_cons,
    List.sum_nil, Json.memberBytes]
  omega

theorem frame_without_notes (t : Trace) : { t with notes := [], truncated := true }.frame ≤ t.frame := by
  have flag := Json.true_size t.truncated
  simp only [frame, otherMembers, List.map_append, List.map_cons, List.map_nil, List.sum_append, List.sum_cons,
    List.sum_nil, Json.memberBytes, noteMembers, List.isEmpty_nil, if_true]
  omega

end Trace

end PolicyHost
