set_option autoImplicit false

namespace PolicyHost

theorem lookup_filter {α β : Type} [DecidableEq α] [BEq α] [LawfulBEq α] (table : List (α × β)) (key struck : α)
    (different : key ≠ struck) :
    (table.filter fun entry => entry.1 ≠ struck).lookup key = table.lookup key := by
  induction table with
  | nil => rfl
  | cons entry rest ih =>
      by_cases out : entry.1 = struck
      · have missed : (key == entry.1) = false := beq_eq_false_iff_ne.mpr (out ▸ different)
        rw [List.filter_cons_of_neg (by simpa using out), ih, List.lookup_cons, missed]
      · rw [List.filter_cons_of_pos (by simpa using out), List.lookup_cons, List.lookup_cons, ih]

theorem mem_of_lookup {α β : Type} [BEq α] [LawfulBEq α] (table : List (α × β)) (key : α) (value : β)
    (found : table.lookup key = some value) : (key, value) ∈ table := by
  obtain ⟨front, back, whole, _⟩ := List.lookup_eq_some_iff.mp found
  rw [whole]
  simp

end PolicyHost
