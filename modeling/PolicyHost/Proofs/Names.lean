import Mathlib.Tactic.Tauto
import PolicyHost.Dict

set_option autoImplicit false

namespace PolicyHost

theorem enter_keys {α : Type} (key other : String) (value : α) (entries : List (String × α)) :
    other ∈ (enter key value entries).map Prod.fst ↔ other = key ∨ other ∈ entries.map Prod.fst := by
  induction entries with
  | nil => simp [enter]
  | cons entry rest ih =>
      by_cases less : key < entry.1
      · simp [enter, less]
      · by_cases same : key = entry.1
        · simp [enter, ← same]
        · rw [enter, if_neg less, if_neg same, List.map_cons, List.mem_cons, ih, List.map_cons, List.mem_cons]
          exact or_left_comm

namespace NameSet

theorem mem_insert (s : NameSet) (name other : String) : other ∈ s.insert name ↔ other = name ∨ other ∈ s :=
  enter_keys name other () s.dict.entries

theorem mem_of_list (names : List String) (name : String) : name ∈ ofList names ↔ name ∈ names := by
  have folded : ∀ s : NameSet, name ∈ names.foldl insert s ↔ name ∈ names ∨ name ∈ s := by
    induction names with
    | nil => intro s; simp
    | cons first rest ih =>
        intro s
        rw [List.foldl_cons, ih (s.insert first), mem_insert, List.mem_cons]
        tauto
  have bare : name ∉ empty := List.not_mem_nil
  rw [ofList, folded empty]
  exact or_iff_left bare

theorem names_distinct (s : NameSet) : s.toList.Nodup :=
  List.pairwise_map.mpr (s.dict.ascending.imp fun less => String.ne_of_lt less)

end NameSet

end PolicyHost
