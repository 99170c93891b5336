import Mathlib.Data.List.Induction
import Mathlib.Data.List.Nodup
import PolicyHost.Proofs.Tables
import PolicyHost.Dict

set_option autoImplicit false

namespace PolicyHost

variable {α : Type}

theorem lookup_enter (key other : String) (value : α) (entries : List (String × α)) :
    (enter key value entries).lookup other = if other = key then some value else entries.lookup other := by
  induction entries with
  | nil =>
      by_cases same : other = key
      · simp [enter, same]
      · simp [enter, List.lookup_cons, beq_eq_false_iff_ne.mpr same, same]
  | cons entry rest ih =>
      by_cases same : other = key
      · rw [if_pos same] at ih ⊢
        subst other
        by_cases less : key < entry.1
        · rw [enter, if_pos less, List.lookup_cons_self]
        · by_cases found : key = entry.1
          · rw [enter, if_neg less, if_pos found, List.lookup_cons_self]
          · rw [enter, if_neg less, if_neg found, List.lookup_cons, beq_eq_false_iff_ne.mpr found]
            exact ih
      · rw [if_neg same] at ih ⊢
        by_cases less : key < entry.1
        · rw [enter, if_pos less, List.lookup_cons, beq_eq_false_iff_ne.mpr same]
        · by_cases found : key = entry.1
          · rw [enter, if_neg less, if_pos found, List.lookup_cons, List.lookup_cons, ← found,
              beq_eq_false_iff_ne.mpr same]
          · rw [enter, if_neg less, if_neg found, List.lookup_cons, List.lookup_cons, ih]

namespace Dict

theorem get_of_list (entries : List (String × α)) (key : String) :
    (ofList entries).get? key = entries.reverse.lookup key := by
  induction entries using List.reverseRecOn with
  | nil => rfl
  | append_singleton front entry ih =>
      have last : ofList (front ++ [entry]) = (ofList front).insert entry.1 entry.2 := by
        rw [ofList, List.foldl_append]
        rfl
      rw [last, List.reverse_append, List.reverse_singleton, List.singleton_append, List.lookup_cons, ← ih]
      refine (lookup_enter entry.1 key entry.2 _).trans ?_
      by_cases same : key = entry.1
      · rw [if_pos same, beq_iff_eq.mpr same]
      · rw [if_neg same, beq_eq_false_iff_ne.mpr same]
        rfl

theorem ascending_distinct (entries : List (String × α)) (ascending : Ascending entries) :
    (entries.map Prod.fst).Nodup :=
  List.pairwise_map.mpr (ascending.imp String.ne_of_lt)

theorem lookup_iff (entries : List (String × α)) (distinct : (entries.map Prod.fst).Nodup) (key : String) (value : α) :
    entries.lookup key = some value ↔ (key, value) ∈ entries := by
  refine ⟨mem_of_lookup entries key value, fun inside => ?_⟩
  induction entries with
  | nil => cases inside
  | cons entry rest ih =>
      obtain ⟨new, distinct⟩ := List.nodup_cons.mp distinct
      rcases List.mem_cons.mp inside with rfl | later
      · exact List.lookup_cons_self
      · have missed : key ≠ entry.1 := fun same => new (List.mem_map.mpr ⟨(key, value), later, same⟩)
        rw [List.lookup_cons, beq_eq_false_iff_ne.mpr missed]
        exact ih distinct later

theorem get_iff (d : Dict α) (key : String) (value : α) : d.get? key = some value ↔ (key, value) ∈ d.entries :=
  lookup_iff d.entries (ascending_distinct d.entries d.ascending) key value

theorem keys_iff (d : Dict α) (key : String) : key ∈ d.keys ↔ ∃ value, d.get? key = some value := by
  simp [keys, get_iff]

theorem of_list_perm (listed entries : List (String × α)) (ascending : Ascending entries)
    (same : listed.Perm entries) : (ofList listed).entries = entries := by
  have distinct : (listed.map Prod.fst).Nodup :=
    (same.map Prod.fst).nodup_iff.mpr (ascending_distinct entries ascending)
  have reversed : (listed.reverse.map Prod.fst).Nodup := by
    rw [List.map_reverse]
    exact List.nodup_reverse.mpr distinct
  have alike (entry : String × α) : entry ∈ (ofList listed).entries ↔ entry ∈ entries := by
    rw [← get_iff, get_of_list, lookup_iff _ reversed, List.mem_reverse, same.mem_iff]
  have whole : (ofList listed).entries.Perm entries :=
    (List.perm_ext_iff_of_nodup (ascending_distinct _ (ofList listed).ascending).of_map
      (ascending_distinct _ ascending).of_map).mpr alike
  exact List.Perm.eq_of_pairwise (fun _ _ _ _ less more => absurd less (String.lt_asymm more)) (ofList listed).ascending
    ascending whole

end Dict

end PolicyHost
