set_option autoImplicit false

namespace PolicyHost

section Entries

variable {α : Type}

def enter (key : String) (value : α) : List (String × α) → List (String × α)
  | [] => [(key, value)]
  | entry :: rest =>
      if key < entry.1 then (key, value) :: entry :: rest
      else if key = entry.1 then (key, value) :: rest
      else entry :: enter key value rest

def Ascending (entries : List (String × α)) : Prop := entries.Pairwise fun a b => a.1 < b.1

theorem mem_enter {key : String} {value : α} {entries : List (String × α)} {e : String × α}
    (h : e ∈ enter key value entries) : e = (key, value) ∨ e ∈ entries := by
  induction entries with
  | nil => exact Or.inl (by simpa [enter] using h)
  | cons entry rest ih =>
      simp only [enter] at h
      split at h
      · simpa using h
      · split at h
        · rcases List.mem_cons.mp h with rfl | h
          · exact Or.inl rfl
          · exact Or.inr (List.mem_cons_of_mem _ h)
        · rcases List.mem_cons.mp h with rfl | h
          · exact Or.inr List.mem_cons_self
          · exact (ih h).imp_right (List.mem_cons_of_mem _)

theorem ascending_enter (key : String) (value : α) {entries : List (String × α)}
    (h : Ascending entries) : Ascending (enter key value entries) := by
  induction entries with
  | nil => simp [enter, Ascending]
  | cons entry rest ih =>
      obtain ⟨hfirst, hrest⟩ := List.pairwise_cons.mp h
      simp only [enter]
      split
      · next less =>
          refine List.pairwise_cons.mpr ⟨fun e he => ?_, h⟩
          rcases List.mem_cons.mp he with rfl | he
          · exact less
          · exact String.lt_trans less (hfirst e he)
      · next notLess =>
          split
          · next same => exact List.pairwise_cons.mpr ⟨fun e he => same ▸ hfirst e he, hrest⟩
          · next different =>
              refine List.pairwise_cons.mpr ⟨fun e he => ?_, ih hrest⟩
              rcases mem_enter he with rfl | he
              · exact Std.lt_of_le_of_ne (String.not_lt.mp notLess) (Ne.symm different)
              · exact hfirst e he

end Entries

structure Dict (α : Type) where
  entries : List (String × α)
  ascending : Ascending entries

namespace Dict

variable {α : Type}

def empty : Dict α := ⟨[], List.Pairwise.nil⟩

instance : Inhabited (Dict α) := ⟨empty⟩

def insert (d : Dict α) (key : String) (value : α) : Dict α :=
  ⟨enter key value d.entries, ascending_enter key value d.ascending⟩

def ofList (entries : List (String × α)) : Dict α := entries.foldl (fun d e => d.insert e.1 e.2) empty

def get? (d : Dict α) (key : String) : Option α := d.entries.lookup key

def keys (d : Dict α) : List String := d.entries.map Prod.fst

def isEmpty (d : Dict α) : Bool := d.entries.isEmpty

theorem ext {d e : Dict α} (h : d.entries = e.entries) : d = e := by
  cases d; cases e; simp_all

end Dict

structure NameSet where
  dict : Dict Unit

namespace NameSet

def empty : NameSet := ⟨Dict.empty⟩

def insert (s : NameSet) (name : String) : NameSet := ⟨s.dict.insert name ()⟩

def ofList (names : List String) : NameSet := names.foldl insert empty

def toList (s : NameSet) : List String := s.dict.keys

def isEmpty (s : NameSet) : Bool := s.dict.isEmpty

instance : Membership String NameSet := ⟨fun s name => name ∈ s.toList⟩

instance (name : String) (s : NameSet) : Decidable (name ∈ s) :=
  inferInstanceAs (Decidable (name ∈ s.toList))

end NameSet

end PolicyHost
