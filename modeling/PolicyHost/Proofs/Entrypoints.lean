import Mathlib.Data.List.ProdSigma
import Mathlib.Data.List.Nodup
import PolicyHost.Build.Entrypoint
import PolicyHost.Proofs.Declarations

set_option autoImplicit false

namespace PolicyHost

namespace Text

theorem split_at_last (sep : Char) (a b x y : List Char) (left : sep ∉ x) (right : sep ∉ y)
    (same : a ++ sep :: x = b ++ sep :: y) : a = b ∧ x = y := by
  rcases List.append_eq_append_iff.mp same with ⟨more, head, tail⟩ | ⟨more, head, tail⟩
  · cases more with
    | nil => simp_all
    | cons c rest =>
        obtain ⟨rfl, inner⟩ := List.cons.inj tail
        exact absurd (inner ▸ List.mem_append_right rest List.mem_cons_self) left
  · cases more with
    | nil => simp_all
    | cons c rest =>
        obtain ⟨rfl, inner⟩ := List.cons.inj tail
        exact absurd (inner ▸ List.mem_append_right rest List.mem_cons_self) right

theorem mem_split_from (sep c : Char) (piece cs : List Char) (inside : c ∈ piece ∨ c ∈ cs) :
    c = sep ∨ ∃ part ∈ splitFrom sep piece cs, c ∈ part := by
  induction cs generalizing piece with
  | nil => exact Or.inr ⟨piece.reverse, List.mem_singleton_self _, by simpa using inside⟩
  | cons first rest ih =>
      by_cases here : first = sep
      · rw [splitFrom, if_pos here]
        rcases inside with done | inside
        · exact Or.inr ⟨piece.reverse, List.mem_cons_self, List.mem_reverse.mpr done⟩
        · rcases List.mem_cons.mp inside with head | later
          · exact Or.inl (head.trans here)
          · obtain found | ⟨part, listed, held⟩ := ih [] (Or.inr later)
            · exact Or.inl found
            · exact Or.inr ⟨part, List.mem_cons_of_mem _ listed, held⟩
      · rw [splitFrom, if_neg here]
        refine ih (first :: piece) ?_
        simpa only [List.mem_cons, or_assoc, or_left_comm] using inside

end Text

namespace Source

theorem identifier_continues (cs : List Char) (named : isIdentifier cs = true) :
    ∀ c ∈ cs, continuesIdentifier c = true := by
  cases cs with
  | nil => cases named
  | cons first rest =>
      obtain ⟨starts, inner⟩ := Bool.and_eq_true_iff.mp named
      refine List.forall_mem_cons.mpr ⟨?_, List.all_eq_true.mp inner⟩
      rw [continuesIdentifier, starts, Bool.true_or]

theorem identifier_free (cs : List Char) (odd : Char) (named : isIdentifier cs = true)
    (stops : continuesIdentifier odd = false) : odd ∉ cs := by
  intro inside
  rw [identifier_continues cs named odd inside] at stops
  cases stops

theorem dotted_free (cs : List Char) (odd : Char) (dotted : isDottedPath cs = true)
    (stops : continuesIdentifier odd = false) (other : odd ≠ '.') : odd ∉ cs := by
  intro inside
  obtain same | ⟨part, listed, held⟩ := Text.mem_split_from '.' odd [] cs (Or.inr inside)
  · exact other same
  · exact identifier_free part odd (List.all_eq_true.mp dotted part listed) stops held

end Source

namespace Build

def pointed (text : String) : String := text.map fun c => if c = '/' then '.' else c

theorem pointed_free (text : String) : pointed text = text ↔ '/' ∉ text.toList := by
  constructor
  · intro same inside
    have chars : text.toList.map (fun c => if c = '/' then '.' else c) = text.toList.map id := by
      rw [← String.toList_map, List.map_id]
      exact congrArg String.toList same
    have point := List.map_inj_left.mp chars '/' inside
    simp at point
  · intro free
    have chars : text.toList.map (fun c => if c = '/' then '.' else c) = text.toList.map id := by
      refine List.map_congr_left fun c inside => if_neg ?_
      rintro rfl
      exact free inside
    rw [← String.toList_inj, pointed, String.toList_map, chars, List.map_id]

theorem pointed_slashed (package : String) (free : '/' ∉ package.toList) : pointed (slashed package) = package := by
  rw [← String.toList_inj, pointed, slashed, String.toList_map, String.toList_map, List.map_map]
  have chars : package.toList.map ((fun c => if c = '/' then '.' else c) ∘ fun c => if c = '.' then '/' else c) =
      package.toList.map id := by
    refine List.map_congr_left fun c inside => ?_
    by_cases point : c = '.'
    · simp [point]
    · have other : c ≠ '/' := fun slash => free (slash ▸ inside)
      simp [point, other]
  rw [chars, List.map_id]

theorem pointed_append (a b : String) : pointed (a ++ b) = pointed a ++ pointed b := by
  rw [← String.toList_inj]
  simp [pointed]

theorem pointed_entrypoint (package rule : String) (free : '/' ∉ package.toList) :
    pointed (entrypoint package rule) = package ++ "." ++ pointed rule := by
  have slash : pointed "/" = "." := by
    rw [← String.toList_inj]
    simp [pointed]
  rw [entrypoint, pointed_append, pointed_append, pointed_slashed package free, slash]

-- The query is the entrypoint with points for all slashes, unless a slash is part of the rule.
theorem query_pointed (package rule : String) (free : '/' ∉ package.toList) :
    query package rule = "data." ++ pointed (entrypoint package rule) ↔ '/' ∉ rule.toList := by
  rw [query, pointed_entrypoint package rule free, ← pointed_free, ← String.toList_inj, ← String.toList_inj]
  simp [eq_comm]

def Alike (sep : Char) (rule other : String) : Prop :=
  rule = other ∨ sep ∉ rule.toList ∧ sep ∉ other.toList

theorem parts_of_joined (sep : Char) (a b : List Char) (rule other : String) (alike : Alike sep rule other)
    (same : a ++ sep :: rule.toList = b ++ sep :: other.toList) : a = b ∧ rule = other := by
  rcases alike with rfl | ⟨left, right⟩
  · exact ⟨List.append_cancel_right same, rfl⟩
  · obtain ⟨heads, tails⟩ := Text.split_at_last sep a b _ _ left right same
    exact ⟨heads, String.toList_inj.mp tails⟩

theorem entrypoint_parts (package rule other head : String) (free : '/' ∉ package.toList)
    (bare : '/' ∉ other.toList) (alike : Alike '/' rule head)
    (same : entrypoint package rule = entrypoint other head) : package = other ∧ rule = head := by
  have chars : (slashed package).toList ++ '/' :: rule.toList = (slashed other).toList ++ '/' :: head.toList := by
    have whole := congrArg String.toList same
    simpa [entrypoint] using whole
  obtain ⟨packages, rules⟩ := parts_of_joined '/' _ _ rule head alike chars
  refine ⟨?_, rules⟩
  rw [← pointed_slashed package free, String.toList_inj.mp packages, pointed_slashed other bare]

theorem query_parts (package rule other head : String) (alike : Alike '.' rule head)
    (same : query package rule = query other head) : package = other ∧ rule = head := by
  have chars : ("data." ++ package).toList ++ '.' :: rule.toList = ("data." ++ other).toList ++ '.' :: head.toList := by
    have whole := congrArg String.toList same
    simpa [query] using whole
  obtain ⟨packages, rules⟩ := parts_of_joined '.' _ _ rule head alike chars
  exact ⟨String.toList_inj.mp (by simpa using packages), rules⟩

theorem identifiers_alike (sep : Char) (stops : Source.continuesIdentifier sep = false) (rule other : String)
    (named : Source.isIdentifier rule.toList = true) (called : Source.isIdentifier other.toList = true) :
    Alike sep rule other :=
  Or.inr ⟨Source.identifier_free _ sep named stops, Source.identifier_free _ sep called stops⟩

section Pairs

variable (packages rules : NameSet) (defaultRule : String)

theorem entrypoints_product : entrypoints packages rules defaultRule =
    (packages.toList ×ˢ (compiledRules rules defaultRule).toList).map fun pair => entrypoint pair.1 pair.2 := by
  rw [entrypoints]
  change _ = (List.product _ _).map _
  rw [List.product, List.map_flatMap]
  simp only [List.map_map, Function.comp_def]

theorem mem_entrypoints (name : String) : name ∈ entrypoints packages rules defaultRule ↔
    ∃ package ∈ packages, ∃ rule ∈ compiledRules rules defaultRule, name = entrypoint package rule := by
  simp only [entrypoints, List.mem_flatMap, List.mem_map, eq_comm (a := name)]
  rfl

theorem entrypoints_count : (entrypoints packages rules defaultRule).length =
    packages.toList.length * (compiledRules rules defaultRule).toList.length := by
  rw [entrypoints_product, List.length_map, List.length_product]

end Pairs

theorem compiled_rules_alike (source defaultRule : String) (sep : Char)
    (stops : Source.continuesIdentifier sep = false) (rule other : String)
    (listed : rule ∈ compiledRules (Source.rules source) defaultRule)
    (held : other ∈ compiledRules (Source.rules source) defaultRule) : Alike sep rule other := by
  cases bare : (Source.rules source).isEmpty with
  | true =>
      rw [compiledRules, if_pos bare, NameSet.mem_of_list, List.mem_singleton] at listed held
      exact Or.inl (listed.trans held.symm)
  | false =>
      have own : compiledRules (Source.rules source) defaultRule = Source.rules source := by
        rw [compiledRules, bare]
        rfl
      rw [own] at listed held
      exact identifiers_alike sep stops rule other (Source.mem_rules_identifier source rule listed)
        (Source.mem_rules_identifier source other held)

theorem package_slash_free (source package : String) (declared : package ∈ Source.packages source) :
    '/' ∉ package.toList :=
  Source.dotted_free _ '/' (Source.mem_packages_dotted source package declared) (by decide) (by decide)

theorem entrypoints_distinct (source defaultRule : String) :
    (entrypoints (Source.packages source) (Source.rules source) defaultRule).Nodup := by
  rw [entrypoints_product]
  refine List.Nodup.map_on ?_ ((NameSet.names_distinct _).product (NameSet.names_distinct _))
  intro pair inside other held same
  obtain ⟨declared, listed⟩ := List.mem_product.mp inside
  obtain ⟨declares, lists⟩ := List.mem_product.mp held
  have alike := compiled_rules_alike source defaultRule '/' (by decide) pair.2 other.2 listed lists
  exact Prod.ext_iff.mpr (entrypoint_parts _ _ _ _ (package_slash_free source pair.1 declared)
    (package_slash_free source other.1 declares) alike same)

end Build

end PolicyHost
