import PolicyHost.Proofs.Names
import PolicyHost.Source.Declarations

set_option autoImplicit false

namespace PolicyHost.Source

theorem identifier_append (cs : List Char) (c : Char) (named : isIdentifier cs = true)
    (goesOn : continuesIdentifier c = true) : isIdentifier (cs ++ [c]) = true := by
  cases cs with
  | nil => cases named
  | cons first rest =>
      obtain ⟨starts, inner⟩ := Bool.and_eq_true_iff.mp named
      rw [List.cons_append, isIdentifier, starts, List.all_append, inner]
      simpa using goesOn

theorem identifier_take (cs : List Char) (n : Nat) (named : isIdentifier cs = true) (some : 0 < n) :
    isIdentifier (cs.take n) = true := by
  cases cs with
  | nil => cases named
  | cons first rest =>
      obtain ⟨starts, inner⟩ := Bool.and_eq_true_iff.mp named
      obtain ⟨m, rfl⟩ := Nat.exists_eq_succ_of_ne_zero (Nat.pos_iff_ne_zero.mp some)
      rw [List.take_succ_cons, isIdentifier, starts, Bool.true_and]
      exact List.all_eq_true.mpr fun c inside => List.all_eq_true.mp inner c (List.mem_of_mem_take inside)

theorem continues_not_dot (c : Char) (goesOn : continuesIdentifier c = true) : c ≠ '.' := by
  rintro rfl
  revert goesOn
  decide

theorem dotted_append (cs more : List Char) (dotted : isDottedPath cs = true)
    (follows : ∀ last : List Char, isIdentifier last.reverse = true →
      (Text.splitFrom '.' last more).all isIdentifier = true) : isDottedPath (cs ++ more) = true := by
  have parts : ∀ piece : List Char, (Text.splitFrom '.' piece cs).all isIdentifier = true →
      (Text.splitFrom '.' piece (cs ++ more)).all isIdentifier = true := by
    clear dotted
    induction cs with
    | nil =>
        intro piece named
        exact follows piece (by simpa [Text.splitFrom] using named)
    | cons first rest ih =>
        intro piece named
        by_cases dot : first = '.'
        · simp only [List.cons_append, Text.splitFrom, if_pos dot, List.all_cons, Bool.and_eq_true] at named ⊢
          exact ⟨named.1, ih [] named.2⟩
        · simp only [List.cons_append, Text.splitFrom, if_neg dot] at named ⊢
          exact ih (first :: piece) named
  exact parts [] dotted

theorem dotted_grown (cs : List Char) (c : Char) (dotted : isDottedPath cs = true)
    (goesOn : continuesIdentifier c = true) : isDottedPath (cs ++ [c]) = true := by
  refine dotted_append cs [c] dotted fun last named => ?_
  have grown := identifier_append last.reverse c named goesOn
  simpa [Text.splitFrom, continues_not_dot c goesOn] using grown

theorem dotted_deeper (cs : List Char) (c : Char) (dotted : isDottedPath cs = true)
    (starts : startsIdentifier c = true) : isDottedPath (cs ++ ['.', c]) = true := by
  refine dotted_append cs ['.', c] dotted fun last named => ?_
  have goesOn : continuesIdentifier c = true := by rw [continuesIdentifier, starts, Bool.true_or]
  have short : isIdentifier [c] = true := by rw [isIdentifier, starts, List.all_nil, Bool.and_self]
  simp only [Text.splitFrom, if_neg (continues_not_dot c goesOn), List.reverse_singleton, List.all_cons, named,
    short, List.all_nil, Bool.and_self, if_true]

theorem dotted_from_dotted (done cs : List Char) (dotted : isDottedPath done.reverse = true) :
    isDottedPath (dottedFrom done cs) = true := by
  induction done, cs using dottedFrom.induct with
  | case1 done => simpa only [dottedFrom] using dotted
  | case2 done c rest starts ih =>
      rw [dottedFrom, if_pos starts]
      refine ih ?_
      simpa using dotted_deeper done.reverse c dotted starts
  | case3 done c rest stops => simpa only [dottedFrom, if_neg stops] using dotted
  | case4 done c rest other goesOn ih =>
      rw [dottedFrom, if_pos goesOn]
      · refine ih ?_
        simpa using dotted_grown done.reverse c dotted goesOn
      · exact other
  | case5 done c rest other stops =>
      rw [dottedFrom, if_neg stops]
      · exact dotted
      · exact other

theorem dotted_path_dotted (cs path : List Char) (held : dottedPath? cs = some path) : isDottedPath path = true := by
  cases cs with
  | nil => cases held
  | cons c rest =>
      by_cases starts : startsIdentifier c = true
      · rw [dottedPath?, if_pos starts, Option.some.injEq] at held
        rw [← held]
        refine dotted_from_dotted [c] rest ?_
        have other : c ≠ '.' := continues_not_dot c (by simp [continuesIdentifier, starts])
        simp [isDottedPath, Text.splitOn, Text.splitFrom, other, isIdentifier, starts]
      · rw [dottedPath?, if_neg starts] at held
        cases held

theorem package_dotted (line : List Char) (package : String) (held : package? line = some package) :
    isDottedPath package.toList = true := by
  obtain ⟨rest, _, read⟩ := Option.bind_eq_some_iff.mp held
  obtain ⟨path, dotted, same⟩ := Option.map_eq_some_iff.mp read
  rw [← same, String.toList_ofList]
  exact dotted_path_dotted rest path dotted

theorem identifier_read (cs name rest : List Char) (held : identifier? cs = some (name, rest)) :
    isIdentifier name = true := by
  cases cs with
  | nil => cases held
  | cons c others =>
      by_cases starts : startsIdentifier c = true
      · rw [identifier?, if_pos starts, Option.some.injEq, Prod.mk.injEq] at held
        rw [← held.1, isIdentifier, starts, Bool.true_and]
        exact List.all_takeWhile
      · rw [identifier?, if_neg starts] at held
        cases held

theorem before_opener_identifier (name rest shorter : List Char) (named : isIdentifier name = true)
    (held : beforeOpener? name rest = some shorter) : isIdentifier shorter = true := by
  obtain ⟨word, _, cut⟩ := List.exists_of_findSome?_eq_some held
  split at cut
  · next ends =>
      simp only [Bool.and_eq_true, decide_eq_true_eq] at ends
      rw [← Option.some.inj cut]
      exact identifier_take name _ named (Nat.sub_pos_of_lt ends.1.1)
  · cases cut

theorem head_name_identifier (cs name : List Char) (held : headName? cs = some name) : isIdentifier name = true := by
  obtain ⟨⟨full, rest⟩, read, held⟩ := Option.bind_eq_some_iff.mp held
  have named := identifier_read cs full rest read
  dsimp only at held
  by_cases opens : opensBody (skipKey rest) = true
  · rw [if_pos opens, Option.some.injEq] at held
    rw [← held]
    exact named
  · rw [if_neg opens] at held
    exact before_opener_identifier full rest name named held

theorem any_head_identifier (line name : List Char) (held : anyHead? line = some name) : isIdentifier name = true := by
  rcases Option.or_eq_some_iff.mp held with marked | ⟨_, plain⟩
  · obtain ⟨rest, _, named⟩ := Option.bind_eq_some_iff.mp marked
    exact head_name_identifier rest name named
  · exact head_name_identifier line name plain

theorem head_unreserved (line : List Char) (rule : String) :
    head? line = some rule ↔ rule ∉ reserved ∧ anyHead? line = some rule.toList := by
  rw [head?, Option.bind_eq_some_iff]
  constructor
  · rintro ⟨name, read, held⟩
    dsimp only at held
    by_cases word : String.ofList name ∈ reserved
    · rw [if_pos word] at held
      cases held
    · rw [if_neg word, Option.some.injEq] at held
      subst held
      exact ⟨word, by rw [String.toList_ofList, read]⟩
  · rintro ⟨fresh, read⟩
    exact ⟨rule.toList, read, by simp [fresh]⟩

theorem head_identifier (line : List Char) (rule : String) (held : head? line = some rule) :
    isIdentifier rule.toList = true :=
  any_head_identifier line rule.toList ((head_unreserved line rule).mp held).2

theorem mem_packages_dotted (source package : String) (inside : package ∈ packages source) :
    isDottedPath package.toList = true := by
  obtain ⟨line, _, held⟩ := List.mem_filterMap.mp ((NameSet.mem_of_list _ _).mp inside)
  exact package_dotted line package held

theorem mem_rules_identifier (source rule : String) (inside : rule ∈ rules source) :
    isIdentifier rule.toList = true := by
  obtain ⟨⟨n, name⟩, entry, same⟩ := List.mem_map.mp ((NameSet.mem_of_list _ _).mp inside)
  obtain ⟨line, _, held⟩ := List.mem_filterMap.mp entry
  obtain ⟨other, head, whole⟩ := Option.map_eq_some_iff.mp held
  rw [← same, ← congrArg Prod.snd whole]
  exact head_identifier line.2 other head

end PolicyHost.Source
