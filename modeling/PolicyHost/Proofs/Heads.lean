import PolicyHost.Proofs.Declarations

set_option autoImplicit false

namespace PolicyHost.Source

def Ends (kind : Char → Bool) (rest : List Char) : Prop := ∀ c, rest.head? = some c → kind c = false

theorem ends_cons (kind : Char → Bool) (c : Char) (rest : List Char) (other : kind c = false) : Ends kind (c :: rest) := by
  rintro _ ⟨⟩
  exact other

theorem ends_none (kind : Char → Bool) (cs : List Char) (none : ∀ c ∈ cs, kind c = false) : Ends kind cs :=
  fun c first => none c (List.mem_of_head? first)

instance decidableEnds (kind : Char → Bool) (rest : List Char) : Decidable (Ends kind rest) :=
  match rest with
  | [] => isTrue nofun
  | c :: rest => decidable_of_iff (kind c = false) ⟨ends_cons kind c rest, fun ends => ends c rfl⟩

theorem drop_run (kind : Char → Bool) (run rest : List Char) (all : ∀ c ∈ run, kind c = true) (ends : Ends kind rest) :
    (run ++ rest).dropWhile kind = rest := by
  rw [List.dropWhile_append_of_pos all]
  cases rest with
  | nil => rfl
  | cons c rest => exact List.dropWhile_cons_of_neg (by simp [ends c rfl])

theorem take_run (kind : Char → Bool) (run rest : List Char) (all : ∀ c ∈ run, kind c = true) (ends : Ends kind rest) :
    (run ++ rest).takeWhile kind = run := by
  have stops : rest.takeWhile kind = [] := by
    cases rest with
    | nil => rfl
    | cons c rest => exact List.takeWhile_cons_of_neg (by simp [ends c rfl])
  rw [List.takeWhile_append_of_pos all, stops, List.append_nil]

theorem run_next (kind : Char → Bool) (run other rest more : List Char) (all : ∀ c ∈ run, kind c = true)
    (also : ∀ c ∈ other, kind c = true) (ends : Ends kind rest) (stops : Ends kind more)
    (same : run ++ rest = other ++ more) : run = other ∧ rest = more := by
  have runs := take_run kind run rest all ends
  have rests := drop_run kind run rest all ends
  rw [same, take_run kind other more also stops] at runs
  rw [same, drop_run kind other more also stops] at rests
  exact ⟨runs.symm, rests.symm⟩

theorem run_ends (kind : Char → Bool) (cs : List Char) : Ends kind (cs.dropWhile kind) := by
  intro c first
  have stopped := List.head?_dropWhile_not kind cs
  rwa [first] at stopped

def Blanks (cs : List Char) : Prop := ∀ c ∈ cs, Text.isBlank c = true

theorem skip_blanks_split (cs : List Char) : ∃ blanks, Blanks blanks ∧ cs = blanks ++ Text.skipBlanks cs :=
  ⟨cs.takeWhile Text.isBlank, List.all_eq_true.mp List.all_takeWhile, List.takeWhile_append_dropWhile.symm⟩

inductive Opening : List Char → Prop where
  | assign (rest : List Char) : Opening (':' :: '=' :: rest)
  | equal (rest : List Char) (single : rest.head? ≠ some '=') : Opening ('=' :: rest)
  | brace (rest : List Char) : Opening ('\x7b' :: rest)
  | word (word rest : List Char) (opener : word ∈ openers) (ends : Text.wordEnds rest = true) : Opening (word ++ rest)

inductive Follows : List Char → Prop where
  | bare (blanks rest : List Char) (blank : Blanks blanks) (opens : Opening rest) : Follows (blanks ++ rest)
  | keyed (before key behind rest : List Char) (blankBefore : Blanks before) (closed : ']' ∉ key)
      (blankBehind : Blanks behind) (opens : Opening rest) :
      Follows (before ++ '[' :: (key ++ ']' :: (behind ++ rest)))

structure Written (cs name rest : List Char) : Prop where
  split : cs = name ++ rest
  named : isIdentifier name = true
  whole : Ends continuesIdentifier rest

inductive Place (line : List Char) : List Char → Prop where
  | first : Place line line
  | marked (blanks cs : List Char) (filled : blanks ≠ []) (blank : Blanks blanks)
      (split : line = "default".toList ++ blanks ++ cs) : Place line cs

-- The whole identifier at the front of a text is the name in a head.
def Heads (cs name : List Char) : Prop := ∃ rest, Written cs name rest ∧ Follows rest

-- No head begins with the identifier at the front of a text, but it goes on after the name with the letters of a word
-- that would open a body.
def Clips (cs name : List Char) : Prop :=
  ∃ word rest, Written cs (name ++ word) rest ∧ ¬ Follows rest ∧ name ≠ [] ∧ word ∈ openers ∧ Text.wordEnds rest = true

def Declares (line name : List Char) : Prop := ∃ cs, Place line cs ∧ Heads cs name

def Clipped (line name : List Char) : Prop := ∃ cs, Place line cs ∧ Clips cs name

theorem opens_with_iff (word cs : List Char) :
    opensWith word cs = true ↔ ∃ rest, cs = word ++ rest ∧ Text.wordEnds rest = true := by
  simp only [opensWith, Bool.and_eq_true, List.isPrefixOf_iff_prefix]
  constructor
  · rintro ⟨⟨rest, rfl⟩, ends⟩
    exact ⟨rest, rfl, by simpa using ends⟩
  · rintro ⟨rest, rfl, ends⟩
    exact ⟨List.prefix_append word rest, by simpa using ends⟩

theorem opener_cases (word : List Char) (opener : word ∈ openers) : word = "if".toList ∨ word = "contains".toList := by
  simpa [openers] using opener

theorem opens_body_iff (cs : List Char) : opensBody cs = true ↔ Opening cs := by
  constructor
  · intro opens
    unfold opensBody at opens
    split at opens
    · exact .assign _
    · cases opens
    · next rest other =>
        refine .equal rest fun first => ?_
        obtain ⟨tail, rfl⟩ := List.head?_eq_some_iff.mp first
        exact other tail rfl
    · exact .brace _
    · obtain ⟨word, opener, goesOn⟩ := List.any_eq_true.mp opens
      obtain ⟨rest, rfl, ends⟩ := (opens_with_iff word _).mp goesOn
      exact .word word rest opener ends
  · intro opening
    cases opening with
    | assign rest => rfl
    | brace rest => rfl
    | equal rest single =>
        cases rest with
        | nil => rfl
        | cons c rest =>
            have other : c ≠ '=' := fun same => single (by rw [same, List.head?_cons])
            simp [opensBody, other]
    | word word rest opener ends =>
        have goesOn : (openers.any fun opener => opensWith opener (word ++ rest)) = true :=
          List.any_eq_true.mpr ⟨word, opener, (opens_with_iff word _).mpr ⟨rest, rfl, ends⟩⟩
        rcases opener_cases word opener with rfl | rfl
        · exact goesOn
        · exact goesOn

theorem opening_first (cs : List Char) (opening : Opening cs) :
    Ends Text.isBlank cs ∧ ∀ rest, cs ≠ '[' :: rest := by
  cases opening with
  | assign rest => exact ⟨by simp [Ends, Text.isBlank], by simp⟩
  | equal rest single => exact ⟨by simp [Ends, Text.isBlank], by simp⟩
  | brace rest => exact ⟨by simp [Ends, Text.isBlank], by simp⟩
  | word word rest opener ends =>
      rcases opener_cases word opener with rfl | rfl
      · exact ⟨by simp [Ends, Text.isBlank], by simp⟩
      · exact ⟨by simp [Ends, Text.isBlank], by simp⟩

theorem skip_blanks_run (blanks rest : List Char) (blank : Blanks blanks) (ends : Ends Text.isBlank rest) :
    Text.skipBlanks (blanks ++ rest) = rest := drop_run Text.isBlank blanks rest blank ends

theorem blanks_reverse (cs : List Char) (blank : Blanks cs) : Blanks cs.reverse :=
  fun c inside => blank c (List.mem_reverse.mp inside)

theorem trim_end_run (cs back : List Char) (blank : Blanks back) (ends : Ends Text.isBlank cs.reverse) :
    Text.trimEnd (cs ++ back) = cs := by
  have rest : (cs ++ back).reverse.dropWhile Text.isBlank = cs.reverse := by
    rw [List.reverse_append]
    exact drop_run Text.isBlank back.reverse cs.reverse (blanks_reverse back blank) ends
  rw [Text.trimEnd, rest, List.reverse_reverse]

theorem trim_run (front cs back : List Char) (blankFront : Blanks front) (blankBack : Blanks back)
    (filled : cs ≠ []) (first : Ends Text.isBlank cs) (last : Ends Text.isBlank cs.reverse) :
    Text.trim (front ++ (cs ++ back)) = cs := by
  have solid : Ends Text.isBlank (cs ++ back) := by
    obtain ⟨c, rest, rfl⟩ := List.exists_cons_of_ne_nil filled
    exact ends_cons _ c _ (first c rfl)
  rw [Text.trim, skip_blanks_run front _ blankFront solid, trim_end_run cs back blankBack last]

theorem trim_split (cs : List Char) :
    ∃ front back, Blanks front ∧ Blanks back ∧ cs = front ++ (Text.trim cs ++ back) := by
  obtain ⟨front, blankFront, splitFront⟩ := skip_blanks_split cs
  obtain ⟨back, blankBack, splitBack⟩ := skip_blanks_split (Text.skipBlanks cs).reverse
  refine ⟨front, back.reverse, blankFront, blanks_reverse back blankBack, ?_⟩
  have rest : Text.skipBlanks cs = Text.trim cs ++ back.reverse := by
    rw [Text.trim, Text.trimEnd, ← List.reverse_append]
    exact List.reverse_eq_iff.mp splitBack
  rw [← rest]
  exact splitFront

theorem trim_filled_iff (cs : List Char) : Text.trim cs ≠ [] ↔ ∃ c ∈ cs, Text.isBlank c = false := by
  constructor
  · intro filled
    cases all : cs.all Text.isBlank with
    | true =>
        have skipped := skip_blanks_run cs [] (List.all_eq_true.mp all) nofun
        rw [List.append_nil] at skipped
        exact absurd (by rw [Text.trim, skipped]; rfl) filled
    | false =>
        obtain ⟨c, inside, solid⟩ := List.all_eq_false.mp all
        exact ⟨c, inside, by simpa using solid⟩
  · rintro ⟨c, inside, solid⟩ empty
    obtain ⟨front, back, blankFront, blankBack, split⟩ := trim_split cs
    rw [split, empty, List.nil_append] at inside
    have blank : Text.isBlank c = true := by
      rcases List.mem_append.mp inside with held | held
      · exact blankFront c held
      · exact blankBack c held
    rw [solid] at blank
    cases blank

theorem skip_key_bare (blanks rest : List Char) (blank : Blanks blanks) (opens : Opening rest) :
    skipKey (blanks ++ rest) = rest := by
  obtain ⟨solid, unbracketed⟩ := opening_first rest opens
  rw [skipKey, skip_blanks_run blanks rest blank solid]
  split
  · next rest' => exact absurd rfl (unbracketed rest')
  · rfl

theorem skip_key_keyed (before key behind rest : List Char) (blankBefore : Blanks before) (closed : ']' ∉ key)
    (blankBehind : Blanks behind) (opens : Opening rest) :
    skipKey (before ++ '[' :: (key ++ ']' :: (behind ++ rest))) = rest := by
  have bracket : Ends Text.isBlank ('[' :: (key ++ ']' :: (behind ++ rest))) := by simp [Ends, Text.isBlank]
  have inside : ∀ c ∈ key, decide (c ≠ ']') = true := fun c held =>
    decide_eq_true fun same => closed (same ▸ held)
  have close : (key ++ ']' :: (behind ++ rest)).dropWhile (· ≠ ']') = ']' :: (behind ++ rest) :=
    drop_run _ key _ inside (by simp [Ends])
  rw [skipKey, skip_blanks_run before _ blankBefore bracket]
  simp only [close]
  exact skip_blanks_run behind rest blankBehind (opening_first rest opens).1

theorem follows_iff (cs : List Char) : opensBody (skipKey cs) = true ↔ Follows cs := by
  rw [opens_body_iff]
  constructor
  · intro opens
    obtain ⟨blanks, blank, split⟩ := skip_blanks_split cs
    unfold skipKey at opens
    split at opens
    · next rest bracket =>
        have key : rest = rest.takeWhile (· ≠ ']') ++ rest.dropWhile (· ≠ ']') := List.takeWhile_append_dropWhile.symm
        rw [bracket, key] at split
        split at opens
        · next c tail close =>
            have stopped := run_ends (fun c => decide (c ≠ ']')) rest c (by rw [close, List.head?_cons])
            have last : c = ']' := by simpa using stopped
            obtain ⟨behind, blankBehind, splitBehind⟩ := skip_blanks_split tail
            have closed : ']' ∉ rest.takeWhile (· ≠ ']') := fun inside => by
              simpa using List.all_eq_true.mp List.all_takeWhile ']' inside
            rw [split, close, last, splitBehind]
            exact .keyed blanks _ behind _ blank closed blankBehind opens
        · exact absurd rfl ((opening_first _ opens).2 rest)
    · next other =>
        rw [split]
        exact .bare blanks _ blank opens
  · intro follows
    cases follows with
    | bare blanks rest blank opens => rwa [skip_key_bare blanks rest blank opens]
    | keyed before key behind rest blankBefore closed blankBehind opens =>
        rwa [skip_key_keyed before key behind rest blankBefore closed blankBehind opens]

theorem identifier_iff (cs name rest : List Char) : identifier? cs = some (name, rest) ↔ Written cs name rest := by
  constructor
  · intro held
    have named := identifier_read cs name rest held
    cases cs with
    | nil => cases held
    | cons c tail =>
        by_cases starts : startsIdentifier c = true
        · rw [identifier?, if_pos starts, Option.some.injEq, Prod.mk.injEq] at held
          obtain ⟨rfl, rfl⟩ := held
          refine ⟨?_, named, run_ends continuesIdentifier tail⟩
          rw [List.cons_append, List.takeWhile_append_dropWhile]
        · rw [identifier?, if_neg starts] at held
          cases held
  · rintro ⟨rfl, named, whole⟩
    cases name with
    | nil => cases named
    | cons c tail =>
        obtain ⟨starts, inner⟩ := Bool.and_eq_true_iff.mp named
        have all := List.all_eq_true.mp inner
        rw [List.cons_append, identifier?, if_pos starts, take_run continuesIdentifier tail rest all whole,
          drop_run continuesIdentifier tail rest all whole]

theorem opener_unique (front back word other : List Char) (opener : word ∈ openers) (another : other ∈ openers)
    (same : front ++ word = back ++ other) : word = other := by
  have last := congrArg List.getLast? same
  rcases opener_cases word opener with rfl | rfl
  · rcases opener_cases other another with rfl | rfl
    · rfl
    · simp at last
  · rcases opener_cases other another with rfl | rfl
    · simp at last
    · rfl

theorem before_opener_clipped (name rest shorter : List Char) (held : beforeOpener? name rest = some shorter) :
    ∃ word ∈ openers, name = shorter ++ word ∧ shorter ≠ [] ∧ Text.wordEnds rest = true := by
  obtain ⟨word, opener, cut⟩ := List.exists_of_findSome?_eq_some held
  split at cut
  · next ends =>
      simp only [Bool.and_eq_true, decide_eq_true_eq, List.isSuffixOf_iff_suffix] at ends
      obtain ⟨⟨longer, front, rfl⟩, goesOn⟩ := ends
      rw [Option.some.injEq, List.length_append, Nat.add_sub_cancel, List.take_left] at cut
      subst cut
      refine ⟨word, opener, rfl, ?_, goesOn⟩
      rintro rfl
      simp at longer
  · cases cut

theorem before_opener_iff (name rest shorter : List Char) :
    beforeOpener? name rest = some shorter ↔
      ∃ word ∈ openers, name = shorter ++ word ∧ shorter ≠ [] ∧ Text.wordEnds rest = true := by
  refine ⟨before_opener_clipped name rest shorter, ?_⟩
  rintro ⟨word, opener, rfl, filled, ends⟩
  have longer := List.length_pos_iff.mpr filled
  have found : (beforeOpener? (shorter ++ word) rest).isSome = true :=
    List.findSome?_isSome_iff.mpr ⟨word, opener, by simp [longer, ends]⟩
  obtain ⟨other, held⟩ := Option.isSome_iff_exists.mp found
  obtain ⟨another, listed, same, _⟩ := before_opener_clipped (shorter ++ word) rest other held
  obtain rfl := opener_unique shorter other word another opener listed same
  rw [held, List.append_cancel_right same]

theorem head_name_iff (cs name : List Char) : headName? cs = some name ↔ Heads cs name ∨ Clips cs name := by
  constructor
  · intro held
    obtain ⟨⟨full, rest⟩, read, held⟩ := Option.bind_eq_some_iff.mp held
    have written := (identifier_iff cs full rest).mp read
    dsimp only at held
    by_cases opens : opensBody (skipKey rest) = true
    · rw [if_pos opens, Option.some.injEq] at held
      subst held
      exact .inl ⟨rest, written, (follows_iff rest).mp opens⟩
    · rw [if_neg opens] at held
      obtain ⟨word, opener, rfl, filled, ends⟩ := (before_opener_iff full rest name).mp held
      exact .inr ⟨word, rest, written, fun follows => opens ((follows_iff rest).mpr follows), filled, opener, ends⟩
  · rintro (⟨rest, written, follows⟩ | ⟨word, rest, written, stuck, filled, opener, ends⟩)
    · rw [headName?, (identifier_iff cs name rest).mpr written, Option.bind_some]
      exact if_pos ((follows_iff rest).mpr follows)
    · rw [headName?, (identifier_iff cs (name ++ word) rest).mpr written, Option.bind_some]
      refine (if_neg fun opens => stuck ((follows_iff rest).mp opens)).trans ?_
      exact (before_opener_iff (name ++ word) rest name).mpr ⟨word, opener, rfl, filled, ends⟩

theorem after_word_iff (word line cs : List Char) :
    afterWord? word line = some cs ↔
      Ends Text.isBlank cs ∧ ∃ blanks, blanks ≠ [] ∧ Blanks blanks ∧ line = word ++ blanks ++ cs := by
  constructor
  · intro held
    by_cases begins : word.isPrefixOf line = true
    · obtain ⟨tail, rfl⟩ := List.isPrefixOf_iff_prefix.mp begins
      rw [afterWord?, if_pos begins, List.drop_left] at held
      cases tail with
      | nil => cases held
      | cons c rest =>
          by_cases blank : Text.isBlank c = true
          · simp only [if_pos blank, Option.some.injEq] at held
            subst held
            obtain ⟨blanks, all, split⟩ := skip_blanks_split rest
            refine ⟨run_ends Text.isBlank rest, c :: blanks, List.cons_ne_nil c blanks, ?_, ?_⟩
            · exact List.forall_mem_cons.mpr ⟨blank, all⟩
            · rw [List.append_assoc, List.cons_append, ← split]
          · simp only [if_neg blank] at held
            cases held
    · rw [afterWord?, if_neg begins] at held
      cases held
  · rintro ⟨solid, blanks, filled, all, rfl⟩
    obtain ⟨c, blanks, rfl⟩ := List.exists_cons_of_ne_nil filled
    obtain ⟨blank, all⟩ := List.forall_mem_cons.mp all
    have begins : word.isPrefixOf (word ++ (c :: blanks ++ cs)) = true :=
      List.isPrefixOf_iff_prefix.mpr (List.prefix_append word _)
    rw [List.append_assoc, afterWord?, if_pos begins, List.drop_left]
    simp only [List.cons_append, if_pos blank, skip_blanks_run blanks cs all solid]

theorem identifier_solid (c : Char) (inside : continuesIdentifier c = true) : Text.isBlank c = false := by
  by_cases low : c = '_'
  · rw [low]
    rfl
  · have written : ('a' ≤ c ∧ c ≤ 'z') ∨ ('A' ≤ c ∧ c ≤ 'Z') ∨ ('0' ≤ c ∧ c ≤ '9') := by
      simpa [continuesIdentifier, startsIdentifier, Text.isLetter, Text.isDigit, low, or_assoc] using inside
    have range : (97 ≤ c.toNat ∧ c.toNat ≤ 122) ∨ (65 ≤ c.toNat ∧ c.toNat ≤ 90) ∨ (48 ≤ c.toNat ∧ c.toNat ≤ 57) :=
      written
    simp [Text.isBlank]
    omega

theorem written_solid (cs name rest : List Char) (written : Written cs name rest) : Ends Text.isBlank cs := by
  intro c first
  have named := written.named
  rw [written.split] at first
  cases name with
  | nil => cases named
  | cons d tail =>
      rw [List.cons_append, List.head?_cons, Option.some.injEq] at first
      subst first
      exact identifier_solid d (Bool.or_eq_true_iff.mpr (.inl (Bool.and_eq_true_iff.mp named).1))

theorem head_name_solid (cs name : List Char) (held : headName? cs = some name) : Ends Text.isBlank cs := by
  rcases (head_name_iff cs name).mp held with ⟨rest, written, _⟩ | ⟨word, rest, written, _⟩
  · exact written_solid cs name rest written
  · exact written_solid cs (name ++ word) rest written

theorem written_unique (cs name rest other others : List Char) (written : Written cs name rest)
    (again : Written cs other others) : name = other ∧ rest = others := by
  have same := (identifier_iff cs name rest).mpr written
  rw [(identifier_iff cs other others).mpr again, Option.some.injEq, Prod.mk.injEq] at same
  exact ⟨same.1.symm, same.2.symm⟩

-- Without its mark, the head of a default would be read as one of the word for a default.
theorem marked_written (line blanks cs : List Char) (filled : blanks ≠ []) (blank : Blanks blanks)
    (split : line = "default".toList ++ blanks ++ cs) : Written line "default".toList (blanks ++ cs) := by
  refine ⟨by rw [split, List.append_assoc], by decide, ?_⟩
  obtain ⟨c, blanks, rfl⟩ := List.exists_cons_of_ne_nil filled
  rintro _ ⟨⟩
  refine Bool.eq_false_iff.mpr fun inside => ?_
  have solid := identifier_solid c inside
  rw [blank c List.mem_cons_self] at solid
  cases solid

theorem marked_default (line cs name : List Char) (marked : afterWord? "default".toList line = some cs)
    (held : headName? line = some name) : name = "default".toList := by
  obtain ⟨_, blanks, filled, blank, split⟩ := (after_word_iff _ line cs).mp marked
  have written := marked_written line blanks cs filled blank split
  rcases (head_name_iff line name).mp held with ⟨rest, other, _⟩ | ⟨word, rest, other, _, _, opener, _⟩
  · exact (written_unique line name rest _ _ other written).1
  · have last := congrArg List.getLast? (written_unique line (name ++ word) rest _ _ other written).1
    rcases opener_cases word opener with rfl | rfl <;> simp at last

theorem any_head_iff (line name : List Char) (other : name ≠ "default".toList) :
    anyHead? line = some name ↔ ∃ cs, Place line cs ∧ headName? cs = some name := by
  constructor
  · intro held
    rcases Option.or_eq_some_iff.mp held with marked | ⟨_, plain⟩
    · obtain ⟨cs, after, named⟩ := Option.bind_eq_some_iff.mp marked
      obtain ⟨_, blanks, filled, blank, split⟩ := (after_word_iff _ line cs).mp after
      exact ⟨cs, .marked blanks cs filled blank split, named⟩
    · exact ⟨line, .first, plain⟩
  · rintro ⟨cs, place, named⟩
    cases place with
    | first =>
        cases after : afterWord? "default".toList line with
        | none => rw [anyHead?, after, Option.bind_none, Option.none_or, named]
        | some rest => exact absurd (marked_default line rest name after named) other
    | marked blanks cs filled blank split =>
        have after := (after_word_iff _ line cs).mpr ⟨head_name_solid cs name named, blanks, filled, blank, split⟩
        rw [anyHead?, after, Option.bind_some, named, Option.some_or]

theorem head_iff (line : List Char) (rule : String) :
    head? line = some rule ↔ rule ∉ reserved ∧ (Declares line rule.toList ∨ Clipped line rule.toList) := by
  rw [head_unreserved]
  refine and_congr_right fun fresh => ?_
  have other : rule.toList ≠ "default".toList := fun same =>
    fresh (String.toList_injective same ▸ by decide)
  rw [any_head_iff line rule.toList other, Declares, Clipped, ← exists_or]
  refine exists_congr fun cs => ?_
  rw [head_name_iff, and_or_left]

theorem mem_numbered (source : String) (n : UInt32) (line : List Char) :
    (n, line) ∈ numbered source ↔ 0 < n ∧ (Text.lines source.toList)[n.toNat - 1]? = some line := by
  have positive : 0 < n ↔ 1 ≤ n.toNat := UInt32.lt_iff_toNat_lt
  rw [positive, ← List.mk_mem_zipIdx_iff_le_and_getElem?_sub, numbered, List.mem_filterMap]
  constructor
  · rintro ⟨⟨text, k⟩, held, read⟩
    by_cases small : k < UInt32.size
    · simp only [dif_pos small, Option.some.injEq, Prod.mk.injEq] at read
      obtain ⟨rfl, rfl⟩ := read
      rwa [UInt32.toNat_ofNatLT]
    · simp only [dif_neg small] at read
      cases read
  · intro held
    exact ⟨(line, n.toNat), held, by simp [n.toNat_lt]⟩

theorem mem_heads (source : String) (n : UInt32) (rule : String) :
    (n, rule) ∈ heads source ↔ ∃ line, (n, line) ∈ numbered source ∧ head? line = some rule := by
  rw [heads, List.mem_filterMap]
  constructor
  · rintro ⟨⟨k, line⟩, held, read⟩
    obtain ⟨name, head, same⟩ := Option.map_eq_some_iff.mp read
    obtain ⟨rfl, rfl⟩ := Prod.mk.inj same
    exact ⟨line, held, head⟩
  · rintro ⟨line, held, head⟩
    exact ⟨(n, line), held, Option.map_eq_some_iff.mpr ⟨rule, head, rfl⟩⟩

theorem heads_declared (source : String) (n : UInt32) (rule : String) :
    (n, rule) ∈ heads source ↔
      ∃ line, 0 < n ∧ (Text.lines source.toList)[n.toNat - 1]? = some line ∧ rule ∉ reserved ∧
        (Declares line rule.toList ∨ Clipped line rule.toList) := by
  rw [mem_heads]
  refine exists_congr fun line => ?_
  rw [mem_numbered, head_iff, and_assoc]

theorem function_clipped :
    ¬ ∀ (source : String) (n : UInt32) (rule : String), (n, rule) ∈ heads source ↔
      ∃ line, 0 < n ∧ (Text.lines source.toList)[n.toNat - 1]? = some line ∧ rule ∉ reserved ∧
        Declares line rule.toList := by
  intro claimed
  have reported : (2, "is_g") ∈ heads "package media\nis_gif(name) := name\n" := by decide +kernel
  obtain ⟨line, _, held, _, cs, place, rest, written, _⟩ := (claimed _ _ _).mp reported
  have same : line = "is_gif(name) := name".toList := by
    rw [← Option.some.injEq, ← held]
    decide +kernel
  subst same
  cases place with
  | first =>
      have whole : Written "is_gif(name) := name".toList "is_gif".toList "(name) := name".toList :=
        ⟨rfl, by decide, by rintro _ ⟨⟩; rfl⟩
      exact absurd (written_unique _ _ rest _ _ written whole).1 (by decide)
  | marked blanks cs filled blank split =>
      have first := congrArg List.head? split
      simp at first

end PolicyHost.Source
