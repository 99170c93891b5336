import PolicyHost.Proofs.Encodings
import PolicyHost.Trace.Assembly

set_option autoImplicit false

namespace PolicyHost.Trace

-- The key of a binding is for a variable: a term whose value is its name, or the bare name.
def NamedBy (key : Json) (name : String) : Prop := Term.value? key = some (.str name) ∨ key = .str name

def MadeUp (name : String) : Prop := "__".toList <+: name.toList ∨ "$".toList <+: name.toList

def BoundIn (events : List Event) (name : String) : Prop :=
  ∃ e ∈ events, ∃ binding ∈ e.locals, NamedBy binding.1 name

def LastBound (bindings : List (Json × Json)) (name : String) (term : Json) : Prop :=
  ∃ before key after, bindings = before ++ (key, term) :: after ∧ NamedBy key name ∧
    ∀ later ∈ after, ¬ NamedBy later.1 name

theorem made_up_iff (name : String) : ("__".isPrefixOf name || "$".isPrefixOf name) = true ↔ MadeUp name := by
  rw [Bool.or_eq_true, String.isPrefixOf, String.isPrefixOf, String.startsWith_string_iff, String.startsWith_string_iff]
  rfl

theorem variable_name_iff (key : Json) (name : String) :
    Term.variableName? key = some name ↔ NamedBy key name ∧ ¬ MadeUp name := by
  have genuine : (!("__".isPrefixOf name) && !("$".isPrefixOf name)) = true ↔ ¬ MadeUp name := by
    rw [← made_up_iff, ← Bool.not_or, Bool.not_eq_true', Bool.not_eq_true]
  rw [Term.variableName?, Option.filter_eq_some_iff, genuine]
  refine and_congr_left fun _ => ?_
  unfold NamedBy
  cases key with
  | obj members =>
      cases Term.value? (.obj members) with
      | none => simp [Json.str?]
      | some value => cases value <;> simp [Json.str?]
  | _ => simp [Term.value?, Json.get?, Json.str?]

def entered (binding : Json × Json) : Option (String × Json) :=
  (Term.variableName? binding.1).map fun name => (name, Term.plain binding.2)

theorem bindings_entered (events : List Event) :
    events.flatMap Event.bindings = (events.flatMap Event.locals).filterMap entered :=
  (List.filterMap_flatMap ..).symm

theorem last_bound_append (bindings : List (Json × Json)) (binding : Json × Json) (name : String) (term : Json) :
    LastBound (bindings ++ [binding]) name term ↔
      NamedBy binding.1 name ∧ term = binding.2 ∨ ¬ NamedBy binding.1 name ∧ LastBound bindings name term := by
  constructor
  · rintro ⟨before, key, after, split, named, last⟩
    rcases List.eq_nil_or_concat' after with rfl | ⟨rest, final, rfl⟩
    · obtain ⟨_, same⟩ := List.append_inj' split rfl
      cases same
      exact Or.inl ⟨named, rfl⟩
    · rw [← List.cons_append, ← List.append_assoc] at split
      obtain ⟨whole, same⟩ := List.append_inj' split rfl
      cases same
      exact Or.inr ⟨last binding (by simp), before, key, rest, whole, named, fun later inside => last later (by simp [inside])⟩
  · rintro (⟨named, rfl⟩ | ⟨other, before, key, after, rfl, named, last⟩)
    · exact ⟨bindings, binding.1, [], rfl, named, nofun⟩
    · refine ⟨before, key, after ++ [binding], by simp, named, ?_⟩
      exact List.forall_mem_append.mpr ⟨last, List.forall_mem_singleton.mpr other⟩

theorem last_entered (bindings : List (Json × Json)) (name : String) (value : Json) :
    (bindings.filterMap entered).reverse.lookup name = some value ↔
      ¬ MadeUp name ∧ ∃ term, LastBound bindings name term ∧ Term.plain term = value := by
  induction bindings using List.reverseRecOn with
  | nil =>
      constructor
      · nofun
      · rintro ⟨_, _, ⟨before, _, _, split, _⟩, _⟩
        cases before <;> cases split
  | append_singleton front binding ih =>
      simp only [last_bound_append]
      rw [List.filterMap_append, List.reverse_append]
      by_cases own : Term.variableName? binding.1 = some name
      · obtain ⟨named, genuine⟩ := (variable_name_iff _ _).mp own
        have found : entered binding = some (name, Term.plain binding.2) := by rw [entered, own, Option.map_some]
        simp [found, named, genuine]
      · have passed : ([binding].filterMap entered).reverse.lookup name = none := by
          cases other : Term.variableName? binding.1 with
          | none => simp [entered, other]
          | some key =>
              have different : name ≠ key := fun same => own (same ▸ other)
              simp [entered, other, List.lookup_cons, beq_eq_false_iff_ne.mpr different]
        rw [List.lookup_append, passed, Option.none_or, ih]
        refine and_congr_right fun genuine => ?_
        have unnamed : ¬ NamedBy binding.1 name := fun named => own ((variable_name_iff _ _).mpr ⟨named, genuine⟩)
        simp [unnamed]

theorem bound_last (bindings : List (Json × Json)) (name : String) :
    (∃ binding ∈ bindings, NamedBy binding.1 name) ↔ ∃ term, LastBound bindings name term := by
  induction bindings using List.reverseRecOn with
  | nil =>
      constructor
      · rintro ⟨_, inside, _⟩
        cases inside
      · rintro ⟨_, before, _, _, split, _⟩
        cases before <;> cases split
  | append_singleton front binding ih =>
      simp only [last_bound_append, exists_or, exists_and_left, ← ih]
      by_cases named : NamedBy binding.1 name
      · simp [named]
      · simp [named, or_and_right, exists_or]

theorem bound_in_last (events : List Event) (name : String) :
    BoundIn events name ↔ ∃ term, LastBound (events.flatMap Event.locals) name term := by
  rw [← bound_last]
  constructor
  · rintro ⟨e, inside, binding, held, named⟩
    exact ⟨binding, List.mem_flatMap.mpr ⟨e, inside, held⟩, named⟩
  · rintro ⟨binding, listed, named⟩
    obtain ⟨e, inside, held⟩ := List.mem_flatMap.mp listed
    exact ⟨e, inside, binding, held, named⟩

theorem bindings_found (events : List Event) (m : LineMap) (level : Level) (result : Option Json) (name : String)
    (value : Json) : (ofEvents events m level result).bindings.get? name = some value ↔
      ¬ MadeUp name ∧ ∃ term, LastBound (events.flatMap Event.locals) name term ∧ Term.plain term = value := by
  rw [← last_entered, ← bindings_entered, ← Dict.get_of_list]
  rfl

theorem bindings_last (events : List Event) (m : LineMap) (level : Level) (result : Option Json)
    (encoded : ∀ e ∈ events, ∀ binding ∈ e.locals, ∃ value, Term.Encodes binding.2 value) :
    (ofEvents events m level result).bindings.keys.Nodup ∧
    (∀ name, name ∈ (ofEvents events m level result).bindings.keys ↔ BoundIn events name ∧ ¬ MadeUp name) ∧
    ∀ name value, (ofEvents events m level result).bindings.get? name = some value ↔
      ¬ MadeUp name ∧ ∃ term, LastBound (events.flatMap Event.locals) name term ∧ Term.Encodes term value := by
  refine ⟨Dict.ascending_distinct _ (Dict.ascending _), fun name => ?_, fun name value => ?_⟩
  · simp [Dict.keys_iff, bindings_found, bound_in_last, and_comm]
  · rw [bindings_found]
    refine and_congr_right fun _ => exists_congr fun term => and_congr_right fun last => ?_
    obtain ⟨before, key, after, split, _⟩ := last
    have listed : (key, term) ∈ events.flatMap Event.locals := by simp [split]
    obtain ⟨e, inside, held⟩ := List.mem_flatMap.mp listed
    obtain ⟨meant, encodes⟩ := encoded e inside (key, term) held
    constructor
    · rintro rfl
      rw [Term.plain_encoded term meant encodes]
      exact encodes
    · exact Term.plain_encoded term value

def swappedPairs : Json :=
  Term.tag "object" (.arr [.arr [Term.tag "string" (.str "b"), Term.written (.arr [.null, .bool true])],
    .arr [Term.tag "string" (.str "a"), Term.written (.nat 1)]])

def rebinding : List Event :=
  [{ op := .eval, query := 1, parentQuery := 0, location := none, node := none, message := none
     locals := [(Term.tag "var" (.str "x"), Term.written (.str "old"))] },
   { op := .exit, query := 1, parentQuery := 0, location := none, node := none, message := none
     locals := [(Term.tag "var" (.str "x"), swappedPairs), (.str "__local0__", Term.written .null)] }]

theorem swapped_pairs_encode :
    Term.Encodes swappedPairs (.obj [("a", .nat 1), ("b", .arr [.null, .bool true])]) := by
  have each : Term.EncodesMembers
      [.arr [Term.tag "string" (.str "b"), Term.written (.arr [.null, .bool true])],
        .arr [Term.tag "string" (.str "a"), Term.written (.nat 1)]]
      [("b", .arr [.null, .bool true]), ("a", .nat 1)] := by
    refine .cons _ _ _ _ _ _ (Term.tag_tagged _ _) (Term.written_encodes _ ?_)
      (.cons _ _ _ _ _ _ (Term.tag_tagged _ _) (Term.written_encodes _ (.num _)) .nil)
    exact .arr _ (by simp [Json.Proper.null, Json.Proper.bool])
  exact .obj _ _ _ _ (Term.tag_tagged _ _) each (List.pairwise_pair.mpr (by decide)) (.swap _ _ _)

theorem rebinding_encoded : ∀ e ∈ rebinding, ∀ binding ∈ e.locals, ∃ value, Term.Encodes binding.2 value := by
  have old := Term.written_encodes (.str "old") (.str _)
  have none := Term.written_encodes .null .null
  simp only [rebinding, List.forall_mem_cons]
  exact ⟨⟨⟨_, old⟩, nofun⟩, ⟨⟨_, swapped_pairs_encode⟩, ⟨_, none⟩, nofun⟩, nofun⟩

theorem bindings_last_rebound :
    (∀ e ∈ rebinding, ∀ binding ∈ e.locals, ∃ value, Term.Encodes binding.2 value) ∧
    (ofEvents rebinding .empty .full none).bindings.get? "x" =
      some (.obj [("a", .nat 1), ("b", .arr [.null, .bool true])]) ∧
    "__local0__" ∉ (ofEvents rebinding .empty .full none).bindings.keys := by
  obtain ⟨_, keys, values⟩ := bindings_last rebinding .empty .full none rebinding_encoded
  have genuine : ¬ MadeUp "x" := by
    rw [MadeUp]
    decide
  have last : LastBound (rebinding.flatMap Event.locals) "x" swappedPairs := by
    refine ⟨_, _, [(.str "__local0__", Term.written .null)], rfl, Or.inl rfl, List.forall_mem_singleton.mpr ?_⟩
    rintro (named | named)
    · cases named
    · exact absurd (Json.str.inj named) (by decide)
  refine ⟨rebinding_encoded, (values _ _).mpr ⟨genuine, _, last, swapped_pairs_encode⟩, fun kept => ?_⟩
  refine ((keys _).mp kept).2 ?_
  rw [MadeUp]
  decide

end PolicyHost.Trace
