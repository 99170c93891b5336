import PolicyHost.Proofs.Dictionaries
import PolicyHost.Proofs.RoundTrips
import PolicyHost.Trace.Term

set_option autoImplicit false

namespace PolicyHost.Trace.Term

structure Tagged (term : Json) (kind : String) (value : Json) : Prop where
  typed : term.get? "type" = some (.str kind)
  valued : term.get? "value" = some value

mutual

inductive Encodes : Json → Json → Prop where
  | null (term : Json) (tagged : Tagged term "null" .null) : Encodes term .null
  | bool (term : Json) (value : Bool) (tagged : Tagged term "boolean" (.bool value)) : Encodes term (.bool value)
  | num (term : Json) (value : Json.Number) (tagged : Tagged term "number" (.num value)) : Encodes term (.num value)
  | str (term : Json) (value : String) (tagged : Tagged term "string" (.str value)) : Encodes term (.str value)
  | arr (term : Json) (terms items : List Json) (tagged : Tagged term "array" (.arr terms))
      (each : EncodesItems terms items) : Encodes term (.arr items)
  | obj (term : Json) (pairs : List Json) (listed members : List (String × Json))
      (tagged : Tagged term "object" (.arr pairs)) (each : EncodesMembers pairs listed)
      (ascending : Ascending members) (same : listed.Perm members) : Encodes term (.obj members)

inductive EncodesItems : List Json → List Json → Prop where
  | nil : EncodesItems [] []
  | cons (term item : Json) (terms items : List Json) (first : Encodes term item) (rest : EncodesItems terms items) :
      EncodesItems (term :: terms) (item :: items)

inductive EncodesMembers : List Json → List (String × Json) → Prop where
  | nil : EncodesMembers [] []
  | cons (key term : Json) (name : String) (value : Json) (pairs : List Json) (listed : List (String × Json))
      (named : Tagged key "string" (.str name)) (first : Encodes term value) (rest : EncodesMembers pairs listed) :
      EncodesMembers (.arr [key, term] :: pairs) ((name, value) :: listed)

end

theorem kind_some (term : Json) (kind : String) : kind? term = some kind ↔ term.get? "type" = some (.str kind) := by
  unfold kind?
  cases term.get? "type" with
  | none => simp
  | some given => cases given <;> simp [Json.str?]

theorem Tagged.kind {term value : Json} {kind : String} (tagged : Tagged term kind value) : kind? term = some kind :=
  (kind_some term kind).mpr tagged.typed

theorem Tagged.value {term value : Json} {kind : String} (tagged : Tagged term kind value) : value? term = some value :=
  tagged.valued

section Plain

variable (term : Json)

theorem plain_null (value : Json) (tagged : Tagged term "null" value) : plain term = .null := by
  rw [plain]
  split
  · next none => cases none.symm.trans tagged.value
  · simp only [tagged.kind]

theorem plain_array (terms : List Json) (tagged : Tagged term "array" (.arr terms)) :
    plain term = .arr (plainItems terms) := by
  rw [plain]
  split
  · next none => cases none.symm.trans tagged.value
  · next value held =>
      cases held.symm.trans tagged.value
      simp only [tagged.kind]

theorem plain_object (pairs : List Json) (tagged : Tagged term "object" (.arr pairs)) :
    plain term = .ofMembers (plainPairs pairs) := by
  rw [plain]
  split
  · next none => cases none.symm.trans tagged.value
  · next value held =>
      cases held.symm.trans tagged.value
      simp only [tagged.kind]

theorem plain_scalar (kind : String) (value : Json) (scalar : kind = "boolean" ∨ kind = "number" ∨ kind = "string")
    (tagged : Tagged term kind value) : plain term = value := by
  rw [plain]
  split
  · next none => cases none.symm.trans tagged.value
  · next held =>
      cases held.symm.trans tagged.value
      rcases scalar with rfl | rfl | rfl
      · simp [tagged.kind]
      · simp [tagged.kind]
      · simp [tagged.kind]

theorem tagged_smaller (kind : String) (items : List Json) (tagged : Tagged term kind (.arr items)) :
    sizeOf items < sizeOf term := by
  have below := sizeOf_value?_lt tagged.value
  rw [Json.arr.sizeOf_spec] at below
  omega

end Plain

mutual

theorem plain_encoded (term value : Json) (encodes : Encodes term value) : plain term = value := by
  cases encodes with
  | null _ tagged => exact plain_null term _ tagged
  | bool _ value tagged => exact plain_scalar term "boolean" _ (Or.inl rfl) tagged
  | num _ value tagged => exact plain_scalar term "number" _ (Or.inr (Or.inl rfl)) tagged
  | str _ value tagged => exact plain_scalar term "string" _ (Or.inr (Or.inr rfl)) tagged
  | arr _ terms items tagged each =>
      have smaller := tagged_smaller term "array" _ tagged
      rw [plain_array term terms tagged, plain_items_encoded terms items each]
  | obj _ pairs listed members tagged each ascending same =>
      have smaller := tagged_smaller term "object" _ tagged
      rw [plain_object term pairs tagged, plain_members_encoded pairs listed each, Json.ofMembers,
        Dict.of_list_perm listed members ascending same]
  termination_by sizeOf term

theorem plain_items_encoded (terms items : List Json) (each : EncodesItems terms items) : plainItems terms = items := by
  cases each with
  | nil => rw [plainItems]
  | cons term item terms items first rest =>
      rw [plainItems, plain_encoded term item first, plain_items_encoded terms items rest]
  termination_by sizeOf terms

theorem plain_members_encoded (pairs : List Json) (listed : List (String × Json))
    (each : EncodesMembers pairs listed) : plainPairs pairs = listed := by
  cases each with
  | nil => rw [plainPairs]
  | cons key term name value pairs listed named first rest =>
      rw [plainPairs, plain_scalar key "string" _ (Or.inr (Or.inr rfl)) named, plain_encoded term value first,
        plain_members_encoded pairs listed rest]
  termination_by sizeOf pairs

end

def tag (kind : String) (value : Json) : Json := .obj [("type", .str kind), ("value", value)]

theorem tag_tagged (kind : String) (value : Json) : Tagged (tag kind value) kind value := ⟨rfl, rfl⟩

mutual

def written : Json → Json
  | .null => tag "null" .null
  | .bool value => tag "boolean" (.bool value)
  | .num value => tag "number" (.num value)
  | .str value => tag "string" (.str value)
  | .arr items => tag "array" (.arr (writtenItems items))
  | .obj members => tag "object" (.arr (writtenMembers members))

def writtenItems : List Json → List Json
  | [] => []
  | item :: rest => written item :: writtenItems rest

def writtenMembers : List (String × Json) → List Json
  | [] => []
  | (name, value) :: rest => .arr [tag "string" (.str name), written value] :: writtenMembers rest

end

mutual

theorem written_encodes (value : Json) (proper : value.Proper) : Encodes (written value) value := by
  cases value with
  | null => exact .null _ (tag_tagged _ _)
  | bool value => exact .bool _ value (tag_tagged _ _)
  | num value => exact .num _ value (tag_tagged _ _)
  | str value => exact .str _ value (tag_tagged _ _)
  | arr items =>
      cases proper with
      | arr _ each => exact .arr _ _ items (tag_tagged _ _) (written_items_encode items each)
  | obj members =>
      obtain ⟨ascending, each⟩ := Json.proper_members members proper
      exact .obj _ _ members members (tag_tagged _ _) (written_members_encode members each) ascending (List.Perm.refl _)

theorem written_items_encode (items : List Json) (each : ∀ item ∈ items, item.Proper) :
    EncodesItems (writtenItems items) items := by
  cases items with
  | nil => exact .nil
  | cons item rest =>
      obtain ⟨first, others⟩ := List.forall_mem_cons.mp each
      exact .cons _ item _ rest (written_encodes item first) (written_items_encode rest others)

theorem written_members_encode (members : List (String × Json)) (each : ∀ member ∈ members, member.2.Proper) :
    EncodesMembers (writtenMembers members) members := by
  cases members with
  | nil => exact .nil
  | cons member rest =>
      obtain ⟨name, value⟩ := member
      obtain ⟨first, others⟩ := List.forall_mem_cons.mp each
      exact .cons _ _ name value _ rest (tag_tagged _ _) (written_encodes value first)
        (written_members_encode rest others)

end

end PolicyHost.Trace.Term
