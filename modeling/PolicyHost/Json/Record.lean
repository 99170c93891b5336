import PolicyHost.Json.Basic

/-!
Records read from JSON. A record is an object, whose further members do not count, or an array of its
fields in their order. An array may stop early where the fields that follow have defaults, and holds no
more items than there are fields unless it is read loosely.
-/

set_option autoImplicit false

namespace PolicyHost.Json

structure Record where
  members : List (String × Json)
  positional : Bool

namespace Record

def ofJson? (fields : List String) (j : Json) (loose : Bool) : Option Record :=
  match j with
  | .obj members => some ⟨members, false⟩
  | .arr items =>
      if loose || items.length ≤ fields.length then some ⟨fields.zip items, true⟩ else none
  | _ => none

variable {α : Type}

def required (r : Record) (name : String) (decode : Json → Option α) : Option α :=
  (r.members.lookup name).bind decode

def orElse (r : Record) (name : String) (decode : Json → Option α) (default : α) : Option α :=
  match r.members.lookup name with
  | some j => decode j
  | none => some default

def nullable (decode : Json → Option α) : Json → Option (Option α)
  | .null => some none
  | j => (decode j).map some

def maybe (r : Record) (name : String) (decode : Json → Option α) : Option (Option α) :=
  match r.members.lookup name with
  | some j => nullable decode j
  | none => if r.positional then none else some none

-- A field that may be null or missing, also from an array.
def maybeOmitted (r : Record) (name : String) (decode : Json → Option α) : Option (Option α) :=
  r.orElse name (nullable decode) none

end Record

def list? {α : Type} (decode : Json → Option α) : Json → Option (List α)
  | .arr items => items.mapM decode
  | _ => none

def strings? : Json → Option (List String) := list? str?

-- A choice without content: its name, or an object with that one name and null.
def choice? : Json → Option String
  | .str name => some name
  | .obj [(name, .null)] => some name
  | _ => none

def member? (name : String) (value : Option Json) : List (String × Json) :=
  match value with
  | some j => [(name, j)]
  | none => []

end PolicyHost.Json
