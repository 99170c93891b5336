import PolicyHost.Toml.Scalar

set_option autoImplicit false

namespace PolicyHost.Toml

open Json (Reader)

-- A table in the making. `implied` tables come from the path of a header or a key and may still get a header of
-- their own; `dotted` ones come from a key and may not.
inductive Node where
  | leaf (value : Json)
  | table (implied dotted : Bool) (members : List (String × Node))
  | tables (items : List (List (String × Node)))
  deriving Inhabited

abbrev Members := List (String × Node)

def put (key : String) (node : Node) : Members → Members
  | [] => [(key, node)]
  | entry :: rest => if entry.1 = key then (key, node) :: rest else entry :: put key node rest

def updateAt (byKey : Bool) (change : Bool → Members → Option Members) :
    List String → Bool → Members → Option Members
  | [], dotted, members => change dotted members
  | key :: path, _, members =>
      match members.lookup key with
      | none => (updateAt byKey change path byKey []).map fun sub => put key (.table true byKey sub) members
      | some (.table implied dotted sub) =>
          if byKey && !implied then none
          else (updateAt byKey change path dotted sub).map fun sub => put key (.table implied dotted sub) members
      | some (.tables items) =>
          match items.getLast? with
          | none => none
          | some last =>
              (updateAt byKey change path false last).map fun last =>
                put key (.tables (items.dropLast ++ [last])) members
      | some (.leaf _) => none

def enterKey (path : List String) (value : Json) (members : Members) : Option Members :=
  match path.getLast? with
  | none => none
  | some key =>
      let way := path.dropLast
      let change (dotted : Bool) (members : Members) : Option Members :=
        if dotted = way.isEmpty || (members.lookup key).isSome then none
        else some (put key (.leaf value) members)
      updateAt true change way false members

def openTable (path : List String) (members : Members) : Option Members :=
  match path.getLast? with
  | none => none
  | some key =>
      let change (_ : Bool) (members : Members) : Option Members :=
        match members.lookup key with
        | none => some (put key (.table false false []) members)
        | some (.table true false sub) => some (put key (.table false false sub) members)
        | _ => none
      updateAt false change path.dropLast false members

def addTable (path : List String) (members : Members) : Option Members :=
  match path.getLast? with
  | none => none
  | some key =>
      let change (_ : Bool) (members : Members) : Option Members :=
        match members.lookup key with
        | none => some (put key (.tables [[]]) members)
        | some (.tables items) => some (put key (.tables (items ++ [[]])) members)
        | _ => none
      updateAt false change path.dropLast false members

mutual

def Node.toJson : Node → Json
  | .leaf value => value
  | .table _ _ members => .ofMembers (membersJson members)
  | .tables items => .arr (itemsJson items)

def membersJson : List (String × Node) → List (String × Json)
  | [] => []
  | (key, node) :: rest => (key, node.toJson) :: membersJson rest

def itemsJson : List (List (String × Node)) → List Json
  | [] => []
  | members :: rest => .ofMembers (membersJson members) :: itemsJson rest

end

def skipTrivia : Nat → List Char → List Char
  | 0, cs => cs
  | fuel + 1, cs =>
      match skipSpace cs with
      | '#' :: rest => skipTrivia fuel (rest.dropWhile isPlain)
      | rest =>
          match newline? rest with
          | some rest => skipTrivia fuel rest
          | none => rest

def arrayItems (value : Reader Json) : Nat → Reader (List Json)
  | 0, _ => none
  | fuel + 1, cs =>
      match skipTrivia (fuel + 1) cs with
      | ']' :: rest => some ([], rest)
      | cs =>
          match value cs with
          | none => none
          | some (item, rest) =>
              match skipTrivia (fuel + 1) rest with
              | ',' :: rest => (arrayItems value fuel rest).map fun (items, rest) => (item :: items, rest)
              | ']' :: rest => some ([item], rest)
              | _ => none

def entry? (value : Reader Json) (cs : List Char) : Option ((List String × Json) × List Char) := do
  let (path, rest) ← key? (cs.length + 1) cs
  let rest ← after? '=' rest
  let (v, rest) ← value (skipSpace rest)
  some ((path, v), rest)

def inlineEntries (value : Reader Json) : Nat → Members → Reader Members
  | 0, _, _ => none
  | fuel + 1, members, cs =>
      match entry? value (skipSpace cs) with
      | none => none
      | some ((path, v), rest) =>
          match enterKey path v members with
          | none => none
          | some members =>
              match skipSpace rest with
              | ',' :: rest => inlineEntries value fuel members rest
              | '\x7d' :: rest => some (members, rest)
              | _ => none

def maxDepth : Nat := 80

def value? : Nat → Reader Json
  | _, '"' :: rest => (string? '"' rest).map fun (s, rest) => (.str s, rest)
  | _, '\'' :: rest => (string? '\'' rest).map fun (s, rest) => (.str s, rest)
  | 0, '[' :: _ => none
  | 0, '\x7b' :: _ => none
  | depth + 1, '[' :: rest =>
      (arrayItems (value? depth) (rest.length + 1) rest).map fun (items, rest) => (.arr items, rest)
  | depth + 1, '\x7b' :: rest =>
      match skipSpace rest with
      | '\x7d' :: rest => some (.obj [], rest)
      | cs =>
          (inlineEntries (value? depth) (cs.length + 1) [] cs).map
            fun (members, rest) => (.ofMembers (membersJson members), rest)
  | _, cs => bareValue? cs

def lineEnd? (cs : List Char) : Option (List Char) :=
  let rest := match skipSpace cs with
    | '#' :: rest => rest.dropWhile isPlain
    | rest => rest
  match rest with
  | [] => some []
  | rest => newline? rest

def statement (path : List String) (tree : Members) (cs : List Char) :
    Option ((List String × Members) × List Char) :=
  match cs with
  | '[' :: '[' :: rest => do
      let (header, rest) ← key? (rest.length + 1) rest
      let rest ← after? ']' rest
      let rest ← after? ']' rest
      let tree ← addTable header tree
      some ((header, tree), rest)
  | '[' :: rest => do
      let (header, rest) ← key? (rest.length + 1) rest
      let rest ← after? ']' rest
      let tree ← openTable header tree
      some ((header, tree), rest)
  | _ => do
      let ((key, v), rest) ← entry? (value? maxDepth) cs
      let tree ← updateAt false (fun _ members => enterKey key v members) path false tree
      some ((path, tree), rest)

def statements : Nat → List String → Members → List Char → Option Members
  | 0, _, _, _ => none
  | fuel + 1, path, tree, cs =>
      match skipTrivia (fuel + 1) cs with
      | [] => some tree
      | cs =>
          match statement path tree cs with
          | none => none
          | some ((path, tree), rest) =>
              match lineEnd? rest with
              | none => none
              | some rest => statements fuel path tree rest

def parse? (text : String) : Option Json :=
  let cs := match text.toList with
    | '\uFEFF' :: rest => rest
    | cs => cs
  (statements (cs.length + 1) [] [] cs).map fun members => .ofMembers (membersJson members)

end PolicyHost.Toml
