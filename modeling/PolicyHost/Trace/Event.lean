import PolicyHost.Json.Record

set_option autoImplicit false

namespace PolicyHost.Trace

inductive Event.Op where
  | enter
  | eval
  | exit
  | fail
  | note
  | other
  deriving DecidableEq, Inhabited, Repr

def Event.Op.ofName : String → Event.Op
  | "Enter" => enter
  | "Eval" => eval
  | "Exit" => exit
  | "Fail" => fail
  | "Note" => note
  | _ => other

-- Row and column from 1; zero is no place.
structure Event.Location where
  file : Option String
  row : UInt32
  column : UInt32
  deriving DecidableEq, Inhabited, Repr

structure Event where
  op : Event.Op
  query : Nat
  parentQuery : Nat
  location : Option Event.Location
  node : Option Json
  locals : List (Json × Json)
  message : Option String

namespace Event

def Location.ofJson? (j : Json) : Option Location := do
  let r ← Json.Record.ofJson? ["file", "row", "col"] j false
  let file ← r.maybeOmitted "file" Json.str?
  let row ← r.orElse "row" Json.uint32? 0
  let column ← r.orElse "col" Json.uint32? 0
  some { file, row, column }

def binding? (j : Json) : Option (Json × Json) := do
  let r ← Json.Record.ofJson? ["key", "value"] j false
  let key ← r.required "key" some
  let value ← r.required "value" some
  some (key, value)

def fields : List String := ["op", "query_id", "parent_id", "location", "node", "locals", "message"]

def ofJson? (j : Json) : Option Event := do
  let r ← Json.Record.ofJson? fields j false
  let op ← r.orElse "op" Json.str? ""
  let query ← r.orElse "query_id" Json.nat? 0
  let parentQuery ← r.orElse "parent_id" Json.nat? 0
  let location ← r.maybeOmitted "location" Location.ofJson?
  let node ← r.maybeOmitted "node" some
  let locals ← r.maybeOmitted "locals" (Json.list? binding?)
  let message ← r.maybeOmitted "message" Json.str?
  some { op := .ofName op, query, parentQuery, location, node, locals := locals.getD [], message }

def parse (explanation : Json) : List Event := (explanation.arr?.getD []).filterMap ofJson?

def place? (e : Event) : Option Location := e.location.filter fun loc => 0 < loc.row

end Event

end PolicyHost.Trace
