import PolicyHost.Source.LineMap
import PolicyHost.Trace.Basic
import PolicyHost.Trace.Event
import PolicyHost.Trace.Term

set_option autoImplicit false

namespace PolicyHost.Trace

def Event.verdict? (e : Event) : Option Outcome :=
  match e.op with
  | .exit => some .holds
  | .fail => some .fails
  | _ => none

abbrev Verdicts := List (Nat × Outcome)

def Verdicts.add (v : Verdicts) (e : Event) : Verdicts :=
  match e.verdict? with
  | some outcome => (e.query, outcome) :: v.filter fun entry => entry.1 ≠ e.query
  | none => v

-- Each event with the verdict that follows on its query, and the verdicts of the whole stream.
def withVerdicts : List Event → List (Event × Option Outcome) × Verdicts
  | [] => ([], [])
  | e :: rest =>
      let (events, verdicts) := withVerdicts rest
      ((e, verdicts.lookup e.query) :: events, verdicts.add e)

structure Sighting where
  name : String
  line : UInt32
  column : Option UInt32
  result : Outcome
  parent : Option String
  deriving DecidableEq, Inhabited, Repr

-- Line and column to which a rule met at a place is attributed: the line of its first head, where that is known
-- and is another line, and else the place itself.
def attribution (m : LineMap) (name : String) (place : Event.Location) : UInt32 × Option UInt32 :=
  let here := (place.row, if 0 < place.column then some place.column else none)
  match m.lineOf? name with
  | some line => if line ≠ place.row then (line, none) else here
  | none => here

def Event.sighting? (m : LineMap) (e : Event) (outcome : Option Outcome) : Option Sighting := do
  if e.op = .enter ∨ e.op = .eval then
    let place ← e.place?
    let name ← e.node.bind Term.ruleName?
    let (line, column) := attribution m name place
    some
      { name, line, column
        result := outcome.getD .undefined
        parent := (m.enclosing? place.row).filter fun rule => rule ≠ name }
  else none

def sightings (m : LineMap) (events : List Event) : List Sighting :=
  (withVerdicts events).1.filterMap fun (e, outcome) => e.sighting? m outcome

def firstsFrom (seen : List (String × UInt32)) : List Sighting → List Sighting
  | [] => []
  | s :: rest =>
      if (s.name, s.line) ∈ seen then firstsFrom seen rest
      else s :: firstsFrom ((s.name, s.line) :: seen) rest

def firsts (m : LineMap) (events : List Event) : List Sighting := firstsFrom [] (sightings m events)

def Sighting.entry (s : Sighting) : RuleEntry :=
  { name := s.name, line := s.line, column := s.column, result := s.result }

def Sighting.step (s : Sighting) : Step :=
  { rule := s.name, fired := s.result = .holds, line := some s.line, parent := s.parent }

def Event.note? (e : Event) : Option Note :=
  if e.op = .note then e.message.map fun message => { message, line := e.place?.map (·.row) } else none

def Event.bindings (e : Event) : List (String × Json) :=
  e.locals.filterMap fun (key, value) => (Term.variableName? key).map fun name => (name, Term.plain value)

def ofEvents (events : List Event) (m : LineMap) (level : Level) (result : Option Json) : Trace :=
  let met := firsts m events
  { rules := met.map Sighting.entry
    bindings := .ofList (events.flatMap Event.bindings)
    finalDecision := result.map fun value => allows (some value)
    path := met.map Sighting.step
    level
    truncated := false
    sizeBytes := 0
    notes := events.filterMap Event.note? }

end PolicyHost.Trace
