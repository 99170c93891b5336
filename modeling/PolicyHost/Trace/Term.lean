import PolicyHost.Json.Printer
import PolicyHost.Source.Identifier

set_option autoImplicit false

namespace PolicyHost

namespace Json

theorem sizeOf_lookup_lt {members : List (String × Json)} {name : String} {j : Json}
    (h : members.lookup name = some j) : sizeOf j < sizeOf members := by
  induction members with
  | nil => simp at h
  | cons member rest ih =>
      obtain ⟨k, v⟩ := member
      rw [List.lookup_cons] at h
      split at h
      · cases h
        simp only [List.cons.sizeOf_spec, Prod.mk.sizeOf_spec]
        omega
      · have := ih h
        simp only [List.cons.sizeOf_spec, Prod.mk.sizeOf_spec]
        omega

theorem sizeOf_get?_lt {j v : Json} {name : String} (h : j.get? name = some v) : sizeOf v < sizeOf j := by
  cases j with
  | obj members =>
      have := sizeOf_lookup_lt h
      simp only [obj.sizeOf_spec]
      omega
  | _ => simp [get?] at h

end Json

namespace Trace.Term

def kind? (term : Json) : Option String := (term.get? "type").bind Json.str?

def value? (term : Json) : Option Json := term.get? "value"

theorem sizeOf_value?_lt {term v : Json} (h : value? term = some v) : sizeOf v < sizeOf term :=
  Json.sizeOf_get?_lt h

def bracketed (cs : List Char) : List Char := '[' :: cs ++ [']']

def joinArguments : List (List Char) → List Char
  | [] => []
  | [a] => a
  | a :: b :: rest => a ++ ',' :: ' ' :: joinArguments (b :: rest)

mutual

-- The name of a term: a variable, a reference, or the function of a call. A reference into `data` goes by its
-- last part.
def name? (term : Json) : Option String :=
  match _h : value? term with
  | none => none
  | some value =>
      match kind? term with
      | some "var" => value.str?
      | some "ref" =>
          match _h' : value with
          | .arr parts =>
              if (parts.head?.bind value?).bind Json.str? = some "data" then
                (parts.getLast?.bind value?).bind Json.str?
              else some (String.ofList (refChars parts))
          | _ => none
      | some "call" =>
          match _h' : value with
          | .arr (first :: _) => name? first
          | _ => none
      | _ => none
  termination_by sizeOf term
  decreasing_by
    all_goals
      have hv := sizeOf_value?_lt _h
      subst _h'
      simp only [Json.arr.sizeOf_spec, List.cons.sizeOf_spec] at hv
      omega

def plain (term : Json) : Json :=
  match _h : value? term with
  | none => term
  | some value =>
      match kind? term with
      | none => term
      | some "null" => .null
      | some "array" | some "set" =>
          match _h' : value with
          | .arr items => .arr (plainItems items)
          | _ => .arr []
      | some "object" =>
          match _h' : value with
          | .arr pairs => .ofMembers (plainPairs pairs)
          | _ => .obj []
      | some "ref" =>
          match _h' : value with
          | .arr parts => .str (String.ofList (refChars parts))
          | _ => .str ""
      | some "call" =>
          match _h' : value with
          | .arr (first :: arguments) =>
              .str ((name? first).getD "" ++
                String.ofList ('(' :: joinArguments ((plainItems arguments).map Json.chars) ++ [')']))
          | _ => .str "()"
      | some _ => value
  termination_by sizeOf term
  decreasing_by
    all_goals
      have hv := sizeOf_value?_lt _h
      subst _h'
      simp only [Json.arr.sizeOf_spec, List.cons.sizeOf_spec] at hv
      omega

def plainItems : List Json → List Json
  | [] => []
  | item :: rest => plain item :: plainItems rest
  termination_by items => sizeOf items

def plainPairs : List Json → List (String × Json)
  | [] => []
  | .arr [key, value] :: rest =>
      let name := match plain key with
        | .str s => s
        | other => other.text
      (name, plain value) :: plainPairs rest
  | _ :: rest => plainPairs rest
  termination_by pairs => sizeOf pairs

def refChars : List Json → List Char
  | [] => []
  | head :: rest =>
      (match (value? head).bind Json.str? with
        | some s => s.toList
        | none => bracketed (plain head).chars) ++ partChars rest
  termination_by parts => sizeOf parts

def partChars : List Json → List Char
  | [] => []
  | part :: rest =>
      (match kind? part, (value? part).bind Json.str? with
        | some "string", some s =>
            if Source.isIdentifier s.toList then '.' :: s.toList else bracketed (plain part).chars
        | some "var", some s => bracketed s.toList
        | _, _ => bracketed (plain part).chars) ++ partChars rest
  termination_by parts => sizeOf parts

end

def ruleName? : Json → Option String
  | .arr (first :: _) => ruleName? first
  | .arr [] => none
  | node =>
      match node.get? "head" with
      | some head =>
          match (head.get? "name").bind Json.str? with
          | some name =>
              if name.isEmpty then ((head.get? "ref").bind (·.item? 0)).bind name? else some name
          | none => ((head.get? "ref").bind (·.item? 0)).bind name?
      | none =>
          match node.get? "terms" with
          | some (.arr terms) => terms.head?.bind name?
          | some term => name? term
          | none => name? node

def variableName? (key : Json) : Option String :=
  let name := match value? key with
    | some (.str s) => some s
    | _ => key.str?
  name.filter fun s => !("__".isPrefixOf s) && !("$".isPrefixOf s)

end Trace.Term

end PolicyHost
