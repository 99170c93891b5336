import PolicyHost.Dict
import PolicyHost.Number.Binary64

set_option autoImplicit false

namespace PolicyHost

inductive Json.Number where
  | int (value : Int)
  | float (value : Binary64)
  deriving DecidableEq, Repr

inductive Json where
  | null
  | bool (value : Bool)
  | num (value : Json.Number)
  | str (value : String)
  | arr (items : List Json)
  | obj (members : List (String × Json))
  deriving Inhabited, Repr

namespace Json

def maxInteger : Nat := UInt64.size - 1

def minInteger : Int := Int64.minValue.toInt

def nat (n : Nat) : Json := .num (.int n)

def ofMembers (members : List (String × Json)) : Json := .obj (Dict.ofList members).entries

def ofDict (d : Dict Json) : Json := .obj d.entries

def strings (items : List String) : Json := .arr (items.map .str)

def get? : Json → String → Option Json
  | .obj members, name => members.lookup name
  | _, _ => none

def item? : Json → Nat → Option Json
  | .arr items, i => items[i]?
  | _, _ => none

def str? : Json → Option String
  | .str s => some s
  | _ => none

def arr? : Json → Option (List Json)
  | .arr items => some items
  | _ => none

def bool? : Json → Option Bool
  | .bool b => some b
  | _ => none

def int? : Json → Option Int
  | .num (.int n) => some n
  | _ => none

def nat? : Json → Option Nat
  | .num (.int n) => if 0 ≤ n then some n.toNat else none
  | _ => none

def uint32? (j : Json) : Option UInt32 :=
  j.nat?.bind fun n => if h : n < UInt32.size then some (UInt32.ofNatLT n h) else none

def isNull : Json → Bool
  | .null => true
  | _ => false

def Number.same : Number → Number → Bool
  | .int a, .int b => a == b
  | .float a, .float b => a.same b
  | _, _ => false

mutual

-- Equal as values: as data, but for the two float zeros, which are equal.
def same : Json → Json → Bool
  | .null, .null => true
  | .bool a, .bool b => a == b
  | .num a, .num b => a.same b
  | .str a, .str b => a == b
  | .arr a, .arr b => sameItems a b
  | .obj a, .obj b => sameMembers a b
  | _, _ => false

def sameItems : List Json → List Json → Bool
  | [], [] => true
  | a :: as, b :: bs => same a b && sameItems as bs
  | _, _ => false

def sameMembers : List (String × Json) → List (String × Json) → Bool
  | [], [] => true
  | (k, a) :: as, (l, b) :: bs => k == l && same a b && sameMembers as bs
  | _, _ => false

end

end Json

end PolicyHost
