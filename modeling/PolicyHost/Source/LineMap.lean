import PolicyHost.Source.Declarations

set_option autoImplicit false

namespace PolicyHost

structure LineMap where
  heads : List (UInt32 × String)
  deriving DecidableEq, Inhabited

namespace LineMap

def empty : LineMap := ⟨[]⟩

def ofSource (source : String) : LineMap := ⟨Source.heads source⟩

def lineOf? (m : LineMap) (rule : String) : Option UInt32 :=
  (m.heads.find? fun head => head.2 == rule).map Prod.fst

def reaches (m : LineMap) (line : UInt32) (position : Nat) : Bool :=
  m.heads[position]?.any fun head => head.1 ≤ line

-- How many positions come before some boundary. It is looked for among `size` of them from `base` on, which are halved
-- until one is left.
def boundaryFrom (before : Nat → Bool) (base size : Nat) : Nat :=
  if 1 < size then
    let middle := base + size / 2
    boundaryFrom before (if before middle then middle else base) (size - size / 2)
  else if before base then base + 1
  else base
  termination_by size

def enclosing? (m : LineMap) (line : UInt32) : Option String :=
  match boundaryFrom (m.reaches line) 0 m.heads.length with
  | 0 => none
  | position + 1 => m.heads[position]?.map Prod.snd

def rules (m : LineMap) : List String := (m.heads.map Prod.snd).eraseDups

def size (m : LineMap) : Nat := m.rules.length

def isEmpty (m : LineMap) : Bool := m.heads.isEmpty

end LineMap

end PolicyHost
