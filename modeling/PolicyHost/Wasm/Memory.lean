import PolicyHost.Text.Utf8
import PolicyHost.Wasm.Fault

set_option autoImplicit false

namespace PolicyHost.Wasm

-- Bytes of a memory, as what was written where; the latest write comes first.
structure Memory where
  size : Nat
  writes : List (Nat × Array UInt8)

namespace Memory

def pageBytes : Nat := 65536

def maxTextBytes : Nat := 4194304

def ofPages (pages : Nat) : Memory := ⟨pages * pageBytes, []⟩

def covers (addr : Nat) (write : Nat × Array UInt8) : Bool :=
  write.1 ≤ addr && addr < write.1 + write.2.size

def byte (m : Memory) (addr : Nat) : UInt8 :=
  match m.writes.find? (covers addr) with
  | some (start, bytes) => bytes.getD (addr - start) 0
  | none => 0

def write? (m : Memory) (addr : Nat) (bytes : Array UInt8) : Option Memory :=
  if addr + bytes.size ≤ m.size then some { m with writes := (addr, bytes) :: m.writes } else none

def untilZero (m : Memory) (addr : Nat) : Nat → Text.Bytes → Option Text.Bytes
  | 0, _ => none
  | window + 1, done =>
      let b := m.byte addr
      if b = 0 then some done.reverse else untilZero m (addr + 1) window (b :: done)

def readText (m : Memory) (addr : Int) : Except Fault String :=
  if addr < 0 then .error (.invalidOutput ("negative guest address " ++ toString addr))
  else if m.size < addr.toNat then
    .error (.invalidOutput ("guest address " ++ toString addr ++ " is outside linear memory"))
  else
    match m.untilZero addr.toNat (min (maxTextBytes + 1) (m.size - addr.toNat)) [] with
    | none =>
        .error (.invalidOutput ("string at " ++ toString addr ++ " is unterminated or exceeds " ++
          toString maxTextBytes ++ " bytes"))
    | some bytes =>
        match Text.decode? bytes with
        | some text => .ok text
        | none => .error (.invalidOutput ("string at " ++ toString addr ++ " is not UTF-8: "))

end Memory

end PolicyHost.Wasm
