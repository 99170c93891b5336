import PolicyHost.Number.Binary64

set_option autoImplicit false

namespace PolicyHost.Binary64

-- The fractions that round to a magnitude: from `low` to `high` over `den`, ends included if `closed`.
structure Interval where
  low : Nat
  value : Nat
  high : Nat
  den : Nat
  closed : Bool

-- Half the way to either neighbour; below a power of two the neighbour is twice as near.
def interval (x : Binary64) : Interval :=
  let narrow := x.significand == Nat.pow 2 52 && minExponent < x.exponent
  let below := if narrow then 1 else 2
  let quarter : Int := x.exponent - 2
  let (factor, den) := if 0 ≤ quarter then (Nat.pow 2 quarter.toNat, 1) else (1, Nat.pow 2 (-quarter).toNat)
  let value := 4 * x.significand
  ⟨(value - below) * factor, value * factor, (value + 2) * factor, den, x.significand % 2 == 0⟩

def tenPower (power : Int) : Nat × Nat :=
  if 0 ≤ power then (Nat.pow 10 power.toNat, 1) else (1, Nat.pow 10 (-power).toNat)

def Interval.holds (i : Interval) (digits : Nat) (power : Int) : Bool :=
  let (up, down) := tenPower power
  let point := digits * up * i.den
  if i.closed then i.low * down ≤ point && point ≤ i.high * down
  else i.low * down < point && point < i.high * down

def Interval.onGrid (i : Interval) (power : Int) : Option Nat :=
  let (up, down) := tenPower power
  let num := i.value * down
  let den := up * i.den
  let floor := num / den
  let rest := num % den
  let first := if 2 * rest < den || (2 * rest == den && floor % 2 == 0) then floor else floor + 1
  let second := if first = floor then floor + 1 else floor
  if 0 < first && i.holds first power then some first
  else if 0 < second && i.holds second power then some second
  else none

def leadingPlace (num den : Nat) : Int :=
  let estimate : Int := ((Nat.log2 num : Int) - Nat.log2 den) * 30103 / 100000
  let reaches (place : Int) : Bool :=
    let (up, down) := tenPower place
    up * den ≤ num * down
  if reaches (estimate + 2) then estimate + 2
  else if reaches (estimate + 1) then estimate + 1
  else if reaches estimate then estimate
  else if reaches (estimate - 1) then estimate - 1
  else estimate - 2

def Interval.search (i : Interval) (place : Int) (count : Nat) : Nat → Nat × Int
  | 0 => (i.value / i.den, 0)
  | more + 1 =>
      match i.onGrid (place + 1 - count) with
      | some digits => (digits, place + 1 - count)
      | none => i.search place (count + 1) more

def dropZeros : Nat → Nat → Int → Nat × Int
  | 0, digits, power => (digits, power)
  | fuel + 1, digits, power =>
      if digits ≠ 0 && digits % 10 = 0 then dropZeros fuel (digits / 10) (power + 1) else (digits, power)

def shortest (x : Binary64) : Nat × Int :=
  let i := x.interval
  let (digits, power) := i.search (leadingPlace i.value i.den) 1 17
  dropZeros 17 digits power

end PolicyHost.Binary64
