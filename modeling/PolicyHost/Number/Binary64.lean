/-!
Double precision numbers as exact values: a sign and `significand * 2 ^ exponent`. `round` gives the
number nearest to a fraction, a tie going to the even significand; what it gives is in the form that
the format stores, so equal numbers are equal as data.
-/

set_option autoImplicit false

namespace PolicyHost

structure Binary64 where
  negative : Bool
  significand : Nat
  exponent : Int
  deriving DecidableEq, Repr

namespace Binary64

def minExponent : Int := -1074

def maxExponent : Int := 971

def zero (negative : Bool) : Binary64 := ⟨negative, 0, minExponent⟩

def roundDiv (num den : Nat) : Nat :=
  let q := num / den
  let r := num % den
  if 2 * r < den then q else if den < 2 * r then q + 1 else q + q % 2

def scale (num den : Nat) (exponent : Int) : Nat × Nat :=
  if 0 ≤ exponent then (num, den * Nat.pow 2 exponent.toNat)
  else (num * Nat.pow 2 (-exponent).toNat, den)

def round (num den : Nat) : Option Binary64 :=
  if num = 0 then some (zero false)
  else
    let low : Int := max minExponent ((Nat.log2 num : Int) - Nat.log2 den - 53)
    let (n, d) := scale num den low
    let exponent := low + ((Nat.log2 (n / d) + 1 - 53 : Nat) : Int)
    let (n, d) := scale num den exponent
    let significand := roundDiv n d
    let (significand, exponent) :=
      if significand = Nat.pow 2 53 then (Nat.pow 2 52, exponent + 1) else (significand, exponent)
    if significand = 0 then some (zero false)
    else if maxExponent < exponent then none
    else some ⟨false, significand, exponent⟩

def ratio (x : Binary64) : Nat × Nat :=
  if 0 ≤ x.exponent then (x.significand * Nat.pow 2 x.exponent.toNat, 1)
  else (x.significand, Nat.pow 2 (-x.exponent).toNat)

def isZero (x : Binary64) : Bool := x.significand == 0

def mul (x y : Binary64) : Option Binary64 :=
  round (x.ratio.1 * y.ratio.1) (x.ratio.2 * y.ratio.2)

def div (x y : Binary64) : Option Binary64 :=
  round (x.ratio.1 * y.ratio.2) (x.ratio.2 * y.ratio.1)

def withSign (negative : Bool) (x : Binary64) : Binary64 := { x with negative }

def maxPower : Nat := 308

-- The magnitude of `x` times a power of ten. The power is rounded before it is applied, and a power too small to
-- be a number is applied in two or three parts, so the result need not be the nearest.
def timesPower (steps : Nat) (x : Binary64) (power : Int) : Option Binary64 :=
  if power.natAbs ≤ maxPower then
    (round (Nat.pow 10 power.natAbs) 1).bind fun p => if 0 ≤ power then x.mul p else x.div p
  else if x.isZero then some x
  else if 0 ≤ power then none
  else match steps with
    | 0 => some (zero false)
    | steps + 1 =>
        ((round (Nat.pow 10 maxPower) 1).bind x.div).bind fun y => timesPower steps y (power + maxPower)

def ofDecimal (negative : Bool) (significand : Nat) (power : Int) : Option Binary64 :=
  ((round significand 1).bind fun x => timesPower 3 x power).map (withSign negative)

def same (x y : Binary64) : Bool := x == y || (x.isZero && y.isZero)

end Binary64

end PolicyHost
