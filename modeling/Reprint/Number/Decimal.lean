import Reprint.Number.Basic

set_option autoImplicit false

/-!
# Numbers: decimals and their floating-point value

A decimal is a coefficient times a power of ten.  Its floating-point value is found by floating-point
arithmetic alone: the coefficient is rounded once, and multiplied or divided by powers of ten, each
step rounding again.  The result is close to the decimal but need not be the nearest
floating-point number.
-/

namespace Reprint

/-- The value `coefficient · 10 ^ exponent`. -/
structure Decimal where
  coefficient : Nat
  exponent : Int
  deriving DecidableEq, Repr

namespace Decimal

/-- The largest power of ten that a floating-point number can hold. -/
def maxPower : Nat := 308

/-- The floating-point number nearest to `10 ^ k`. -/
def powerOfTen (k : Nat) : Float := Float.ofScientific 1 false k

/-- Multiplies by a power of ten.  An exponent below `-maxPower` is reached in several divisions;
there is no result when the product is not finite. -/
def scale (x : Float) (exponent : Int) : Option FiniteFloat :=
  if exponent.natAbs ≤ maxPower then
    FiniteFloat.ofFloat? <|
      if 0 ≤ exponent then x * powerOfTen exponent.natAbs else x / powerOfTen exponent.natAbs
  else if x == 0 then FiniteFloat.ofFloat? x
  else if 0 ≤ exponent then none
  else scale (x / powerOfTen maxPower) (exponent + maxPower)
termination_by exponent.natAbs
decreasing_by simp only [maxPower] at *; omega

/-- The floating-point value of a decimal below `2 ^ 64 · 10 ^ exponent`, with the given sign. -/
def toFloat? (negative : Bool) (d : Decimal) : Option FiniteFloat :=
  let x := d.coefficient.toUInt64.toFloat
  scale (if negative then -x else x) d.exponent

end Decimal

end Reprint
