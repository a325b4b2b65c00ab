import Reprint.Number.Shortest

set_option autoImplicit false

/-!
# Numbers: how they are written

Integers are written plainly.  A floating-point number is written with its shortest decimal, so that
it always has a point or an exponent: with the point in place when the leading digit stands for a
power of ten from `10 ^ -5` to `10 ^ 15`, and otherwise with one digit before the point and a signed
exponent.
-/

namespace Reprint

namespace Decimal

/-- The digits of the coefficient. -/
def digits (d : Decimal) : List Char := Nat.toDigits 10 d.coefficient

/-- The power of ten that the leading digit stands for. -/
def order (d : Decimal) : Int := d.digits.length - 1 + d.exponent

/-- Decimals whose leading digit stands for one of these powers of ten have the point in place. -/
def isPlain (d : Decimal) : Bool := -5 ≤ d.order && d.order ≤ 15

/-- With the point in place, and a zero on a side of the point that has no digit. -/
def plain (d : Decimal) : List Char :=
  if 0 ≤ d.exponent then
    d.digits ++ List.replicate d.exponent.toNat '0' ++ ['.', '0']
  else
    let places := (-d.exponent).toNat
    let padded := List.replicate (places + 1 - d.digits.length) '0' ++ d.digits
    let point := padded.length - places
    padded.take point ++ '.' :: padded.drop point

/-- The sign and the digits of an exponent. -/
def exponentText (e : Int) : List Char :=
  (if e < 0 then '-' else '+') :: Nat.toDigits 10 e.natAbs

/-- With one digit before the point, and no point after a lone digit. -/
def scientific (d : Decimal) : List Char :=
  let fraction := match d.digits.drop 1 with
    | [] => []
    | ds => '.' :: ds
  d.digits.take 1 ++ fraction ++ 'e' :: exponentText d.order

/-- The written form of a positive decimal. -/
def text (d : Decimal) : List Char :=
  if d.isPlain then d.plain else d.scientific

end Decimal

namespace FiniteFloat

/-- The number is below zero, or is the zero with a sign. -/
def isNegative (x : FiniteFloat) : Bool := x.val.toBits.toNat / Nat.pow 2 63 = 1

/-- The written form of the number without its sign. -/
def magnitude (x : FiniteFloat) : List Char :=
  let b := Binary64.ofFloat x.val
  if b.mantissa = 0 then ['0', '.', '0'] else b.shortest.text

/-- The written form of a floating-point number. -/
def text (x : FiniteFloat) : List Char :=
  if x.isNegative then '-' :: x.magnitude else x.magnitude

end FiniteFloat

/-- The decimal digits of an integer, after a minus sign when it is below zero. -/
def Whole.text (n : Whole) : List Char :=
  if n.val < 0 then '-' :: Nat.toDigits 10 n.val.natAbs else Nat.toDigits 10 n.val.natAbs

/-- The written form of a number. -/
def Number.text : Number → List Char
  | .whole n => n.text
  | .float x => x.text

end Reprint
