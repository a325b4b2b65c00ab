set_option autoImplicit false

/-!
# Numbers

A JSON number is kept in one of two ways.  A number written without fraction and exponent that fits
64 bits, as a non-negative or as a negative integer, is kept exactly.  Every other number is a
finite binary floating-point number.  The two never mix: `1` and `1.0` are different numbers.
-/

namespace Reprint

/-- An integer that fits 64 bits, without sign when it is not negative and with sign when it is. -/
structure Whole where
  val : Int
  lower : -9223372036854775808 ≤ val
  upper : val ≤ 18446744073709551615
  deriving DecidableEq, Repr

namespace Whole

/-- The integer, if it fits. -/
def ofInt? (n : Int) : Option Whole :=
  if h : -9223372036854775808 ≤ n ∧ n ≤ 18446744073709551615 then some ⟨n, h.1, h.2⟩ else none

theorem ofInt?_eq_some_iff (n : Int) (w : Whole) : ofInt? n = some w ↔ w.val = n := by
  unfold ofInt?
  split
  · exact ⟨fun h => by cases h; rfl, fun h => by subst h; rfl⟩
  · next hn => exact ⟨fun h => (nomatch h), fun h => absurd ⟨h ▸ w.lower, h ▸ w.upper⟩ hn⟩

/-- The nearest floating-point number, a tie going to the even neighbour. -/
def toFloat (n : Whole) : Float :=
  let magnitude := n.val.natAbs.toUInt64.toFloat
  if n.val < 0 then -magnitude else magnitude

end Whole

/-- A floating-point number that is neither infinite nor undefined. -/
structure FiniteFloat where
  val : Float
  finite : val.isFinite = true
  deriving DecidableEq

/-- The number, if it is finite. -/
def FiniteFloat.ofFloat? (x : Float) : Option FiniteFloat :=
  if h : x.isFinite = true then some ⟨x, h⟩ else none

/-- A JSON number. -/
inductive Number where
  /-- Kept exactly. -/
  | whole (n : Whole)
  /-- Kept as a binary floating-point number. -/
  | float (x : FiniteFloat)
  deriving DecidableEq

namespace Number

/-- The number, if it is kept exactly. -/
def toInt? : Number → Option Int
  | .whole n => some n.val
  | .float _ => none

/-- The number as a floating-point number. -/
def toFloat : Number → Float
  | .whole n => n.toFloat
  | .float x => x.val

end Number

end Reprint
