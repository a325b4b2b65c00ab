import Reprint.Number.Decimal
import Reprint.Reader.Basic

set_option autoImplicit false

/-!
# Reader: numbers

The digits of a number are gathered into a coefficient as long as it fits 64 bits.  Digits before
the point that no longer fit only raise the exponent, and digits after the point that no longer fit
are passed over.  A number with neither fraction nor exponent whose digits all fit is kept exactly,
unless it is negative and beyond the signed range, or is the zero with a sign.
-/

namespace Reprint.Reader

/-! ## Digits -/

/-- Gathers digits into a number that stays below `limit`. -/
def gather (limit n : Nat) : List Char → Nat × List Char
  | [] => (n, [])
  | c :: text =>
    if c.isDigit ∧ n * 10 + (c.toNat - '0'.toNat) < limit then
      gather limit (n * 10 + (c.toNat - '0'.toNat)) text
    else (n, c :: text)

/-- The digits at the front of a text. -/
def digitsOf (text : List Char) : List Char := text.takeWhile Char.isDigit

/-- The text without the digits at its front. -/
def skipDigits (text : List Char) : List Char := text.dropWhile Char.isDigit

/-- A digit stands at the front of a text. -/
def digitAhead (text : List Char) : Bool := text.head?.any Char.isDigit

/-- A coefficient fits 64 bits. -/
def coefficientLimit : Nat := UInt64.size

/-- A written exponent fits 32 bits with its sign. -/
def exponentLimit : Nat := Nat.pow 2 31

/-! ## Parts of a number -/

/-- The floating-point value of a decimal, found when `rest` is left. -/
def settle (negative : Bool) (d : Decimal) : Step Number := fun rest =>
  match d.toFloat? negative with
  | some x => .ok (.float x, rest)
  | none => .error (.here .hugeNumber rest)

/-- Takes the sign off an exponent. -/
def exponentSign : List Char → Bool × List Char
  | '+' :: text => (false, text)
  | '-' :: text => (true, text)
  | text => (false, text)

/-- A digit has to come next and does not. -/
def noDigit {α : Type} : List Char → Except Fault α
  | [] => .error (.here .endInValue [])
  | text => .error (.past 1 .badNumber text)

/-- Reads the exponent of a number, after its mark.  An exponent beyond the limit is an error when
it makes the number huge, and otherwise makes it zero. -/
def exponentPart (negative : Bool) (d : Decimal) : Step Number := fun text =>
  let (negativeExponent, digits) := exponentSign text
  if digitAhead digits then
    let (e, rest) := gather exponentLimit 0 digits
    if digitAhead rest then
      if d.coefficient ≠ 0 ∧ ¬ negativeExponent then .error (.past 1 .hugeNumber rest)
      else settle negative ⟨0, 0⟩ (skipDigits rest)
    else settle negative ⟨d.coefficient, d.exponent + (if negativeExponent then -(e : Int) else e)⟩ rest
  else noDigit digits

/-- An exponent comes next. -/
def exponentAhead (text : List Char) : Bool := text.head?.any fun c => c = 'e' ∨ c = 'E'

/-- Reads the exponent of a number, if it has one. -/
def afterFraction (negative : Bool) (d : Decimal) : Step Number := fun text =>
  if exponentAhead text then exponentPart negative d (text.drop 1) else settle negative d text

/-- Reads the fraction of a number, after its point. -/
def fractionPart (negative : Bool) (d : Decimal) : Step Number := fun text =>
  if digitAhead text then
    let (n, rest) := gather coefficientLimit d.coefficient text
    afterFraction negative ⟨n, d.exponent - (text.length - rest.length : Nat)⟩ (skipDigits rest)
  else noDigit text

/-- A number without fraction and exponent.  A negative one that does not fit 64 bits with its sign,
and a zero with a sign, become floating-point numbers. -/
def integer (negative : Bool) (n : Nat) : Step Number := fun rest =>
  let kept := if negative then (if n = 0 then none else Whole.ofInt? (-n)) else Whole.ofInt? n
  match kept with
  | some w => .ok (.whole w, rest)
  | none => settle negative ⟨n, 0⟩ rest

/-- Reads what follows the digits before the point, of which `excess` no longer fit. -/
def afterDigits (negative : Bool) (n excess : Nat) : Step Number
  | '.' :: text => fractionPart negative ⟨n, excess⟩ text
  | text =>
    if excess = 0 ∧ ¬ exponentAhead text then integer negative n text
    else afterFraction negative ⟨n, excess⟩ text

/-- Reads a number without its sign.  Only a lone zero may stand first before the point. -/
def magnitude (negative : Bool) : Step Number := fun text =>
  if digitAhead text then
    if text.head? = some '0' ∧ digitAhead (text.drop 1) then
      .error (.peek .badNumber (text.drop 1))
    else
      let (n, rest) := gather coefficientLimit 0 text
      afterDigits negative n (digitsOf rest).length (skipDigits rest)
  else noDigit text

/-- Reads a number. -/
def number : Step Number
  | '-' :: text => magnitude true text
  | text => magnitude false text

end Reprint.Reader
