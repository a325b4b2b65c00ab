import Reprint.Proofs.Numeral
import Reprint.Value.Text

set_option autoImplicit false

/-!
# Compact texts

What the compact text of a value is made of.  The elements of an array and the members of an object
are separated by commas, and a number is written with the characters that numbers are read from.
-/

namespace Reprint

open Reprint.Reader

/-! ## Numbers -/

theorem numeral_append {t u : List Char} (ht : ∀ c ∈ t, isNumeral c = true)
    (hu : ∀ c ∈ u, isNumeral c = true) : ∀ c ∈ t ++ u, isNumeral c = true := by
  intro c hc
  rcases List.mem_append.mp hc with hc | hc
  · exact ht c hc
  · exact hu c hc

theorem numeral_cons {d : Char} {t : List Char} (hd : isNumeral d = true)
    (ht : ∀ c ∈ t, isNumeral c = true) : ∀ c ∈ d :: t, isNumeral c = true :=
  List.forall_mem_cons.mpr ⟨hd, ht⟩

theorem numeral_toDigits (n : Nat) : ∀ c ∈ Nat.toDigits 10 n, isNumeral c = true := by
  intro c hc
  exact isNumeral_of_isDigit (Nat.isDigit_of_mem_toDigits (by decide) (by decide) hc)

theorem numeral_zeros (count : Nat) : ∀ c ∈ List.replicate count '0', isNumeral c = true := by
  intro c hc
  rw [List.eq_of_mem_replicate hc]
  rfl

namespace Decimal

theorem numeral_plain (d : Decimal) : ∀ c ∈ d.plain, isNumeral c = true := by
  have digits : ∀ c ∈ d.digits, isNumeral c = true := numeral_toDigits d.coefficient
  unfold plain
  split
  · exact numeral_append (numeral_append digits (numeral_zeros _)) (List.all_eq_true.mp rfl)
  · have padded := numeral_append
      (numeral_zeros ((-d.exponent).toNat + 1 - d.digits.length)) digits
    apply numeral_append
    · intro c hc
      exact padded c (List.mem_of_mem_take hc)
    · apply numeral_cons rfl
      intro c hc
      exact padded c (List.mem_of_mem_drop hc)

theorem numeral_exponentText (e : Int) : ∀ c ∈ exponentText e, isNumeral c = true := by
  apply numeral_cons
  · split <;> rfl
  · exact numeral_toDigits e.natAbs

theorem numeral_scientific (d : Decimal) : ∀ c ∈ d.scientific, isNumeral c = true := by
  have digits : ∀ c ∈ d.digits, isNumeral c = true := numeral_toDigits d.coefficient
  unfold scientific
  apply numeral_append
  · apply numeral_append
    · intro c hc
      exact digits c (List.mem_of_mem_take hc)
    · have later : ∀ c ∈ d.digits.drop 1, isNumeral c = true := fun c hc =>
        digits c (List.mem_of_mem_drop hc)
      split
      · exact List.forall_mem_nil _
      · exact numeral_cons rfl later
  · exact numeral_cons rfl (numeral_exponentText d.order)

theorem numeral_text (d : Decimal) : ∀ c ∈ d.text, isNumeral c = true := by
  unfold text
  split
  · exact d.numeral_plain
  · exact d.numeral_scientific

end Decimal

theorem Whole.numeral_text (n : Whole) : ∀ c ∈ n.text, isNumeral c = true := by
  unfold Whole.text
  split
  · exact numeral_cons rfl (numeral_toDigits _)
  · exact numeral_toDigits _

theorem FiniteFloat.numeral_text (x : FiniteFloat) : ∀ c ∈ x.text, isNumeral c = true := by
  have magnitude : ∀ c ∈ x.magnitude, isNumeral c = true := by
    unfold FiniteFloat.magnitude
    dsimp only
    split
    · exact List.all_eq_true.mp rfl
    · exact Decimal.numeral_text _
  unfold FiniteFloat.text
  split
  · exact numeral_cons rfl magnitude
  · exact magnitude

/-- A written number consists of characters that numbers are written with. -/
theorem Number.numeral_text (n : Number) : ∀ c ∈ n.text, isNumeral c = true := by
  cases n with
  | whole n => exact n.numeral_text
  | float x => exact x.numeral_text

/-! ## Arrays and objects -/

namespace Value

/-- The texts of some elements, with commas between them. -/
def elementChars : List Value → List Char
  | [] => []
  | v :: vs => v.chars ++ moreElements vs

/-- The texts of some members, with commas between them. -/
def memberChars : List (String × Value) → List Char
  | [] => []
  | (k, v) :: ms => Text.quoted k.toList ++ ':' :: v.chars ++ moreMembers ms

theorem chars_array (vs : List Value) :
    (Value.array vs).chars = '[' :: elementChars vs ++ [']'] := by
  cases vs with
  | nil => simp [chars, elementChars]
  | cons v vs => simp [chars, elementChars]

theorem chars_object (ms : List (String × Value)) :
    (Value.object ms).chars = '{' :: memberChars ms ++ ['}'] := by
  cases ms with
  | nil => simp [chars, memberChars]
  | cons m ms => simp [chars, memberChars]

theorem elementChars_cons_cons (v w : Value) (vs : List Value) :
    elementChars (v :: w :: vs) = v.chars ++ ',' :: elementChars (w :: vs) := by
  simp [elementChars, moreElements]

theorem memberChars_cons_cons (m n : String × Value) (ms : List (String × Value)) :
    memberChars (m :: n :: ms) =
      Text.quoted m.1.toList ++ ':' :: m.2.chars ++ ',' :: memberChars (n :: ms) := by
  simp [memberChars, moreMembers]

end Value

end Reprint
