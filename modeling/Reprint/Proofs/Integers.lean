import Reprint.Proofs.Rendered

set_option autoImplicit false

/-!
# Reading a written integer

The digits of an integer are written without a zero in front and gathered again one by one.  As long
as the integer fits, nothing is rounded: it is read as what it was, with its sign.
-/

namespace Reprint.Reader

/-! ## Gathering digits -/

theorem le_ofDigitChars (ds : List Char) (n : Nat) : n ≤ Nat.ofDigitChars 10 ds n := by
  rw [Nat.ofDigitChars_eq_ofDigitChars_zero]
  have power : 0 < 10 ^ ds.length := Nat.pow_pos (by decide)
  exact Nat.le_trans (Nat.le_mul_of_pos_left n power) (Nat.le_add_right ..)

/-- Digits whose number fits are all gathered. -/
theorem gather_eq {limit n : Nat} {ds : List Char} (h : Digits ds)
    (fits : Nat.ofDigitChars 10 ds n < limit) :
    gather limit n ds = (Nat.ofDigitChars 10 ds n, []) := by
  induction ds generalizing n with
  | nil => rfl
  | cons c ds ih =>
    have digit : c.isDigit = true := h c List.mem_cons_self
    have step : n * 10 + (c.toNat - '0'.toNat) = 10 * n + (c.toNat - '0'.toNat) := by
      rw [Nat.mul_comm]
    rw [Nat.ofDigitChars_cons, ← step] at fits ⊢
    have small : n * 10 + (c.toNat - '0'.toNat) < limit :=
      Nat.lt_of_le_of_lt (le_ofDigitChars ds _) fits
    rw [gather, if_pos ⟨digit, small⟩]
    exact ih (fun d hd => h d (List.mem_cons_of_mem c hd)) fits

/-! ## The digits of a number -/

theorem digits_toDigits (n : Nat) : Digits (Nat.toDigits 10 n) :=
  fun _ hc => Nat.isDigit_of_mem_toDigits (by decide) (by decide) hc

/-- Only zero is written with a zero in front. -/
theorem head_toDigits {n : Nat} (h : 0 < n) : (Nat.toDigits 10 n).head? ≠ some '0' := by
  induction n using Nat.strongRecOn with
  | ind n ih =>
    by_cases small : n < 10
    · rw [Nat.toDigits_of_lt_base small]
      intro zero
      have code := congrArg Char.toNat (Option.some.inj zero)
      rw [Nat.toNat_digitChar_of_lt_ten small] at code
      have : '0'.toNat = 48 := rfl
      omega
    · have before := ih (n / 10) (by omega) (by omega)
      rw [Nat.toDigits_of_base_le (by decide) (by omega), List.head?_append]
      cases digits : Nat.toDigits 10 (n / 10) with
      | nil => exact absurd digits Nat.toDigits_ne_nil
      | cons c ds =>
        rw [digits] at before
        exact before

/-! ## Integers -/

/-- The digits of a number that fits are read as the number, up to where digits end. -/
theorem magnitude_toDigits (negative : Bool) {n : Nat} (fits : n < coefficientLimit)
    {rest : List Char} (ends : Ends rest) :
    magnitude negative (Nat.toDigits 10 n ++ rest) = integer negative n rest := by
  have digits := digits_toDigits n
  have absent : ∀ q : Char → Bool, (∀ c, q c = true → goesOn c = true) →
      rest.head?.any q = false := fun q hq => by
    have nothing : ([] ++ [] : List Char).head?.any q = false := rfl
    exact ahead_eq_false hq nothing ends
  have stop : digitAhead rest = false := absent _ fun _ => goesOn_of_isDigit
  have point : rest.head?.any (· == '.') = false :=
    absent _ fun c hc => by rw [eq_of_beq hc]; rfl
  have mark : exponentAhead rest = false := absent _ fun _ => goesOn_of_exponentMark
  have ahead : digitAhead (Nat.toDigits 10 n ++ rest) = true := by
    rw [digitAhead_append digits stop]
    cases written : Nat.toDigits 10 n with
    | nil => exact absurd written Nat.toDigits_ne_nil
    | cons c ds => rfl
  have unpadded : ¬ ((Nat.toDigits 10 n ++ rest).head? = some '0' ∧
      digitAhead ((Nat.toDigits 10 n ++ rest).drop 1) = true) := by
    rintro ⟨zero, more⟩
    rcases Nat.eq_zero_or_pos n with rfl | positive
    · rw [show (Nat.toDigits 10 0 ++ rest).drop 1 = rest from rfl, stop] at more
      cases more
    · cases written : Nat.toDigits 10 n with
      | nil => exact absurd written Nat.toDigits_ne_nil
      | cons c ds =>
        rw [written] at zero
        exact head_toDigits positive (by rw [written]; exact zero)
  have gathered : gather coefficientLimit 0 (Nat.toDigits 10 n ++ rest) = (n, rest) := by
    rw [gather_append digits stop, gather_eq digits (by rwa [Nat.ofDigitChars_ten_toDigits]),
      Nat.ofDigitChars_ten_toDigits]
    rfl
  have digitsOf_rest : digitsOf rest = [] := @digitsOf_append [] rest nofun stop
  have skip_rest : skipDigits rest = rest := @skipDigits_append [] rest nofun stop
  rw [magnitude, if_pos ahead, if_neg unpadded, gathered]
  simp only [digitsOf_rest, skip_rest]
  rw [afterDigits_of_ne point, List.length_nil, afterWhole,
    if_pos ⟨rfl, by rw [mark]; exact Bool.false_ne_true⟩]

/-- A written integer is read as that integer. -/
theorem spells_whole (w : Whole) : Spells number (.whole w) w.text where
  numeral := w.numeral_text
  reads rest ends := by
    have lower := w.lower
    have upper := w.upper
    have fits : w.val.natAbs < coefficientLimit := by
      show w.val.natAbs < 18446744073709551616
      omega
    unfold Whole.text
    split
    · next negative =>
      have kept : Whole.ofInt? (-(w.val.natAbs : Int)) = some w :=
        (Whole.ofInt?_eq_some_iff _ _).mpr (by omega)
      have nonzero : w.val.natAbs ≠ 0 := by omega
      show magnitude true (Nat.toDigits 10 w.val.natAbs ++ rest) = _
      rw [magnitude_toDigits true fits ends]
      simp only [integer, if_true, if_neg nonzero, kept]
    · next positive =>
      have kept : Whole.ofInt? (w.val.natAbs : Int) = some w :=
        (Whole.ofInt?_eq_some_iff _ _).mpr (by omega)
      have unsigned : number (Nat.toDigits 10 w.val.natAbs ++ rest) =
          magnitude false (Nat.toDigits 10 w.val.natAbs ++ rest) := by
        have digits := digits_toDigits w.val.natAbs
        unfold number
        split
        · next sign =>
          cases written : Nat.toDigits 10 w.val.natAbs with
          | nil => exact absurd written Nat.toDigits_ne_nil
          | cons c ds =>
            rw [written] at sign digits
            obtain rfl : c = '-' := (List.cons.inj sign).1
            cases digits '-' List.mem_cons_self
        · rfl
      rw [unsigned, magnitude_toDigits false fits ends]
      simp only [integer, Bool.false_eq_true, if_false, kept]

end Reprint.Reader
