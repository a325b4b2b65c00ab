import Mathlib.Tactic.SplitIfs
import Reprint.Proofs.Utf8

set_option autoImplicit false

/-!
# The order of names

Names are compared by their code points.  This is the order of their UTF-8 forms, compared byte by
byte: a smaller code point has a smaller form, which differs from the greater one before either of
them ends.
-/

namespace Reprint

/-- Of two bytes in front the smaller decides, and what follows only if they are equal. -/
theorem byte_cons_lt {m n : Nat} (hm : m < 256) (hn : n < 256) {l l' : List UInt8} :
    UInt8.ofNat m :: l < UInt8.ofNat n :: l' ↔ m < n ∨ m = n ∧ l < l' := by
  have same : UInt8.ofNat m = UInt8.ofNat n ↔ m = n := by
    rw [← UInt8.toNat_inj, UInt8.toNat_ofNat_of_lt' hm, UInt8.toNat_ofNat_of_lt' hn]
  rw [List.cons_lt_cons_iff, UInt8.lt_iff_toNat_lt, UInt8.toNat_ofNat_of_lt' hm,
    UInt8.toNat_ofNat_of_lt' hn, same]

/-- A smaller number has smaller upper digits, or the same ones and a smaller last digit. -/
theorem digits_lt {m n : Nat} (h : m < n) :
    m / 64 < n / 64 ∨ m / 64 = n / 64 ∧ m % 64 < n % 64 := by omega

/-- A smaller code point has a smaller form, whatever follows the two forms. -/
theorem encode_lt {c d : Char} (h : c < d) (r r' : List UInt8) :
    String.utf8EncodeChar c ++ r < String.utf8EncodeChar d ++ r' := by
  have less : c.val.toNat < d.val.toNat := UInt32.lt_iff_toNat_lt.mp h
  have bound : d.val.toNat < 0x110000 := by
    rcases d.valid with h | h <;> omega
  unfold String.utf8EncodeChar
  generalize c.val.toNat = m at *
  generalize d.val.toNat = n at *
  simp only
  split_ifs
  all_goals simp only [List.cons_append, List.nil_append]
  all_goals repeat rw [byte_cons_lt (by omega) (by omega)]
  -- Forms of different lengths differ in the first byte.
  any_goals
    apply Or.inl
    omega
  · rcases digits_lt less with upper | ⟨same, last⟩
    · exact .inl (by omega)
    · exact .inr ⟨by omega, .inl (by omega)⟩
  · rcases digits_lt less with upper | ⟨same, last⟩
    · rcases digits_lt upper with upper | ⟨same, last⟩
      · exact .inl (by omega)
      · exact .inr ⟨by omega, .inl (by omega)⟩
    · exact .inr ⟨by omega, .inr ⟨by omega, .inl (by omega)⟩⟩
  · rcases digits_lt less with upper | ⟨same, last⟩
    · rcases digits_lt upper with upper | ⟨same, last⟩
      · rcases digits_lt upper with upper | ⟨same, last⟩
        · exact .inl (by omega)
        · exact .inr ⟨by omega, .inl (by omega)⟩
      · exact .inr ⟨by omega, .inr ⟨by omega, .inl (by omega)⟩⟩
    · exact .inr ⟨by omega, .inr ⟨by omega, .inr ⟨by omega, .inl (by omega)⟩⟩⟩

/-- A smaller row of code points has a smaller form. -/
theorem flatMap_encode_lt {s t : List Char} (h : s < t) :
    s.flatMap String.utf8EncodeChar < t.flatMap String.utf8EncodeChar := by
  induction s generalizing t with
  | nil =>
    cases t with
    | nil => exact absurd h (List.lt_irrefl [])
    | cons d t =>
      obtain ⟨b, bs, form⟩ := List.exists_cons_of_ne_nil (String.utf8EncodeChar_ne_nil (c := d))
      rw [List.flatMap_nil, List.flatMap_cons, form]
      exact List.nil_lt_cons b _
  | cons c s ih =>
    cases t with
    | nil => exact absurd h (List.not_lt_nil _)
    | cons d t =>
      rw [List.flatMap_cons, List.flatMap_cons]
      rcases List.cons_lt_cons_iff.mp h with first | ⟨rfl, rest⟩
      · exact encode_lt first _ _
      · exact List.append_left_lt (ih rest)

/-- The order of strings is the order of their bytes. -/
theorem bytes_lt_of_compare {s t : String} (h : compare s t = .lt) :
    s.toUTF8.toList < t.toUTF8.toList := by
  rw [toUTF8_toList, toUTF8_toList]
  exact flatMap_encode_lt (String.lt_iff.mp (compareOfLessAndEq_eq_lt.mp h))

end Reprint
