import Reprint.Number.Basic

set_option autoImplicit false

/-!
# Numbers: integers of fixed width

Each integer type of a fixed width holds exactly the integers between two bounds, and every such
integer is one that a JSON number keeps exactly.
-/

namespace Reprint

/-- An integer type that holds exactly the integers from `lower` to `upper`. -/
class Word (α : Type) where
  /-- What messages call the type. -/
  name : String
  lower : Int
  upper : Int
  toInt : α → Int
  /-- Meant for integers within the bounds. -/
  ofInt : Int → α
  lower_le (a : α) : lower ≤ toInt a
  le_upper (a : α) : toInt a ≤ upper
  toInt_ofInt (n : Int) : lower ≤ n → n ≤ upper → toInt (ofInt n) = n
  ofInt_toInt (a : α) : ofInt (toInt a) = a
  le_lower : -9223372036854775808 ≤ lower
  upper_le : upper ≤ 18446744073709551615

namespace Word

variable {α : Type} [Word α]

/-- The integer as a word, if it lies within the bounds. -/
def ofInt? (n : Int) : Option α :=
  if lower α ≤ n ∧ n ≤ upper α then some (ofInt n) else none

/-- A word as an integer of a JSON number. -/
def toWhole (a : α) : Whole :=
  ⟨toInt a, Int.le_trans le_lower (lower_le a), Int.le_trans (le_upper a) upper_le⟩

theorem ofInt?_toInt (a : α) : ofInt? (toInt a) = some a := by
  simp [ofInt?, lower_le a, le_upper a, ofInt_toInt a]

theorem ofInt?_eq_some_iff (n : Int) (a : α) : ofInt? n = some a ↔ toInt a = n := by
  refine ⟨fun h => ?_, fun h => h ▸ ofInt?_toInt a⟩
  unfold ofInt? at h
  split at h
  · next hn => cases h; exact toInt_ofInt n hn.1 hn.2
  · exact nomatch h

instance : Word UInt8 where
  name := "u8"
  lower := 0
  upper := 255
  toInt n := n.toNat
  ofInt n := UInt8.ofNat n.toNat
  lower_le a := Int.natCast_nonneg _
  le_upper a := by have := a.toNat_lt; omega
  toInt_ofInt n h₀ h₁ := by
    rw [UInt8.toNat_ofNat_of_lt' (by simp only [UInt8.size]; omega)]; omega
  ofInt_toInt a := by simp
  le_lower := by decide
  upper_le := by decide

instance : Word UInt32 where
  name := "u32"
  lower := 0
  upper := 4294967295
  toInt n := n.toNat
  ofInt n := UInt32.ofNat n.toNat
  lower_le a := Int.natCast_nonneg _
  le_upper a := by have := a.toNat_lt; omega
  toInt_ofInt n h₀ h₁ := by
    rw [UInt32.toNat_ofNat_of_lt' (by simp only [UInt32.size]; omega)]; omega
  ofInt_toInt a := by simp
  le_lower := by decide
  upper_le := by decide

instance : Word UInt64 where
  name := "u64"
  lower := 0
  upper := 18446744073709551615
  toInt n := n.toNat
  ofInt n := UInt64.ofNat n.toNat
  lower_le a := Int.natCast_nonneg _
  le_upper a := by have := a.toNat_lt; omega
  toInt_ofInt n h₀ h₁ := by
    rw [UInt64.toNat_ofNat_of_lt' (by simp only [UInt64.size]; omega)]; omega
  ofInt_toInt a := by simp
  le_lower := by decide
  upper_le := by decide

instance : Word Int8 where
  name := "i8"
  lower := -128
  upper := 127
  toInt := Int8.toInt
  ofInt := Int8.ofInt
  lower_le a := a.le_toInt
  le_upper a := by have := a.toInt_lt; omega
  toInt_ofInt n h₀ h₁ := Int8.toInt_ofInt_of_le h₀ (by omega)
  ofInt_toInt := Int8.ofInt_toInt
  le_lower := by decide
  upper_le := by decide

instance : Word Int32 where
  name := "i32"
  lower := -2147483648
  upper := 2147483647
  toInt := Int32.toInt
  ofInt := Int32.ofInt
  lower_le a := a.le_toInt
  le_upper a := by have := a.toInt_lt; omega
  toInt_ofInt n h₀ h₁ := Int32.toInt_ofInt_of_le h₀ (by omega)
  ofInt_toInt := Int32.ofInt_toInt
  le_lower := by decide
  upper_le := by decide

instance : Word Int64 where
  name := "i64"
  lower := -9223372036854775808
  upper := 9223372036854775807
  toInt := Int64.toInt
  ofInt := Int64.ofInt
  lower_le a := a.le_toInt
  le_upper a := by have := a.toInt_lt; omega
  toInt_ofInt n h₀ h₁ := Int64.toInt_ofInt_of_le h₀ (by omega)
  ofInt_toInt := Int64.ofInt_toInt
  le_lower := by decide
  upper_le := by decide

end Word

end Reprint
