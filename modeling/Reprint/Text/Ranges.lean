set_option autoImplicit false

/-!
# Text: classes of characters

A class of characters is a list of closed ranges of code points, in order and apart.  A look-up
stops at the first range that does not end before the code point, because no later one can hold it.

Two classes count as white space.  The printers drop every character with the Unicode property
`White_Space`; the reader skips only the four characters that JSON allows between tokens.  The
second class lies inside the first.
-/

namespace Reprint.Text

/-- No range is empty, and each begins beyond the end of the one before it with a gap between. -/
def Ascending : List (Nat × Nat) → Prop
  | [] => True
  | [r] => r.1 ≤ r.2
  | r :: s :: rs => r.1 ≤ r.2 ∧ r.2 + 1 < s.1 ∧ Ascending (s :: rs)

instance : DecidablePred Ascending := go
where
  go : (rs : List (Nat × Nat)) → Decidable (Ascending rs)
    | [] => inferInstanceAs (Decidable True)
    | [r] => inferInstanceAs (Decidable (r.1 ≤ r.2))
    | r :: s :: rs =>
      have : Decidable (Ascending (s :: rs)) := go (s :: rs)
      inferInstanceAs (Decidable (r.1 ≤ r.2 ∧ r.2 + 1 < s.1 ∧ Ascending (s :: rs)))

/-- What is ascending begins nowhere before its first range does. -/
theorem Ascending.first_le {r : Nat × Nat} {rs : List (Nat × Nat)} (h : Ascending (r :: rs)) :
    ∀ x ∈ r :: rs, r.1 ≤ x.1 := by
  induction rs generalizing r with
  | nil =>
    intro x hx
    obtain rfl : x = r := by simpa using hx
    exact Nat.le_refl _
  | cons s rs ih =>
    obtain ⟨hr, hs, hrest⟩ := h
    intro x hx
    rcases List.mem_cons.1 hx with rfl | hx
    · exact Nat.le_refl _
    · have := ih hrest x hx
      omega

/-- What is ascending stays so without its first range. -/
theorem Ascending.tail {r : Nat × Nat} {rs : List (Nat × Nat)} (h : Ascending (r :: rs)) :
    Ascending rs := by
  cases rs with
  | nil => trivial
  | cons s rs => exact h.2.2

/-- Closed ranges of code points, in order and apart. -/
structure Ranges where
  spans : List (Nat × Nat)
  ascending : Ascending spans

namespace Ranges

/-- One of the ranges holds the code point, if they are in order. -/
def anyHolds : List (Nat × Nat) → Nat → Bool
  | [], _ => false
  | r :: rs, n => if r.2 < n then anyHolds rs n else decide (r.1 ≤ n)

/-- The code point lies in one of the ranges. -/
def holds (rs : Ranges) (n : Nat) : Bool := anyHolds rs.spans n

/-- A look-up in ascending ranges misses none of them. -/
theorem anyHolds_iff {rs : List (Nat × Nat)} (h : Ascending rs) {n : Nat} :
    anyHolds rs n = true ↔ ∃ r ∈ rs, r.1 ≤ n ∧ n ≤ r.2 := by
  induction rs with
  | nil => simp [anyHolds]
  | cons r rs ih =>
    by_cases hn : r.2 < n
    · simp only [anyHolds, hn, if_true, ih h.tail, List.mem_cons]
      constructor
      · rintro ⟨x, hx, hle⟩
        exact ⟨x, Or.inr hx, hle⟩
      · rintro ⟨x, rfl | hx, hle⟩
        · omega
        · exact ⟨x, hx, hle⟩
    · simp only [anyHolds, hn, if_false, decide_eq_true_eq, List.mem_cons]
      constructor
      · intro hr
        exact ⟨r, Or.inl rfl, hr, by omega⟩
      · rintro ⟨x, rfl | hx, hle, _⟩
        · exact hle
        · exact Nat.le_trans (h.first_le x (List.mem_cons_of_mem r hx)) hle

theorem holds_iff {rs : Ranges} {n : Nat} :
    rs.holds n = true ↔ ∃ r ∈ rs.spans, r.1 ≤ n ∧ n ≤ r.2 :=
  anyHolds_iff rs.ascending

end Ranges

/-! ## White space -/

/-- The code points with the Unicode property `White_Space`. -/
def blankRanges : Ranges where
  spans :=
    [(0x09, 0x0D), (0x20, 0x20), (0x85, 0x85), (0xA0, 0xA0), (0x1680, 0x1680), (0x2000, 0x200A),
     (0x2028, 0x2029), (0x202F, 0x202F), (0x205F, 0x205F), (0x3000, 0x3000)]
  ascending := by decide

/-- A character with the property `White_Space`. -/
def isBlank (c : Char) : Bool := blankRanges.holds c.toNat

/-- The white space that JSON allows between tokens: space, line feed, tab, carriage return. -/
def isGap (c : Char) : Bool :=
  c == ' ' || c == '\n' || c == '\t' || c == '\r'

/-- Between tokens JSON allows only white space. -/
theorem isBlank_of_isGap {c : Char} (h : isGap c = true) : isBlank c = true := by
  simp only [isGap, Bool.or_eq_true, beq_iff_eq] at h
  rcases h with ((rfl | rfl) | rfl) | rfl <;> decide

end Reprint.Text
