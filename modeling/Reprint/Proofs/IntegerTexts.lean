import Mathlib
import Reprint.Proofs.RoundTrip
import Reprint.Value.Access

set_option autoImplicit false

/-!
# Texts of integers

The reader keeps a number exactly when it is written as an integer, without fraction and exponent,
that fits 64 bits and is not the zero with a sign; the integer that it keeps is the one that the
text is for.  All other numbers become floating-point numbers, for which no accessor of integers
answers.  An accessor answers with the integer that is kept or not at all, so no number is wrapped
or cut off on the way from a text to a word.
-/

namespace Reprint

open Reprint.Reader

/-! ## The grammar of numbers -/

/-- The digits before the point: at least one, and no zero in front of others. -/
structure Unpadded (ds : List Char) : Prop where
  digits : Digits ds
  nonempty : ds ≠ []
  alone : ds.head? = some '0' → ds = ['0']

/-- How JSON writes the integer `n`, if it has no fraction and no exponent. -/
inductive IntegerText : Int → List Char → Prop where
  | unsigned {ds : List Char} : Unpadded ds → IntegerText (Nat.ofDigitChars 10 ds 0) ds
  | signed {ds : List Char} : Unpadded ds → IntegerText (-Nat.ofDigitChars 10 ds 0) ('-' :: ds)

/-- A point and what follows it, or nothing. -/
inductive Fraction : List Char → Prop where
  | none : Fraction []
  | digits {ds : List Char} : Digits ds → ds ≠ [] → Fraction ('.' :: ds)

/-- The mark of an exponent and what follows it, or nothing. -/
inductive Exponent : List Char → Prop where
  | none : Exponent []
  | digits {mark : Char} {sign ds : List Char} :
      mark ∈ ['e', 'E'] → sign ∈ [[], ['+'], ['-']] → Digits ds → ds ≠ [] →
        Exponent (mark :: (sign ++ ds))

/-! ## Digits in a row -/

theorem code_of_isDigit {c : Char} (h : c.isDigit = true) : 48 ≤ c.toNat ∧ c.toNat ≤ 57 := by
  simp only [Char.isDigit, Bool.and_eq_true, decide_eq_true_eq] at h
  exact ⟨UInt32.le_iff_toNat_le.mp h.1, UInt32.le_iff_toNat_le.mp h.2⟩

/-- A digit is written for the number that it stands for. -/
theorem toDigits_of_isDigit {c : Char} (h : c.isDigit = true) :
    Nat.toDigits 10 (c.toNat - '0'.toNat) = [c] := by
  obtain ⟨lower, upper⟩ := code_of_isDigit h
  have zero : '0'.toNat = 48 := rfl
  have small : c.toNat - '0'.toNat < 10 := by omega
  have same : (c.toNat - '0'.toNat).digitChar = c := by
    apply Char.toNat_inj.mp
    rw [Nat.toNat_digitChar_of_lt_ten small]
    omega
  rw [Nat.toDigits_of_lt_base small, same]

/-- Digits that do not begin with a zero are those that their number is written with. -/
theorem toDigits_ofDigitChars_of_head {ds : List Char} (h : Digits ds) (nonempty : ds ≠ [])
    (head : ds.head? ≠ some '0') : Nat.toDigits 10 (Nat.ofDigitChars 10 ds 0) = ds := by
  induction ds using List.reverseRecOn with
  | nil => exact absurd rfl nonempty
  | append_singleton ds c ih =>
    obtain ⟨before, last⟩ := List.forall_mem_append.mp h
    have digit : c.isDigit = true := last c List.mem_cons_self
    rw [Nat.ofDigitChars_append, Nat.ofDigitChars_cons, Nat.ofDigitChars_nil]
    cases ds with
    | nil =>
      rw [Nat.ofDigitChars_nil, Nat.mul_zero, Nat.zero_add]
      exact toDigits_of_isDigit digit
    | cons d ds =>
      have written : Nat.toDigits 10 (Nat.ofDigitChars 10 (d :: ds) 0) = d :: ds :=
        ih before (List.cons_ne_nil d ds) head
      have positive : 0 < Nat.ofDigitChars 10 (d :: ds) 0 := by
        rcases Nat.eq_zero_or_pos (Nat.ofDigitChars 10 (d :: ds) 0) with zero | positive
        · rw [zero] at written
          exact absurd (congrArg Option.some (List.cons.inj written).1.symm) head
        · exact positive
      have small : c.toNat - '0'.toNat < 10 := by
        have zero : '0'.toNat = 48 := rfl
        have := code_of_isDigit digit
        omega
      rw [← Nat.toDigits_append_toDigits (by decide) positive small, written,
        toDigits_of_isDigit digit]

theorem Unpadded.toDigits {ds : List Char} (h : Unpadded ds) :
    Nat.toDigits 10 (Nat.ofDigitChars 10 ds 0) = ds := by
  by_cases zero : ds.head? = some '0'
  · obtain rfl := h.alone zero
    rfl
  · exact toDigits_ofDigitChars_of_head h.digits h.nonempty zero

theorem unpadded_toDigits (n : Nat) : Unpadded (Nat.toDigits 10 n) where
  digits := digits_toDigits n
  nonempty := Nat.toDigits_ne_nil
  alone head := by
    rcases Nat.eq_zero_or_pos n with rfl | positive
    · rfl
    · exact absurd head (head_toDigits positive)

/-! ## Integers and their texts -/

/-- Only the zero with a sign is not the text that its integer is written with. -/
theorem IntegerText.eq_text {n : Int} {text : List Char} (h : IntegerText n text)
    (unlike : text ≠ ['-', '0']) {w : Whole} (same : w.val = n) : text = w.text := by
  cases h with
  | unsigned unpadded =>
    have positive : ¬ w.val < 0 := by omega
    have magnitude : w.val.natAbs = Nat.ofDigitChars 10 text 0 := by omega
    rw [Whole.text, if_neg positive, magnitude, unpadded.toDigits]
  | @signed ds unpadded =>
    have nonzero : Nat.ofDigitChars 10 ds 0 ≠ 0 := by
      intro zero
      have digits := unpadded.toDigits
      rw [zero] at digits
      exact unlike (congrArg _ digits.symm)
    have negative : w.val < 0 := by omega
    have magnitude : w.val.natAbs = Nat.ofDigitChars 10 ds 0 := by omega
    rw [Whole.text, if_pos negative, magnitude, unpadded.toDigits]

theorem integerText_text (w : Whole) : IntegerText w.val w.text := by
  unfold Whole.text
  split
  · next negative =>
    have text := IntegerText.signed (unpadded_toDigits w.val.natAbs)
    rw [Nat.ofDigitChars_ten_toDigits] at text
    rwa [show -(w.val.natAbs : Int) = w.val by omega] at text
  · next positive =>
    have text := IntegerText.unsigned (unpadded_toDigits w.val.natAbs)
    rw [Nat.ofDigitChars_ten_toDigits] at text
    rwa [show (w.val.natAbs : Int) = w.val by omega] at text

/-- A text is for one integer at most. -/
theorem IntegerText.unique {m n : Int} {text : List Char} (hm : IntegerText m text)
    (hn : IntegerText n text) : m = n := by
  cases hm with
  | unsigned unpadded =>
    cases hn with
    | unsigned => rfl
    | signed => cases unpadded.digits '-' List.mem_cons_self
  | signed unpadded =>
    cases hn with
    | unsigned unpadded => cases unpadded.digits '-' List.mem_cons_self
    | signed => rfl

/-- An integer is written with digits and a sign. -/
theorem IntegerText.chars {n : Int} {text : List Char} (h : IntegerText n text) :
    ∀ c ∈ text, c.isDigit = true ∨ c = '-' := by
  have digits : ∀ ds, Unpadded ds → ∀ c ∈ ds, c.isDigit = true ∨ c = '-' :=
    fun ds unpadded c hc => .inl (unpadded.digits c hc)
  cases h with
  | unsigned unpadded => exact digits _ unpadded
  | signed unpadded => exact List.forall_mem_cons.mpr ⟨.inr rfl, digits _ unpadded⟩

/-- No integer is written with a fraction or an exponent. -/
theorem IntegerText.bare {n : Int} {whole fraction exponent : List Char}
    (h : IntegerText n (whole ++ fraction ++ exponent)) (hf : Fraction fraction)
    (he : Exponent exponent) : fraction = [] ∧ exponent = [] := by
  have chars := h.chars
  constructor
  · cases hf with
    | none => rfl
    | digits =>
      rcases chars '.' (by simp) with digit | sign
      · cases digit
      · cases sign
  · cases he with
    | none => rfl
    | @digits mark sign ds marks =>
      have here := chars mark (by simp)
      rcases List.mem_pair.mp marks with rfl | rfl
      · rcases here with digit | sign
        · cases digit
        · cases sign
      · rcases here with digit | sign
        · cases digit
        · cases sign

end Reprint

namespace Reprint.Reader

/-! ## Numbers that are kept exactly -/

section Kept

variable {negative : Bool} {w : Whole} {text rest : List Char}

theorem settle_ne_whole (d : Decimal) : settle negative d text ≠ .ok (.whole w, rest) := by
  intro h
  unfold settle at h
  split at h
  · cases h
  · cases h

theorem exponentPart_ne_whole (d : Decimal) :
    exponentPart negative d text ≠ .ok (.whole w, rest) := by
  intro h
  rw [exponentPart_eq] at h
  unfold exponentDigits at h
  dsimp only at h
  split at h
  · split at h
    · split at h
      · cases h
      · exact settle_ne_whole _ h
    · exact settle_ne_whole _ h
  · exact noDigit_ne_ok _ _ h

theorem afterFraction_ne_whole (d : Decimal) :
    afterFraction negative d text ≠ .ok (.whole w, rest) := by
  intro h
  unfold afterFraction at h
  split at h
  · exact exponentPart_ne_whole d h
  · exact settle_ne_whole d h

theorem fractionPart_ne_whole (d : Decimal) :
    fractionPart negative d text ≠ .ok (.whole w, rest) := by
  intro h
  unfold fractionPart at h
  split at h
  · exact afterFraction_ne_whole _ h
  · exact noDigit_ne_ok _ _ h

/-- The integer that is kept has the sign and the magnitude that were read, and is not the zero with
a sign. -/
theorem integer_whole {n : Nat} (h : integer negative n text = .ok (.whole w, rest)) :
    rest = text ∧ w.val = (if negative then -(n : Int) else n) ∧ ¬ (negative ∧ n = 0) := by
  unfold integer at h
  dsimp only at h
  split at h
  · next w' kept =>
    cases h
    refine ⟨rfl, ?_⟩
    cases negative with
    | false => exact ⟨(Whole.ofInt?_eq_some_iff _ _).mp kept, nofun⟩
    | true =>
      by_cases zero : n = 0
      · simp [zero] at kept
      · simp only [if_true, if_neg zero] at kept
        exact ⟨(Whole.ofInt?_eq_some_iff _ _).mp kept, fun both => zero both.2⟩
  · exact absurd h (settle_ne_whole _)

/-- Digits of which none is left have been gathered into the number that they stand for. -/
theorem gather_of_nil {limit n : Nat} {ds : List Char} (h : (gather limit n ds).2 = []) :
    (gather limit n ds).1 = Nat.ofDigitChars 10 ds n := by
  induction ds generalizing n with
  | nil => rfl
  | cons c ds ih =>
    rw [gather] at h ⊢
    split
    · next fits =>
      rw [if_pos fits] at h
      rw [ih h, Nat.ofDigitChars_cons, Nat.mul_comm]
    · next stops =>
      rw [if_neg stops] at h
      cases h

/-- Nothing but digits that fit makes an integer. -/
theorem afterDigits_whole {n excess : Nat}
    (h : afterDigits negative n excess text = .ok (.whole w, rest)) :
    excess = 0 ∧ integer negative n text = .ok (.whole w, rest) := by
  unfold afterDigits at h
  split at h
  · exact absurd h (fractionPart_ne_whole _)
  · split at h
    · next bare => exact ⟨bare.1, h⟩
    · exact absurd h (afterFraction_ne_whole _)

theorem magnitude_whole (h : magnitude negative text = .ok (.whole w, rest)) :
    ∃ ds, Unpadded ds ∧ text = ds ++ rest ∧
      integer negative (Nat.ofDigitChars 10 ds 0) rest = .ok (.whole w, rest) := by
  obtain ⟨ds, tail, rfl, digits, stop⟩ := exists_digits text
  have left := gather_digits coefficientLimit 0 digits
  unfold magnitude at h
  split at h
  · next ahead =>
    split at h
    · cases h
    · next once =>
      rw [gather_append digits stop] at h
      simp only [digitsOf_append left stop, skipDigits_append left stop] at h
      obtain ⟨none, kept⟩ := afterDigits_whole h
      rw [gather_of_nil (List.eq_nil_of_length_eq_zero none)] at kept
      obtain rfl := (integer_whole kept).1
      refine ⟨ds, ⟨digits, ?_, ?_⟩, rfl, kept⟩
      · rintro rfl
        exact absurd ahead (by rw [List.nil_append, stop]; decide)
      · intro zero
        cases ds with
        | nil => cases zero
        | cons c ds =>
          obtain rfl : c = '0' := Option.some.inj zero
          cases ds with
          | nil => rfl
          | cons d ds => exact absurd ⟨rfl, digits d (by simp)⟩ once
  · exact absurd h (noDigit_ne_ok _ _)

/-- A number that is kept exactly is read from a text of its integer. -/
theorem number_whole (h : number text = .ok (.whole w, rest)) :
    ∃ body, text = body ++ rest ∧ IntegerText w.val body ∧ body ≠ ['-', '0'] := by
  unfold number at h
  split at h
  · next text =>
    obtain ⟨ds, unpadded, rfl, kept⟩ := magnitude_whole h
    obtain ⟨-, value, nonzero⟩ := integer_whole kept
    refine ⟨'-' :: ds, rfl, ?_, ?_⟩
    · rw [value]
      exact .signed unpadded
    · intro zero
      obtain rfl := (List.cons.inj zero).2
      exact nonzero ⟨rfl, rfl⟩
  · obtain ⟨ds, unpadded, rfl, kept⟩ := magnitude_whole h
    obtain ⟨-, value, -⟩ := integer_whole kept
    refine ⟨ds, rfl, ?_, ?_⟩
    · rw [value]
      exact .unsigned unpadded
    · rintro rfl
      cases unpadded.digits '-' List.mem_cons_self

end Kept

end Reprint.Reader

namespace Reprint

open Reprint.Reader

/-- A text holds an integer that is kept exactly when it is a text of that integer, between white
space, and not the zero with a sign. -/
theorem parse_eq_whole_iff {text : String} {w : Whole} :
    parse text = .ok (.number (.whole w)) ↔
      ∃ gap body gap', Gap gap ∧ Gap gap' ∧ text.toList = gap ++ body ++ gap' ∧
        IntegerText w.val body ∧ body ≠ ['-', '0'] := by
  rw [parse_eq_ok_iff]
  constructor
  · rintro ⟨led, gap', ⟨gap, body, hgap, spelled, rfl⟩, hgap', split⟩
    have spells : Spells number (.whole w) body := by
      cases (show SpelledWith _ _ _ from spelled) with
      | number spells => exact spells
    have read := spells.reads [] ends_nil
    obtain ⟨body', same, written, signed⟩ := number_whole read
    obtain rfl : body = body' := by simpa using same
    exact ⟨gap, body, gap', hgap, hgap', split, written, signed⟩
  · rintro ⟨gap, body, gap', hgap, hgap', split, written, signed⟩
    have spelled : Spelled maxDepth (.number (.whole w)) body := by
      rw [written.eq_text signed rfl]
      exact .of_scalar (fun _ => .number (spells_whole w)) maxDepth
    exact ⟨gap ++ body, gap', ⟨gap, body, hgap, spelled, rfl⟩, hgap', split⟩

/-- What is kept exactly is an integer from the text. -/
theorem integerText_of_parse {text : String} {w : Whole}
    (h : parse text = .ok (.number (.whole w))) (numeral : ∀ c ∈ text.toList, isNumeral c = true) :
    IntegerText w.val text.toList ∧ text.toList ≠ ['-', '0'] := by
  obtain ⟨gap, body, gap', hgap, hgap', split, written, signed⟩ := parse_eq_whole_iff.mp h
  have empty : ∀ g : List Char, Gap g → (∀ c ∈ g, isNumeral c = true) → g = [] := by
    intro g blank within
    cases g with
    | nil => rfl
    | cons c g =>
      have outside := isNumeral_of_isGap (blank c List.mem_cons_self)
      cases outside.symm.trans (within c List.mem_cons_self)
  rw [split] at numeral
  obtain rfl := empty gap hgap fun c hc => numeral c (by simp [hc])
  obtain rfl := empty gap' hgap' fun c hc => numeral c (by simp [hc])
  rw [List.nil_append, List.append_nil] at split
  rw [split]
  exact ⟨written, signed⟩

/-! ## Accessors -/

/-- The integer that a value keeps exactly. -/
def Value.integer? (v : Value) : Option Int := v.number? >>= Number.toInt?

theorem Value.integer?_eq_some_iff {v : Value} {n : Int} :
    v.integer? = some n ↔ ∃ w, v = .number (.whole w) ∧ w.val = n := by
  constructor
  · intro h
    cases v with
    | number m =>
      cases m with
      | whole w => exact ⟨w, rfl, Option.some.inj h⟩
      | float x => cases h
    | _ => cases h
  · rintro ⟨w, rfl, rfl⟩
    rfl

section Words

variable {α : Type} [Word α]

/-- An accessor answers with the integer that is kept exactly, and with nothing else. -/
theorem Value.word?_eq_some_iff {v : Value} {a : α} :
    v.word? = some a ↔ v.integer? = some (Word.toInt a) := by
  have answer : (v.word? : Option α) = v.integer? >>= Word.ofInt? := rfl
  rw [answer, Option.bind_eq_bind, Option.bind_eq_some_iff]
  simp only [Word.ofInt?_eq_some_iff, exists_eq_right']

theorem Value.word?_eq_none {v : Value} (h : v.integer? = none) : (v.word? : Option α) = none := by
  have answer : (v.word? : Option α) = v.integer? >>= Word.ofInt? := rfl
  rw [answer, h]
  rfl

/-- The answer for an integer that is kept exactly. -/
theorem Value.map_toInt_word? {v : Value} {n : Int} (h : v.integer? = some n) :
    (v.word? : Option α).map Word.toInt =
      if Word.lower α ≤ n ∧ n ≤ Word.upper α then some n else none := by
  have answer : (v.word? : Option α) = Word.ofInt? n := by
    rw [show (v.word? : Option α) = v.integer? >>= Word.ofInt? from rfl, h]
    rfl
  rw [answer, Word.ofInt?]
  split
  · next fits => exact congrArg some (Word.toInt_ofInt n fits.1 fits.2)
  · rfl

end Words

/-- Texts of numbers that are not kept exactly. -/
inductive Inexact : List Char → Prop where
  | outside {n : Int} {text : List Char} :
      IntegerText n text → n < -2 ^ 63 ∨ 2 ^ 64 ≤ n → Inexact text
  | signedZero : Inexact ['-', '0']
  | parts {n : Int} {whole fraction exponent : List Char} :
      IntegerText n whole → Fraction fraction → Exponent exponent →
        fraction ≠ [] ∨ exponent ≠ [] → Inexact (whole ++ fraction ++ exponent)

theorem IntegerText.numeral {n : Int} {text : List Char} (h : IntegerText n text) :
    ∀ c ∈ text, isNumeral c = true := by
  intro c hc
  rcases h.chars c hc with digit | rfl
  · exact isNumeral_of_isDigit digit
  · rfl

theorem Fraction.numeral {text : List Char} (h : Fraction text) :
    ∀ c ∈ text, isNumeral c = true := by
  cases h with
  | none => exact List.forall_mem_nil _
  | digits digits => exact numeral_cons rfl digits.numeral

theorem Exponent.numeral {text : List Char} (h : Exponent text) :
    ∀ c ∈ text, isNumeral c = true := by
  cases h with
  | none => exact List.forall_mem_nil _
  | @digits mark sign ds marks signs digits =>
    have marked : isNumeral mark = true :=
      isNumeral_of_exponentMark (decide_eq_true (List.mem_pair.mp marks))
    have signed : ∀ c ∈ sign, isNumeral c = true := by
      simp only [List.mem_cons, List.not_mem_nil, or_false] at signs
      rcases signs with rfl | rfl | rfl
      · exact List.forall_mem_nil _
      · exact List.forall_mem_singleton.mpr rfl
      · exact List.forall_mem_singleton.mpr rfl
    exact numeral_cons marked (numeral_append signed digits.numeral)

theorem Inexact.numeral {text : List Char} (h : Inexact text) :
    ∀ c ∈ text, isNumeral c = true := by
  cases h with
  | outside written => exact written.numeral
  | signedZero => exact List.all_eq_true.mp rfl
  | parts written fraction exponent =>
    exact numeral_append (numeral_append written.numeral fraction.numeral) exponent.numeral

/-- A number that is not kept exactly keeps no integer. -/
theorem Inexact.integer? {text : String} (h : Inexact text.toList) {v : Value}
    (parsed : parse text = .ok v) : v.integer? = none := by
  by_contra some
  obtain ⟨n, kept⟩ := Option.ne_none_iff_exists'.mp some
  obtain ⟨w, rfl, -⟩ := Value.integer?_eq_some_iff.mp kept
  obtain ⟨written, signed⟩ := integerText_of_parse parsed h.numeral
  have lower := w.lower
  have upper := w.upper
  generalize text.toList = chars at *
  cases h with
  | outside beyond range =>
    have same := written.unique beyond
    omega
  | signedZero => exact signed rfl
  | parts _ fraction exponent some =>
    obtain ⟨noFraction, noExponent⟩ := written.bare fraction exponent
    rcases some with some | some
    · exact some noFraction
    · exact some noExponent

/-- The text of an integer that fits 64 bits is read as that integer and written as before, and each
accessor answers with it if it is in the range of its type; where a number is not kept exactly, no
accessor answers.  Whatever an accessor answers with is the integer that the value keeps, and that
is the integer of the text that the value was read from. -/
theorem accessors_exact :
    (∀ (s : String) (n : Int), IntegerText n s.toList → s ≠ "-0" → -2 ^ 63 ≤ n → n < 2 ^ 64 →
      ∃ v, parse s = .ok v ∧ render v = .ok s ∧
        v.int64?.map Int64.toInt = (if n < 2 ^ 63 then some n else none) ∧
        v.uint64?.map (fun m => (m.toNat : Int)) = (if 0 ≤ n then some n else none) ∧
        v.int32?.map Int32.toInt = (if -2 ^ 31 ≤ n ∧ n < 2 ^ 31 then some n else none)) ∧
    (∀ (s : String) (v : Value), Inexact s.toList → parse s = .ok v →
      v.int64? = none ∧ v.uint64? = none ∧ v.int32? = none) ∧
    (∀ v : Value, (∀ m, v.int64? = some m → v.integer? = some m.toInt) ∧
      (∀ m, v.uint64? = some m → v.integer? = some m.toNat) ∧
      (∀ m, v.int32? = some m → v.integer? = some m.toInt)) ∧
    ∀ (s : String) (v : Value) (n : Int), parse s = .ok v → v.integer? = some n →
      ∃ gap body gap', Gap gap ∧ Gap gap' ∧ s.toList = gap ++ body ++ gap' ∧
        IntegerText n body := by
  refine ⟨fun s n written unlike lower upper => ?_, fun s v inexact parsed => ?_, fun v => ?_,
    fun s v n parsed kept => ?_⟩
  · let w : Whole := ⟨n, by omega, by omega⟩
    have signed : s.toList ≠ ['-', '0'] := fun zero => unlike (String.toList_injective zero)
    have parsed : parse s = .ok (.number (.whole w)) :=
      parse_eq_whole_iff.mpr ⟨[], s.toList, [], gap_nil, gap_nil, by simp, written, signed⟩
    have text : Value.text (.number (.whole w)) = s := by
      apply String.toList_injective
      rw [Value.text, String.toList_ofList, written.eq_text (w := w) signed rfl]
      rfl
    have kept : Value.integer? (.number (.whole w)) = some n := rfl
    refine ⟨_, parsed, congrArg _ text, ?_, ?_, ?_⟩
    · refine (Value.map_toInt_word? kept).trans (if_congr ?_ rfl rfl)
      show -9223372036854775808 ≤ n ∧ n ≤ 9223372036854775807 ↔ n < 2 ^ 63
      omega
    · refine (Value.map_toInt_word? kept).trans (if_congr ?_ rfl rfl)
      show 0 ≤ n ∧ n ≤ 18446744073709551615 ↔ 0 ≤ n
      omega
    · refine (Value.map_toInt_word? kept).trans (if_congr ?_ rfl rfl)
      show -2147483648 ≤ n ∧ n ≤ 2147483647 ↔ -2 ^ 31 ≤ n ∧ n < 2 ^ 31
      omega
  · have none := inexact.integer? parsed
    exact ⟨Value.word?_eq_none none, Value.word?_eq_none none, Value.word?_eq_none none⟩
  · exact ⟨fun m => Value.word?_eq_some_iff.mp, fun m => Value.word?_eq_some_iff.mp,
      fun m => Value.word?_eq_some_iff.mp⟩
  · obtain ⟨w, rfl, rfl⟩ := Value.integer?_eq_some_iff.mp kept
    obtain ⟨gap, body, gap', hgap, hgap', split, written, _⟩ := parse_eq_whole_iff.mp parsed
    exact ⟨gap, body, gap', hgap, hgap', split, written⟩

/-- The first integer that fits with its sign only without it, and the zero with a sign. -/
theorem accessors_exact_bounds :
    let s := "9223372036854775808"
    let zero := "-0"
    IntegerText (2 ^ 63) s.toList ∧ s ≠ "-0" ∧
      (∃ v, parse s = .ok v ∧ render v = .ok s ∧ v.int64?.map Int64.toInt = none ∧
        v.uint64?.map (fun m => (m.toNat : Int)) = some (2 ^ 63) ∧ v.int32?.map Int32.toInt = none ∧
        v.uint64? = some 9223372036854775808 ∧ v.integer? = some (2 ^ 63)) ∧
      Inexact zero.toList ∧
      ∃ v, parse zero = .ok v ∧ v.int64? = none ∧ v.uint64? = none ∧ v.int32? = none := by
  intro s zero
  obtain ⟨fitting, others, kept, _⟩ := accessors_exact
  let w : Whole := ⟨2 ^ 63, by decide, by decide⟩
  have split : s.toList = w.text := by decide
  have written : IntegerText (2 ^ 63) s.toList := split ▸ integerText_text w
  have unlike : s ≠ "-0" := by decide
  obtain ⟨v, parsed, rendered, signed, unsigned, small⟩ :=
    fitting s (2 ^ 63) written unlike (by decide) (by decide)
  have answer : v.uint64? = some 9223372036854775808 := by
    obtain ⟨m, found, value⟩ := Option.map_eq_some_iff.mp unsigned
    have same : m = 9223372036854775808 := by
      apply UInt64.toNat_inj.mp
      show m.toNat = 9223372036854775808
      omega
    rw [found, same]
  have inexact : Inexact zero.toList := by
    rw [show zero.toList = ['-', '0'] by decide]
    exact .signedZero
  have readable : (parse zero).isOk = true := by decide +kernel
  obtain ⟨x, read⟩ : ∃ x, parse zero = .ok x := by
    cases h : parse zero with
    | ok x => exact ⟨x, rfl⟩
    | error e => rw [h] at readable; cases readable
  exact ⟨written, unlike, ⟨v, parsed, rendered, signed, unsigned, small, answer,
    (kept v).2.1 _ answer⟩, inexact, x, read, others zero x inexact read⟩

end Reprint
