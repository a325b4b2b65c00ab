import Reprint.Reader.Number

set_option autoImplicit false

/-!
# Reading a number

A step that reads a number, or a part of one, takes some characters off the front of a text, and
would take the same ones off any other text that they begin, so long as no character follows that
could be a part of the number.  How the digits are gathered, and whether they still fit, depends on
nothing further on.
-/

namespace Reprint.Reader

/-- What a step gives is spelled by what it takes off, according to `G`. -/
def Sound {α : Type} (G : α → List Char → Prop) (step : Step α) : Prop :=
  ∀ (text : List Char) (a : α) (rest : List Char), step text = .ok (a, rest) →
    ∃ body, text = body ++ rest ∧ G a body

/-- A character that numbers are written with. -/
def isNumeral (c : Char) : Bool :=
  c.isDigit || c == '.' || c == 'e' || c == 'E' || c == '+' || c == '-'

/-- A character that a number goes on with where it could end.  A sign is none of them: it stands
only where a number cannot end. -/
def goesOn (c : Char) : Bool := c.isDigit || c == '.' || c == 'e' || c == 'E'

theorem isNumeral_of_goesOn {c : Char} (h : goesOn c = true) : isNumeral c = true := by
  rw [isNumeral, show (c.isDigit || c == '.' || c == 'e' || c == 'E') = true from h]
  rfl

/-- A number that ends before this text does not go on in it. -/
def Ends (rest : List Char) : Prop := rest.head?.any goesOn = false

theorem ends_nil : Ends [] := rfl

theorem ends_cons {c : Char} {rest : List Char} (h : isNumeral c = false) : Ends (c :: rest) := by
  cases going : goesOn c with
  | false => exact going
  | true => cases h.symm.trans (isNumeral_of_goesOn going)

/-- The step reads the number `n` from the characters `body`. -/
structure Spells (step : Step Number) (n : Number) (body : List Char) : Prop where
  numeral : ∀ c ∈ body, isNumeral c = true
  reads : ∀ rest, Ends rest → step (body ++ rest) = .ok (n, rest)

/-- What is not ahead of a text is not ahead of its beginning followed by something else. -/
theorem ahead_eq_false {q : Char → Bool} (hq : ∀ c, q c = true → goesOn c = true)
    {body rest rest' : List Char} (h : (body ++ rest).head?.any q = false) (ends : Ends rest') :
    (body ++ rest').head?.any q = false := by
  cases body with
  | cons c body => exact h
  | nil =>
    cases rest' with
    | nil => rfl
    | cons c rest' =>
      cases hc : q c with
      | false => exact hc
      | true => exact absurd (hq c hc) (by rw [show goesOn c = false from ends]; decide)

theorem exists_cons_of_ahead {q : Char → Bool} {text : List Char}
    (h : text.head?.any q = true) : ∃ c t, text = c :: t ∧ q c = true := by
  cases text with
  | nil => cases h
  | cons c t => exact ⟨c, t, rfl, h⟩

theorem goesOn_of_isDigit {c : Char} (h : c.isDigit = true) : goesOn c = true := by
  simp [goesOn, h]

theorem isNumeral_of_isDigit {c : Char} (h : c.isDigit = true) : isNumeral c = true :=
  isNumeral_of_goesOn (goesOn_of_isDigit h)

/-! ## Digits -/

/-- A row of digits. -/
def Digits (ds : List Char) : Prop := ∀ c ∈ ds, c.isDigit = true

theorem Digits.numeral {ds : List Char} (h : Digits ds) : ∀ c ∈ ds, isNumeral c = true :=
  fun c hc => isNumeral_of_isDigit (h c hc)

/-- A text is the digits at its front and what follows them. -/
theorem exists_digits (text : List Char) :
    ∃ ds tail, text = ds ++ tail ∧ Digits ds ∧ digitAhead tail = false := by
  refine ⟨digitsOf text, skipDigits text, List.takeWhile_append_dropWhile.symm, ?_, ?_⟩
  · intro c hc
    exact List.all_eq_true.mp List.all_takeWhile c hc
  · induction text with
    | nil => rfl
    | cons c text ih =>
      unfold skipDigits
      rw [List.dropWhile_cons]
      split
      · exact ih
      · next hc => simpa [digitAhead] using hc

theorem digitsOf_append {ds tail : List Char} (h : Digits ds) (stop : digitAhead tail = false) :
    digitsOf (ds ++ tail) = ds := by
  have none : tail.takeWhile Char.isDigit = [] := by
    cases tail with
    | nil => rfl
    | cons c tail => rw [List.takeWhile_cons, show c.isDigit = false from stop]; rfl
  rw [digitsOf, List.takeWhile_append_of_pos h, none, List.append_nil]

theorem skipDigits_append {ds tail : List Char} (h : Digits ds) (stop : digitAhead tail = false) :
    skipDigits (ds ++ tail) = tail := by
  rw [skipDigits, List.dropWhile_append_of_pos h]
  cases tail with
  | nil => rfl
  | cons c tail => rw [List.dropWhile_cons, show c.isDigit = false from stop]; rfl

/-- Digits are ahead of a row of digits unless it is empty. -/
theorem digitAhead_append {ds tail : List Char} (h : Digits ds) (stop : digitAhead tail = false) :
    digitAhead (ds ++ tail) = !ds.isEmpty := by
  cases ds with
  | nil => exact stop
  | cons c ds => exact h c List.mem_cons_self

/-- Gathering looks at digits only. -/
theorem gather_append {limit n : Nat} {ds tail : List Char} (h : Digits ds)
    (stop : digitAhead tail = false) :
    gather limit n (ds ++ tail) = ((gather limit n ds).1, (gather limit n ds).2 ++ tail) := by
  induction ds generalizing n with
  | nil =>
    cases tail with
    | nil => rfl
    | cons c tail =>
      have noDigit : c.isDigit = false := stop
      simp [gather, noDigit]
  | cons c ds ih =>
    rw [List.cons_append, gather, gather]
    split
    · exact ih fun d hd => h d (List.mem_cons_of_mem c hd)
    · rfl

/-- What is left after gathering are the last of the digits. -/
theorem gather_digits (limit n : Nat) {ds : List Char} (h : Digits ds) :
    Digits (gather limit n ds).2 := by
  induction ds generalizing n with
  | nil => exact h
  | cons c ds ih =>
    rw [gather]
    split
    · exact ih _ fun d hd => h d (List.mem_cons_of_mem c hd)
    · exact h

theorem noDigit_ne_ok {α : Type} (text : List Char) (a : α) : noDigit text ≠ .ok a := by
  cases text <;> exact nofun

/-! ## Ends of numbers -/

theorem settle_sound (negative : Bool) (d : Decimal) :
    Sound (Spells (settle negative d)) (settle negative d) := by
  intro text n rest h
  unfold settle at h
  split at h
  · next x hx =>
    cases h
    refine ⟨[], rfl, nofun, fun rest' _ => ?_⟩
    simp only [settle, hx, List.nil_append]
  · cases h

theorem integer_sound (negative : Bool) (n : Nat) :
    Sound (Spells (integer negative n)) (integer negative n) := by
  intro text m rest h
  unfold integer at h
  dsimp only at h
  split at h
  · next w hw =>
    cases h
    refine ⟨[], rfl, nofun, fun rest' _ => ?_⟩
    simp only [integer, hw, List.nil_append]
  · next hw =>
    obtain ⟨body, rfl, spells⟩ := settle_sound negative ⟨n, 0⟩ text m rest h
    refine ⟨body, rfl, spells.numeral, fun rest' ends => ?_⟩
    simp only [integer, hw]
    exact spells.reads rest' ends

/-! ## Digits and what follows them -/

/-- A step is sound if any row of digits makes it fail, or makes it go on as a sound step does,
whatever comes after the digits. -/
theorem sound_of_digits {step : Step Number}
    (h : ∀ ds, Digits ds →
      (∀ tail p, digitAhead tail = false → step (ds ++ tail) ≠ .ok p) ∨
        ∃ inner, Sound (Spells inner) inner ∧
          ∀ tail, digitAhead tail = false → step (ds ++ tail) = inner tail) :
    Sound (Spells step) step := by
  intro text n rest read
  obtain ⟨ds, tail, rfl, hds, stop⟩ := exists_digits text
  rcases h ds hds with fails | ⟨inner, sound, goesOn⟩
  · exact absurd read (fails tail _ stop)
  · rw [goesOn tail stop] at read
    obtain ⟨body, rfl, spells⟩ := sound tail n rest read
    refine ⟨ds ++ body, (List.append_assoc ..).symm, ?_, ?_⟩
    · intro c hc
      rcases List.mem_append.mp hc with hc | hc
      · exact hds.numeral c hc
      · exact spells.numeral c hc
    · intro rest' ends
      have stop' : digitAhead (body ++ rest') = false :=
        ahead_eq_false (fun _ => goesOn_of_isDigit) stop ends
      rw [List.append_assoc, goesOn _ stop', spells.reads rest' ends]

/-- A character that is taken off before a number is spelled belongs to its spelling. -/
theorem Spells.cons {step inner : Step Number} {c : Char} {n : Number} {body : List Char}
    (numeral : isNumeral c = true) (goesOn : ∀ tail, step (c :: tail) = inner tail)
    (spells : Spells inner n body) : Spells step n (c :: body) where
  numeral d hd := by
    rcases List.mem_cons.mp hd with rfl | hd
    · exact numeral
    · exact spells.numeral d hd
  reads rest ends := by rw [List.cons_append, goesOn, spells.reads rest ends]

/-- A step that looks for one of some characters is sound if it takes the character off and goes on
as a sound step does, and goes on as a sound step does when there is none.  Where a number can end,
the characters have to be some that it goes on with. -/
theorem sound_of_head {step : Step Number} {q : Char → Bool}
    (hq : ∀ c, q c = true → isNumeral c = true)
    (present : ∀ c, q c = true →
      ∃ inner, Sound (Spells inner) inner ∧ ∀ tail, step (c :: tail) = inner tail)
    (absent : ∃ inner, Sound (Spells inner) inner ∧
      (∀ tail, tail.head?.any q = false → step tail = inner tail) ∧
      ((∀ c, q c = true → goesOn c = true) ∨ ∀ p, inner [] ≠ .ok p)) :
    Sound (Spells step) step := by
  intro text n rest h
  cases ahead : text.head?.any q with
  | true =>
    obtain ⟨c, text, rfl, hc⟩ := exists_cons_of_ahead ahead
    obtain ⟨inner, sound, same⟩ := present c hc
    rw [same] at h
    obtain ⟨body, rfl, spells⟩ := sound text n rest h
    exact ⟨c :: body, rfl, spells.cons (hq c hc) same⟩
  | false =>
    obtain ⟨inner, sound, same, here⟩ := absent
    rw [same text ahead] at h
    obtain ⟨body, rfl, spells⟩ := sound text n rest h
    refine ⟨body, rfl, spells.numeral, fun rest' ends => ?_⟩
    have still : (body ++ rest').head?.any q = false := by
      rcases here with going | unended
      · exact ahead_eq_false going ahead ends
      · cases body with
        | nil => exact absurd (spells.reads [] ends_nil) (unended _)
        | cons c body => exact ahead
    rw [same _ still, spells.reads rest' ends]

/-- What an exponent comes to once its sign is known. -/
def exponentDigits (negative : Bool) (d : Decimal) (negativeExponent : Bool) : Step Number :=
  fun digits =>
    if digitAhead digits then
      let (e, rest) := gather exponentLimit 0 digits
      if digitAhead rest then
        if d.coefficient ≠ 0 ∧ ¬ negativeExponent then .error (.past 1 .hugeNumber rest)
        else settle negative ⟨0, 0⟩ (skipDigits rest)
      else
        settle negative ⟨d.coefficient, d.exponent + (if negativeExponent then -(e : Int) else e)⟩
          rest
    else noDigit digits

theorem exponentPart_eq (negative : Bool) (d : Decimal) (text : List Char) :
    exponentPart negative d text =
      exponentDigits negative d (exponentSign text).1 (exponentSign text).2 := rfl

theorem exponentDigits_sound (negative : Bool) (d : Decimal) (negativeExponent : Bool) :
    Sound (Spells (exponentDigits negative d negativeExponent))
      (exponentDigits negative d negativeExponent) := by
  apply sound_of_digits
  intro ds hds
  have hleft := gather_digits exponentLimit 0 hds
  cases empty : ds.isEmpty with
  | true =>
    left
    intro tail p stop
    simp only [exponentDigits, digitAhead_append hds stop, empty]
    exact noDigit_ne_ok _ _
  | false =>
    cases fits : (gather exponentLimit 0 ds).2.isEmpty with
    | true =>
      right
      let e : Nat := (gather exponentLimit 0 ds).1
      refine ⟨settle negative
        ⟨d.coefficient, d.exponent + (if negativeExponent then -(e : Int) else e)⟩,
        settle_sound negative _, fun tail stop => ?_⟩
      simp only [exponentDigits, digitAhead_append hds stop, empty, gather_append hds stop,
        digitAhead_append hleft stop, fits]
      rw [List.isEmpty_iff.mp fits]
      rfl
    | false =>
      by_cases huge : d.coefficient ≠ 0 ∧ ¬ negativeExponent
      · left
        intro tail p stop
        simp only [exponentDigits, digitAhead_append hds stop, empty, gather_append hds stop,
          digitAhead_append hleft stop, fits, if_pos huge]
        exact nofun
      · right
        refine ⟨_, settle_sound negative ⟨0, 0⟩, fun tail stop => ?_⟩
        simp only [exponentDigits, digitAhead_append hds stop, empty, gather_append hds stop,
          digitAhead_append hleft stop, fits, if_neg huge, skipDigits_append hleft stop]
        rfl

/-- The signs of an exponent. -/
def isSign (c : Char) : Bool := c == '+' || c == '-'

theorem isNumeral_of_isSign {c : Char} (h : isSign c = true) : isNumeral c = true := by
  simp only [isSign, Bool.or_eq_true, beq_iff_eq] at h
  rcases h with rfl | rfl <;> rfl

theorem exponentSign_of_unsigned {text : List Char} (h : text.head?.any isSign = false) :
    exponentSign text = (false, text) := by
  unfold exponentSign
  split
  · cases h
  · cases h
  · rfl

theorem exponentPart_sound (negative : Bool) (d : Decimal) :
    Sound (Spells (exponentPart negative d)) (exponentPart negative d) := by
  apply sound_of_head (fun _ => isNumeral_of_isSign)
  · intro c sign
    simp only [isSign, Bool.or_eq_true, beq_iff_eq] at sign
    rcases sign with rfl | rfl
    · exact ⟨_, exponentDigits_sound negative d false, fun _ => rfl⟩
    · exact ⟨_, exponentDigits_sound negative d true, fun _ => rfl⟩
  · refine ⟨_, exponentDigits_sound negative d false, fun tail unsigned => ?_,
      .inr fun p => noDigit_ne_ok [] p⟩
    rw [exponentPart_eq, exponentSign_of_unsigned unsigned]

theorem goesOn_of_exponentMark {c : Char} (h : decide (c = 'e' ∨ c = 'E') = true) :
    goesOn c = true := by
  rcases of_decide_eq_true h with rfl | rfl <;> rfl

theorem isNumeral_of_exponentMark {c : Char} (h : decide (c = 'e' ∨ c = 'E') = true) :
    isNumeral c = true :=
  isNumeral_of_goesOn (goesOn_of_exponentMark h)

theorem afterFraction_mark (negative : Bool) (d : Decimal) {c : Char}
    (mark : decide (c = 'e' ∨ c = 'E') = true) (text : List Char) :
    afterFraction negative d (c :: text) = exponentPart negative d text := by
  rw [afterFraction, if_pos (show exponentAhead (c :: text) = true from mark)]
  rfl

theorem afterFraction_sound (negative : Bool) (d : Decimal) :
    Sound (Spells (afterFraction negative d)) (afterFraction negative d) := by
  apply sound_of_head (fun _ => isNumeral_of_exponentMark)
  · intro c mark
    exact ⟨_, exponentPart_sound negative d, afterFraction_mark negative d mark⟩
  · refine ⟨_, settle_sound negative d, fun tail unmarked => ?_,
      .inl fun _ => goesOn_of_exponentMark⟩
    exact if_neg (Bool.eq_false_iff.mp unmarked)

/-! ## Fractions and digits before the point -/

theorem fractionPart_sound (negative : Bool) (d : Decimal) :
    Sound (Spells (fractionPart negative d)) (fractionPart negative d) := by
  apply sound_of_digits
  intro ds hds
  have hleft := gather_digits coefficientLimit d.coefficient hds
  cases empty : ds.isEmpty with
  | true =>
    left
    intro tail p stop
    simp only [fractionPart, digitAhead_append hds stop, empty]
    exact noDigit_ne_ok _ _
  | false =>
    right
    let left := gather coefficientLimit d.coefficient ds
    refine ⟨afterFraction negative ⟨left.1, d.exponent - (ds.length - left.2.length : Nat)⟩,
      afterFraction_sound negative _, fun tail stop => ?_⟩
    simp only [fractionPart, digitAhead_append hds stop, empty, gather_append hds stop,
      skipDigits_append hleft stop, List.length_append, Nat.add_sub_add_right]
    rfl

/-- What follows the digits before the point, where there is no point. -/
def afterWhole (negative : Bool) (n excess : Nat) : Step Number := fun text =>
  if excess = 0 ∧ ¬ exponentAhead text then integer negative n text
  else afterFraction negative ⟨n, excess⟩ text

theorem afterWhole_sound (negative : Bool) (n excess : Nat) :
    Sound (Spells (afterWhole negative n excess)) (afterWhole negative n excess) := by
  apply sound_of_head (fun _ => isNumeral_of_exponentMark)
  · intro c mark
    refine ⟨_, exponentPart_sound negative ⟨n, excess⟩, fun tail => ?_⟩
    rw [afterWhole, if_neg fun whole => whole.2 mark, afterFraction_mark _ _ mark]
  · -- Nothing but the digits belongs to the number: it is whole unless some did not fit.
    by_cases whole : excess = 0
    · refine ⟨_, integer_sound negative n, fun tail unmarked => ?_,
        .inl fun _ => goesOn_of_exponentMark⟩
      exact if_pos ⟨whole, Bool.eq_false_iff.mp unmarked⟩
    · refine ⟨_, afterFraction_sound negative ⟨n, excess⟩, fun tail _ => ?_,
        .inl fun _ => goesOn_of_exponentMark⟩
      exact if_neg fun h => whole h.1

theorem afterDigits_of_ne {negative : Bool} {n excess : Nat} {text : List Char}
    (h : text.head?.any (· == '.') = false) :
    afterDigits negative n excess text = afterWhole negative n excess text := by
  unfold afterDigits
  split
  · cases h
  · rfl

theorem afterDigits_sound (negative : Bool) (n excess : Nat) :
    Sound (Spells (afterDigits negative n excess)) (afterDigits negative n excess) := by
  apply sound_of_head (q := (· == '.')) (fun c hc => by rw [eq_of_beq hc]; rfl)
  · intro c isPoint
    obtain rfl : c = '.' := eq_of_beq isPoint
    exact ⟨_, fractionPart_sound negative ⟨n, excess⟩, fun _ => rfl⟩
  · exact ⟨_, afterWhole_sound negative n excess, fun tail => afterDigits_of_ne,
      .inl fun c hc => by rw [eq_of_beq hc]; rfl⟩

theorem magnitude_sound (negative : Bool) :
    Sound (Spells (magnitude negative)) (magnitude negative) := by
  apply sound_of_digits
  intro ds hds
  have hleft := gather_digits coefficientLimit 0 hds
  cases ds with
  | nil =>
    left
    intro tail p stop
    simp only [magnitude, digitAhead_append hds stop]
    exact noDigit_ne_ok _ _
  | cons c ds =>
    have hmore : Digits ds := fun d hd => hds d (List.mem_cons_of_mem c hd)
    have ahead : ∀ tail, digitAhead (c :: ds ++ tail) = true := fun _ => hds c List.mem_cons_self
    have drop : ∀ tail, (c :: ds ++ tail).drop 1 = ds ++ tail := fun _ => rfl
    by_cases padded : c = '0' ∧ ds.isEmpty = false
    · left
      intro tail p stop
      have more : digitAhead (ds ++ tail) = true := by
        rw [digitAhead_append hmore stop, padded.2]
        rfl
      rw [magnitude, if_pos (ahead tail), if_pos ⟨by rw [padded.1]; rfl, (drop tail).symm ▸ more⟩]
      exact nofun
    · right
      let left := gather coefficientLimit 0 (c :: ds)
      refine ⟨_, afterDigits_sound negative left.1 left.2.length, fun tail stop => ?_⟩
      have once : ¬ ((c :: ds ++ tail).head? = some '0' ∧
          digitAhead ((c :: ds ++ tail).drop 1) = true) := by
        rintro ⟨zero, more⟩
        rw [drop, digitAhead_append hmore stop] at more
        exact padded ⟨Option.some.inj zero, by simpa using more⟩
      rw [magnitude, if_pos (ahead tail), if_neg once, gather_append hds stop]
      simp only [skipDigits_append hleft stop, digitsOf_append hleft stop]
      rfl

/-- Reading a number takes off characters of numbers, and does not look further than to see that
no more of them follow. -/
theorem number_sound : Sound (Spells number) number := by
  apply sound_of_head (q := (· == '-')) (fun c hc => by rw [eq_of_beq hc]; rfl)
  · intro c isSigned
    obtain rfl : c = '-' := eq_of_beq isSigned
    exact ⟨_, magnitude_sound true, fun _ => rfl⟩
  · refine ⟨_, magnitude_sound false, fun tail unsigned => ?_, .inr fun p => noDigit_ne_ok [] p⟩
    unfold number
    split
    · cases unsigned
    · rfl

/-- A number begins with a digit or with a minus sign. -/
theorem number_head {c : Char} {text rest : List Char} {n : Number}
    (h : number (c :: text) = .ok (n, rest)) : c = '-' ∨ c.isDigit = true := by
  unfold number at h
  split at h
  · next split =>
    left
    exact (List.cons.inj split).1
  · right
    unfold magnitude at h
    split at h
    · next ahead => exact ahead
    · exact absurd h (noDigit_ne_ok _ _)

end Reprint.Reader
