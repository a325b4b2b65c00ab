import Reprint.Text.Ranges
import Reprint.Text.Scanner

set_option autoImplicit false

/-!
# Scanning a text

What the scanner knows at each position of a text, said of all positions at once.  The texts that
matter most are put together from literals and from characters that are neither quotation marks nor
backslashes: such a text leaves the scanner as it found it, outside literals and with no backslash
before it.
-/

namespace Reprint.Text

/-- A character of a class is none of those outside the class. -/
theorem ne_of_class {q : Char → Bool} {others : List Char}
    (none : others.all (fun d => !q d) = true) {c : Char} (h : q c = true) :
    ∀ d ∈ others, c ≠ d := by
  intro d hd same
  have unlike := List.all_eq_true.mp none d hd
  rw [← same, h] at unlike
  cases unlike

/-- No white space lies between the space and the first control character beyond ASCII. -/
theorem isBlank_eq_false {c : Char} (lower : 0x21 ≤ c.toNat) (upper : c.toNat ≤ 0x84) :
    isBlank c = false := by
  cases blank : isBlank c with
  | false => rfl
  | true =>
    obtain ⟨r, hr, first, last⟩ := Ranges.holds_iff.mp blank
    simp only [blankRanges, List.mem_cons, List.not_mem_nil, or_false] at hr
    rcases hr with rfl | rfl | rfl | rfl | rfl | rfl | rfl | rfl | rfl | rfl <;> omega

/-- One more turns the parity. -/
theorem odd_succ (n : Nat) : ((n + 1) % 2 == 1) = !(n % 2 == 1) := by
  have turned : (n + 1) % 2 = 1 - n % 2 := by omega
  rcases Nat.mod_two_eq_zero_or_one n with even | odd
  · simp [turned, even]
  · simp [turned, odd]

namespace Scanner

/-! ## Every position of a text -/

section Each

variable {P Q : Scanner → Char → Prop}

/-- At every position of the text, `P` holds of the scanner there and of the character. -/
def Each (P : Scanner → Char → Prop) (s : Scanner) : List Char → Prop
  | [] => True
  | c :: text => P s c ∧ Each P (s.next c) text

instance [∀ s c, Decidable (P s c)] (s : Scanner) (text : List Char) :
    Decidable (Each P s text) := go s text
where
  go (s : Scanner) : (text : List Char) → Decidable (Each P s text)
    | [] => inferInstanceAs (Decidable True)
    | c :: text =>
      have : Decidable (Each P (s.next c) text) := go (s.next c) text
      inferInstanceAs (Decidable (P s c ∧ Each P (s.next c) text))

theorem each_append (s : Scanner) (t u : List Char) :
    Each P s (t ++ u) ↔ Each P s t ∧ Each P (s.after t) u := by
  induction t generalizing s with
  | nil => simp [Each]
  | cons c t ih => simp [Each, ih, and_assoc]

/-- The same in terms of the text on the left of each position. -/
theorem each_iff (s : Scanner) (text : List Char) :
    Each P s text ↔
      ∀ before c after, text = before ++ c :: after → P (s.after before) c := by
  constructor
  · rintro h before c after rfl
    exact ((each_append s before (c :: after)).mp h).2.1
  · intro h
    induction text generalizing s with
    | nil => trivial
    | cons c text ih =>
      refine ⟨h [] c text rfl, ih (s.next c) ?_⟩
      rintro before d after rfl
      exact h (c :: before) d after rfl

theorem Each.imp (h : ∀ s c, P s c → Q s c) {s : Scanner} {text : List Char}
    (each : Each P s text) : Each Q s text := by
  induction text generalizing s with
  | nil => trivial
  | cons c text ih => exact ⟨h s c each.1, ih each.2⟩

end Each

/-- Every character of the text belongs to a literal. -/
def Within : Scanner → List Char → Prop := Each fun s c => s.inLiteral c = true

/-- No white space outside literals stands directly after a backslash. -/
def BlanksApart : Scanner → List Char → Prop :=
  Each fun s c => s.inLiteral c = false → isBlank c = true → s.backslashes = 0

/-- All white space of the text stands inside literals. -/
def Compact : Scanner → List Char → Prop :=
  Each fun s c => s.inLiteral c = false → isBlank c = false

instance (s : Scanner) (text : List Char) : Decidable (s.BlanksApart text) :=
  inferInstanceAs (Decidable (Each _ s text))

instance (s : Scanner) (text : List Char) : Decidable (s.Compact text) :=
  inferInstanceAs (Decidable (Each _ s text))

/-- The backslashes that the scanner counts are those at the end of the text behind it. -/
theorem backslashes_after_eq_zero_iff (text : List Char) :
    (start.after text).backslashes = 0 ↔ text.getLast? ≠ some '\\' := by
  rcases List.eq_nil_or_concat text with rfl | ⟨text, c, rfl⟩
  · simp [start]
  · rw [List.concat_eq_append, after_append, List.getLast?_concat]
    by_cases hc : c = '\\'
    · simp [next, hc]
    · simp [next, hc]

/-- What it means for the white space of a text to stand apart from its backslashes. -/
theorem blanksApart_iff (text : List Char) :
    start.BlanksApart text ↔
      ∀ before c after, text = before ++ c :: after → (start.after before).inLiteral c = false →
        isBlank c = true → before.getLast? ≠ some '\\' := by
  simp only [BlanksApart, each_iff, backslashes_after_eq_zero_iff]

/-! ## Single steps -/

theorem inside_of_inLiteral_eq_false {s : Scanner} {c : Char} (h : s.inLiteral c = false) :
    s.inside = false :=
  (Bool.or_eq_false_iff.mp h).2

theorem isDelimiter_eq_false {s : Scanner} {c : Char} (h : c ≠ '"') :
    s.isDelimiter c = false := by
  simp [isDelimiter, h]

/-- Outside literals, all characters but quotation marks are outside. -/
theorem inLiteral_eq_false {s : Scanner} {c : Char} (outside : s.inside = false) (h : c ≠ '"') :
    s.inLiteral c = false := by
  rw [inLiteral, isDelimiter_eq_false h, outside]
  rfl

/-- A character that is neither a quotation mark nor a backslash only ends a row of backslashes. -/
theorem next_ordinary {s : Scanner} {c : Char} (quote : c ≠ '"') (backslash : c ≠ '\\') :
    s.next c = ⟨s.inside, 0⟩ := by
  rw [next, isDelimiter_eq_false quote, if_neg backslash, Bool.xor_false]

theorem ne_quote_of_isBlank {c : Char} (h : isBlank c = true) : c ≠ '"' := by
  rintro rfl
  exact absurd h (by decide)

theorem ne_backslash_of_isBlank {c : Char} (h : isBlank c = true) : c ≠ '\\' := by
  rintro rfl
  exact absurd h (by decide)

/-- White space only ends a row of backslashes. -/
theorem next_blank {s : Scanner} {c : Char} (h : isBlank c = true) : s.next c = ⟨s.inside, 0⟩ :=
  next_ordinary (ne_quote_of_isBlank h) (ne_backslash_of_isBlank h)

/-- White space does not move a scanner that is outside literals. -/
theorem after_blanks {s : Scanner} (outside : s.inside = false) {text : List Char}
    (h : ∀ c ∈ text, isBlank c = true) : (s.after text).inside = false := by
  induction text generalizing s with
  | nil => exact outside
  | cons c text ih =>
    rw [after_cons, next_blank (h c List.mem_cons_self)]
    exact ih outside fun d hd => h d (List.mem_cons_of_mem c hd)

end Scanner

/-! ## Literals -/

/-- What may stand between the quotation marks of a literal: quotation marks and backslashes only
behind a backslash of their own. -/
inductive Escaped : List Char → Prop where
  | nil : Escaped []
  | plain {c : Char} {text : List Char} :
      c ≠ '"' → c ≠ '\\' → Escaped text → Escaped (c :: text)
  | pair {c : Char} {text : List Char} : Escaped text → Escaped ('\\' :: c :: text)

theorem Escaped.append {t u : List Char} (ht : Escaped t) (hu : Escaped u) :
    Escaped (t ++ u) := by
  induction ht with
  | nil => exact hu
  | plain quote backslash _ ih => exact .plain quote backslash ih
  | pair _ ih => exact .pair ih

namespace Scanner

/-- Inside a literal, with an even number of backslashes before it: the next quotation mark ends
the literal. -/
def Ready (s : Scanner) : Prop := s.inside = true ∧ s.backslashes % 2 = 0

theorem Ready.next_quote {s : Scanner} (ready : s.Ready) : s.next '"' = start := by
  simp [next, isDelimiter, ready.1, ready.2, start]

theorem inLiteral_of_inside {s : Scanner} (inside : s.inside = true) (c : Char) :
    s.inLiteral c = true := by
  simp [inLiteral, inside]

theorem Ready.next_plain {s : Scanner} (ready : s.Ready) {c : Char} (quote : c ≠ '"')
    (backslash : c ≠ '\\') : (s.next c).Ready := by
  rw [next_ordinary quote backslash]
  exact ⟨ready.1, rfl⟩

/-- A backslash protects the character after it, whatever that is. -/
theorem Ready.next_pair {s : Scanner} (ready : s.Ready) (c : Char) :
    (s.next '\\').inside = true ∧ ((s.next '\\').next c).Ready := by
  obtain ⟨inside, even⟩ := ready
  have first : s.next '\\' = ⟨true, s.backslashes + 1⟩ := by
    rw [next, isDelimiter_eq_false (by decide), inside, if_pos rfl]
    rfl
  have odd : (s.backslashes + 1) % 2 ≠ 0 := by omega
  have kept : (⟨true, s.backslashes + 1⟩ : Scanner).isDelimiter c = false := by
    simp [isDelimiter, odd]
  rw [first]
  refine ⟨rfl, ?_, ?_⟩
  · rw [next, kept]
    rfl
  · unfold next
    split
    · show (s.backslashes + 1 + 1) % 2 = 0
      omega
    · rfl

/-- The content of a literal lies within it and leaves its end to be found. -/
theorem within_escaped {s : Scanner} (ready : s.Ready) {content : List Char}
    (h : Escaped content) : s.Within content ∧ (s.after content).Ready := by
  induction h generalizing s with
  | nil => exact ⟨trivial, ready⟩
  | @plain c text quote backslash _ ih =>
    obtain ⟨within, after⟩ := ih (ready.next_plain quote backslash)
    exact ⟨⟨inLiteral_of_inside ready.1 c, within⟩, after⟩
  | @pair c text _ ih =>
    obtain ⟨inside, ready'⟩ := ready.next_pair c
    obtain ⟨within, after⟩ := ih ready'
    exact ⟨⟨inLiteral_of_inside ready.1 _, inLiteral_of_inside inside c, within⟩, after⟩

/-- A literal that is met outside literals lies within itself and is passed as a whole. -/
theorem within_literal {content : List Char} (h : Escaped content) :
    start.Within ('"' :: content ++ ['"']) ∧ start.after ('"' :: content ++ ['"']) = start := by
  have ready : (start.next '"').Ready := ⟨rfl, rfl⟩
  obtain ⟨within, after⟩ := within_escaped ready h
  refine ⟨⟨rfl, (each_append _ content ['"']).mpr ⟨within, ?_, trivial⟩⟩, ?_⟩
  · exact inLiteral_of_inside after.1 '"'
  · rw [List.cons_append, after_cons, after_append]
    exact after.next_quote

end Scanner

/-! ## Texts put together from literals and other characters -/

/-- Quotation marks and backslashes occur in literals only, and each literal is closed. -/
inductive Wellquoted : List Char → Prop where
  | nil : Wellquoted []
  | char {c : Char} {text : List Char} :
      c ≠ '"' → c ≠ '\\' → Wellquoted text → Wellquoted (c :: text)
  | literal {content text : List Char} :
      Escaped content → Wellquoted text → Wellquoted (('"' :: content ++ ['"']) ++ text)

namespace Wellquoted

theorem append {t u : List Char} (ht : Wellquoted t) (hu : Wellquoted u) :
    Wellquoted (t ++ u) := by
  induction ht with
  | nil => exact hu
  | char quote backslash _ ih => exact .char quote backslash ih
  | literal content _ ih =>
    rw [List.append_assoc]
    exact .literal content ih

theorem of_ordinary {text : List Char} (h : ∀ c ∈ text, c ≠ '"' ∧ c ≠ '\\') :
    Wellquoted text := by
  induction text with
  | nil => exact .nil
  | cons c text ih =>
    obtain ⟨quote, backslash⟩ := h c List.mem_cons_self
    exact .char quote backslash (ih fun d hd => h d (List.mem_cons_of_mem c hd))

theorem of_blanks {text : List Char} (h : ∀ c ∈ text, isBlank c = true) : Wellquoted text :=
  of_ordinary fun c hc =>
    ⟨Scanner.ne_quote_of_isBlank (h c hc), Scanner.ne_backslash_of_isBlank (h c hc)⟩

theorem of_literal {content : List Char} (h : Escaped content) :
    Wellquoted ('"' :: content ++ ['"']) := by
  have := Wellquoted.literal h .nil
  rwa [List.append_nil] at this

/-- The scanner is outside literals after the text, with no backslash before it. -/
theorem after_start {text : List Char} (h : Wellquoted text) :
    Scanner.start.after text = .start := by
  induction h with
  | nil => rfl
  | char quote backslash _ ih =>
    rw [Scanner.after_cons, Scanner.next_ordinary quote backslash]
    exact ih
  | literal content _ ih => rw [Scanner.after_append, (Scanner.within_literal content).2, ih]

/-- Outside its literals the text has no backslash for white space to stand after. -/
theorem blanksApart {text : List Char} (h : Wellquoted text) :
    Scanner.start.BlanksApart text := by
  induction h with
  | nil => trivial
  | @char c text quote backslash _ ih =>
    refine ⟨fun _ _ => rfl, ?_⟩
    rw [Scanner.next_ordinary quote backslash]
    exact ih
  | @literal content text escaped _ ih =>
    obtain ⟨within, after⟩ := Scanner.within_literal escaped
    refine (Scanner.each_append _ _ text).mpr ⟨within.imp ?_, ?_⟩
    · intro s c inside outside
      rw [inside] at outside
      contradiction
    · rw [after]
      exact ih

end Wellquoted

end Reprint.Text
