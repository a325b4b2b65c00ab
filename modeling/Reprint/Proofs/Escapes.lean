import Reprint.Proofs.Literal

set_option autoImplicit false

/-!
# Escapes

The scanner counts the backslashes before a quotation mark and looks at the parity of their number.
The rule of escapes reads from left to right and remembers one thing only, whether the next
character is protected: a backslash protects the character after it, unless it is protected itself.
Both see the same delimiters in every text, in literals and outside.  So the scanner finds the two
ends of every literal that the grammar of JSON allows, whatever comes behind it.
-/

namespace Reprint.Text

/-! ## The two rules -/

/-- Whether the character behind `c` is protected, when `c` itself is or is not. -/
def protects (covered : Bool) (c : Char) : Bool := c == '\\' && !covered

/-- The positions of the quotation marks that are not protected.  The text begins at position `i`,
with a character that is protected or not. -/
def unprotectedFrom (covered : Bool) (i : Nat) : List Char → List Nat
  | [] => []
  | c :: text =>
    let later := unprotectedFrom (protects covered c) (i + 1) text
    if c == '"' && !covered then i :: later else later

namespace Scanner

/-- The positions at which the scanner sees a delimiter.  The text begins at position `i`. -/
def delimitersFrom (s : Scanner) (i : Nat) : List Char → List Nat
  | [] => []
  | c :: text =>
    let later := (s.next c).delimitersFrom (i + 1) text
    if s.isDelimiter c then i :: later else later

/-- An odd number of backslashes stands before the position. -/
def covers (s : Scanner) : Bool := s.backslashes % 2 == 1

theorem isDelimiter_eq (s : Scanner) (c : Char) : s.isDelimiter c = (c == '"' && !s.covers) := by
  have parity : (s.backslashes % 2 == 0) = !(s.backslashes % 2 == 1) := by
    rcases Nat.mod_two_eq_zero_or_one s.backslashes with even | odd
    · simp [even]
    · simp [odd]
  rw [isDelimiter, covers, parity]

/-- A backslash turns the parity, and every other character starts a new count. -/
theorem covers_next (s : Scanner) (c : Char) : (s.next c).covers = protects s.covers c := by
  by_cases backslash : c = '\\'
  · simp [covers, next, protects, backslash, odd_succ]
  · simp [covers, next, protects, backslash]

/-- Counting backslashes and protecting single characters find the same delimiters. -/
theorem delimitersFrom_eq (s : Scanner) (i : Nat) (text : List Char) :
    s.delimitersFrom i text = unprotectedFrom s.covers i text := by
  induction text generalizing s i with
  | nil => rfl
  | cons c text ih =>
    rw [delimitersFrom, unprotectedFrom, ih, isDelimiter_eq, covers_next]

/-! ## Inside and outside -/

theorem le_of_mem_delimitersFrom {s : Scanner} {i j : Nat} {text : List Char}
    (h : j ∈ s.delimitersFrom i text) : i ≤ j := by
  induction text generalizing s i with
  | nil => cases h
  | cons c text ih =>
    rw [delimitersFrom] at h
    split at h
    · rcases List.mem_cons.mp h with here | later
      · exact Nat.le_of_eq here.symm
      · exact Nat.le_of_succ_le (ih later)
    · exact Nat.le_of_succ_le (ih h)

/-- After any part of the text, the scanner has changed sides once for each delimiter in it. -/
theorem inside_after_take (s : Scanner) (i : Nat) (text : List Char) (n : Nat) :
    (s.after (text.take n)).inside =
      (s.inside ^^ (s.delimitersFrom i text).countP (· < i + n) % 2 == 1) := by
  induction text generalizing s i n with
  | nil => simp [delimitersFrom]
  | cons c text ih =>
    cases n with
    | zero =>
      have none : (s.delimitersFrom i (c :: text)).countP (· < i + 0) = 0 := by
        refine List.countP_eq_zero.mpr fun j hj => ?_
        have from_i : i ≤ j := le_of_mem_delimitersFrom hj
        simp [from_i]
      rw [none]
      simp
    | succ n =>
      have later := ih (s.next c) (i + 1) n
      have shift : i + 1 + n = i + (n + 1) := by omega
      rw [List.take_succ_cons, after_cons, later, shift, delimitersFrom]
      cases delimiter : s.isDelimiter c with
      | false => simp [next, delimiter]
      | true =>
        rw [if_pos rfl, List.countP_cons_of_pos (by simp), odd_succ]
        simp [next, delimiter]

/-- Between the quotation marks of a literal the scanner is inside. -/
theorem inside_escaped {s : Scanner} (ready : s.Ready) {content : List Char}
    (h : Escaped content) (n : Nat) : (s.after (content.take n)).inside = true := by
  induction h generalizing s n with
  | nil =>
    rw [List.take_nil]
    exact ready.1
  | plain quote backslash _ ih =>
    cases n with
    | zero => exact ready.1
    | succ n => exact ih (ready.next_plain quote backslash) n
  | @pair c text _ ih =>
    obtain ⟨inside, ready'⟩ := ready.next_pair c
    match n with
    | 0 => exact ready.1
    | 1 => exact inside
    | n + 2 => exact ih ready' n

end Scanner

end Reprint.Text

namespace Reprint.Reader

open Reprint.Text

/-! ## Literals of the grammar -/

/-- What the grammar of JSON allows between the quotation marks of a literal: visible characters
other than quotation marks and backslashes, escapes of one letter, and escapes of four hexadecimal
digits. -/
inductive LiteralContent : List Char → Prop where
  | nil : LiteralContent []
  | plain {c : Char} {text : List Char} :
      c ≠ '"' → c ≠ '\\' → 0x20 ≤ c.toNat → LiteralContent text → LiteralContent (c :: text)
  | letter {c : Char} {text : List Char} :
      (shortEscape? c).isSome → LiteralContent text → LiteralContent ('\\' :: c :: text)
  | digits {a b c d : Char} {text : List Char} :
      (hexValue? a b c d).isSome → LiteralContent text →
        LiteralContent ('\\' :: 'u' :: a :: b :: c :: d :: text)

theorem LiteralContent.escaped {content : List Char} (h : LiteralContent content) :
    Escaped content := by
  induction h with
  | nil => exact .nil
  | plain quote backslash _ _ ih => exact .plain quote backslash ih
  | letter _ _ ih => exact .pair ih
  | digits hex _ ih =>
    obtain ⟨n, value⟩ := Option.isSome_iff_exists.mp hex
    exact .pair (escaped_hex value ih)

/-- In every text the delimiters that the scanner sees are the quotation marks that no backslash
protects, and after every part of the text it is inside a literal when their number so far is odd.
So it is inside after each part of a literal that begins the text, and outside with no backslash
before it when the literal ends. -/
theorem delimiters_unprotected :
    (∀ text : List Char,
      Scanner.start.delimitersFrom 0 text = unprotectedFrom false 0 text ∧
        ∀ n, (Scanner.start.after (text.take n)).inside =
          ((unprotectedFrom false 0 text).countP (· < n) % 2 == 1)) ∧
    ∀ content rest : List Char, LiteralContent content →
      let literal := '"' :: content ++ ['"']
      (∀ n, 0 < n → n < literal.length →
        (Scanner.start.after ((literal ++ rest).take n)).inside = true) ∧
        Scanner.start.after ((literal ++ rest).take literal.length) = .start := by
  refine ⟨fun text => ?_, fun content rest grammatical => ?_⟩
  · have same : Scanner.start.delimitersFrom 0 text = unprotectedFrom false 0 text :=
      Scanner.delimitersFrom_eq .start 0 text
    refine ⟨same, fun n => ?_⟩
    rw [Scanner.inside_after_take .start 0, same, Nat.zero_add]
    exact Bool.false_xor _
  · intro literal
    have escaped := grammatical.escaped
    refine ⟨fun n begun unfinished => ?_, ?_⟩
    · obtain ⟨m, rfl⟩ := Nat.exists_eq_add_of_le' begun
      have within : m ≤ content.length := by
        simp only [literal, List.length_append, List.length_cons, List.length_nil] at unfinished
        omega
      have part : (literal ++ rest).take (m + 1) = '"' :: content.take m := by
        simp [literal, List.take_append_of_le_length within]
      rw [part, Scanner.after_cons]
      exact Scanner.inside_escaped ⟨rfl, rfl⟩ escaped m
    · rw [List.take_left]
      exact (Scanner.within_literal escaped).2

/-- A literal of an escaped quotation mark, two backslashes written as one pair, an escape of four
digits and a space, with an escaped quotation mark outside literals behind it. -/
theorem delimiters_unprotected_pairs :
    let content := ['\\', '"', '\\', '\\', '\\', 'u', '0', '0', 'E', '9', ' ']
    let rest := ['\\', '"', '"']
    let literal := '"' :: content ++ ['"']
    LiteralContent content ∧ Scanner.start.delimitersFrom 0 (literal ++ rest) = [0, 12, 15] ∧
      0 < 3 ∧ 3 < literal.length ∧
      (Scanner.start.after ((literal ++ rest).take 3)).inside = true ∧
      Scanner.start.after ((literal ++ rest).take literal.length) = .start := by
  intro content rest literal
  have grammatical : LiteralContent content := by
    refine .letter rfl (.letter rfl (.digits rfl (.plain ?_ ?_ ?_ .nil)))
    all_goals decide
  obtain ⟨inside, outside⟩ := delimiters_unprotected.2 content rest grammatical
  have begun : 0 < 3 := by decide
  have unfinished : 3 < literal.length := by decide
  exact ⟨grammatical, by decide, begun, unfinished, inside 3 begun unfinished, outside⟩

end Reprint.Reader
