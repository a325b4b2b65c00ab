set_option autoImplicit false

/-!
# Text: finding string literals

A scanner walks a text once, character by character, and knows at each point whether it stands
inside a string literal.  A quotation mark opens or closes a literal when an even number of
backslashes stands directly before it; the backslashes are counted outside literals as well.
-/

namespace Reprint.Text

/-- What is known of the text left of the current position. -/
structure Scanner where
  /-- An opening quotation mark has been passed and not yet closed. -/
  inside : Bool
  /-- How many backslashes stand directly before the current position. -/
  backslashes : Nat
  deriving DecidableEq, Repr

namespace Scanner

/-- The scanner before the first character: outside literals, nothing before it. -/
def start : Scanner := ⟨false, 0⟩

/-- The character opens or closes a literal at this position. -/
def isDelimiter (s : Scanner) (c : Char) : Bool :=
  c == '"' && s.backslashes % 2 == 0

/-- The character belongs to a literal: it delimits one or lies inside one. -/
def inLiteral (s : Scanner) (c : Char) : Bool :=
  s.isDelimiter c || s.inside

/-- The scanner one character further. -/
def next (s : Scanner) (c : Char) : Scanner where
  inside := s.inside ^^ s.isDelimiter c
  backslashes := if c = '\\' then s.backslashes + 1 else 0

/-- The scanner after a whole text. -/
def after (s : Scanner) (text : List Char) : Scanner :=
  text.foldl next s

@[simp] theorem after_nil (s : Scanner) : s.after [] = s := rfl

@[simp] theorem after_cons (s : Scanner) (c : Char) (text : List Char) :
    s.after (c :: text) = (s.next c).after text := rfl

theorem after_append (s : Scanner) (t u : List Char) :
    s.after (t ++ u) = (s.after t).after u := by
  simp [after]

end Scanner

end Reprint.Text
