import Reprint.Reader.Basic
import Reprint.Text.Quoted

set_option autoImplicit false

/-!
# Reader: string literals

What stands between two quotation marks is a row of characters, each written as itself or as an
escape.  A character outside the basic plane may be written as two escapes, the halves of a
surrogate pair.  Reading gives back what `Text.quoted` writes (`literal_quoted`).
-/

namespace Reprint.Reader

/-- The value of a hexadecimal digit. -/
def hexDigit? (c : Char) : Option Nat :=
  if '0' ≤ c ∧ c ≤ '9' then some (c.toNat - '0'.toNat)
  else if 'a' ≤ c ∧ c ≤ 'f' then some (c.toNat - 'a'.toNat + 10)
  else if 'A' ≤ c ∧ c ≤ 'F' then some (c.toNat - 'A'.toNat + 10)
  else none

/-- The value of four hexadecimal digits. -/
def hexValue? (a b c d : Char) : Option Nat := do
  return (((← hexDigit? a) * 16 + (← hexDigit? b)) * 16 + (← hexDigit? c)) * 16 + (← hexDigit? d)

/-- The code unit opens a surrogate pair. -/
def isLeading (n : Nat) : Bool := 0xD800 ≤ n && n ≤ 0xDBFF

/-- The code unit closes a surrogate pair. -/
def isTrailing (n : Nat) : Bool := 0xDC00 ≤ n && n ≤ 0xDFFF

/-- The character that a surrogate pair stands for. -/
def pairedChar (leading trailing : Nat) : Char :=
  Char.ofNat (0x10000 + (leading - 0xD800) * 0x400 + (trailing - 0xDC00))

/-- The character that a backslash and this one stand for. -/
def shortEscape? : Char → Option Char
  | '"' => some '"'
  | '\\' => some '\\'
  | '/' => some '/'
  | 'b' => some '\x08'
  | 'f' => some '\x0c'
  | 'n' => some '\n'
  | 'r' => some '\r'
  | 't' => some '\t'
  | _ => none

/-- No four hexadecimal digits are there.  Four bytes count as read, or what is left of the text. -/
def noHex {α : Type} (text : List Char) : Except Fault α :=
  .error (.past 4 (if byteCount text < 4 then .endInString else .badEscape) text)

/-- No escape follows the first half of a surrogate pair. -/
def noPair {α : Type} : List Char → Except Fault α
  | [] | ['\\'] => .error (.here .endInString [])
  | '\\' :: text => .error (.past 1 .halfSurrogate text)
  | text => .error (.past 1 .halfSurrogate text)

/-- Reads the characters of a string literal and its closing quotation mark. -/
def literal : Step (List Char)
  | [] => .error (.here .endInString [])
  | '"' :: rest => .ok ([], rest)
  | ['\\'] => .error (.here .endInString [])
  | '\\' :: 'u' :: a :: b :: c :: d :: rest =>
    match hexValue? a b c d with
    | none => noHex (a :: b :: c :: d :: rest)
    | some n =>
      if isTrailing n then .error (.here .loneSurrogate rest)
      else if isLeading n then
        match rest with
        | '\\' :: 'u' :: a :: b :: c :: d :: rest =>
          match hexValue? a b c d with
          | none => noHex (a :: b :: c :: d :: rest)
          | some m =>
            if isTrailing m then found (pairedChar n m :: ·) (literal rest)
            else .error (.here .loneSurrogate rest)
        | '\\' :: 'u' :: rest => noHex rest
        | rest => noPair rest
      else found (Char.ofNat n :: ·) (literal rest)
  | '\\' :: 'u' :: rest => noHex rest
  | '\\' :: c :: rest =>
    match shortEscape? c with
    | none => .error (.past 1 .badEscape (c :: rest))
    | some c => found (c :: ·) (literal rest)
  | c :: rest =>
    if c.toNat < 0x20 then .error (.past 1 .controlCharacter (c :: rest))
    else found (c :: ·) (literal rest)

/-- Reads a string literal with both quotation marks. -/
def quoted : Step String
  | '"' :: text => found String.ofList (literal text)
  | text => .error (.peek .badName text)

/-! ## Reading what is written -/

/-- The escapes of control characters hold four hexadecimal digits. -/
theorem hexValue?_control (n : Fin 32) :
    hexValue? '0' '0' (Nat.digitChar (n.val / 16)) (Nat.digitChar (n.val % 16)) = some n.val := by
  revert n; decide

/-- A written character is read as that character. -/
theorem literal_escape (c : Char) (rest : List Char) :
    literal (Text.escape c ++ rest) = found (c :: ·) (literal rest) := by
  unfold Text.escape
  iterate 7 (split; · subst_vars; rfl)
  split
  · next h =>
    have value := hexValue?_control ⟨c.toNat, h⟩
    have trailing : isTrailing c.toNat = false := by simp [isTrailing]; omega
    have leading : isLeading c.toNat = false := by simp [isLeading]; omega
    simp only at value
    simp [literal, value, trailing, leading]
  · next visible =>
    simp only [List.cons_append, List.nil_append]
    rw [literal]
    · rw [if_neg visible]
    all_goals simp_all

/-- Reading the written form of a text gives the text back. -/
theorem literal_quoted (text rest : List Char) :
    literal (text.flatMap Text.escape ++ '"' :: rest) = .ok (text, rest) := by
  induction text with
  | nil => simp [literal]
  | cons c text ih => rw [List.flatMap_cons, List.append_assoc, literal_escape, ih, found_ok]

end Reprint.Reader
