import Mathlib.Data.List.Infix
import Reprint.Proofs.Scanning
import Reprint.Proofs.Written

set_option autoImplicit false

/-!
# What is written at a position

The printers carry a state along.  Here everything they know of it is said of the text before a
position alone: which quotation marks delimit literals, what stands outside literals, how deep the
braces are and which bracket was the last.  So the pretty form of any text is put together from
pieces, one for each position, that do not mention a state.

The braces need not match.  The level is the balance of the braces counted from the lowest balance
that was ever reached, or from zero if that is lower: a brace that closes nothing lowers the ground
and not the level.
-/

namespace Reprint.Text

/-! ## Literals -/

/-- The positions of a text: each character with the text before it. -/
def positions (text : List Char) : List (List Char × Char) :=
  text.mapIdx fun i c => (text.take i, c)

/-- How many backslashes stand at the end of a text. -/
def backslashesAt (before : List Char) : Nat := (before.reverse.takeWhile (· == '\\')).length

/-- Behind `before` the character opens or closes a literal: it is a quotation mark with an even
number of backslashes directly before it. -/
def delimits (before : List Char) (c : Char) : Bool :=
  c == '"' && backslashesAt before % 2 == 0

/-- How many literals the text opens or closes. -/
def delimiters (text : List Char) : Nat := (positions text).countP fun p => delimits p.1 p.2

/-- Behind `before` the character delimits a literal or lies inside one. -/
def isLiteral (before : List Char) (c : Char) : Bool :=
  delimits before c || delimiters before % 2 == 1

/-- The characters of a text that belong to no literal. -/
def outside (text : List Char) : List Char :=
  ((positions text).filter fun p => !isLiteral p.1 p.2).map Prod.snd

theorem positions_concat (text : List Char) (c : Char) :
    positions (text ++ [c]) = positions text ++ [(text, c)] := by
  have shorter : (text.mapIdx fun i d => ((text ++ [c]).take i, d)) = positions text := by
    refine List.mapIdx_eq_mapIdx_iff.mpr fun i h => ?_
    rw [List.take_append_of_le_length (Nat.le_of_lt h)]
  rw [positions, List.mapIdx_concat, shorter, List.take_left]

theorem mem_positions_iff {text before : List Char} {c : Char} :
    (before, c) ∈ positions text ↔ ∃ later, text = before ++ c :: later := by
  rw [positions, List.mem_mapIdx]
  constructor
  · intro h
    obtain ⟨i, inside, same⟩ := h
    cases same
    refine ⟨text.drop (i + 1), ?_⟩
    rw [← List.drop_eq_getElem_cons inside, List.take_append_drop]
  · intro h
    obtain ⟨later, rfl⟩ := h
    exact ⟨before.length, by simp, by simp⟩

theorem backslashesAt_concat (text : List Char) (c : Char) :
    backslashesAt (text ++ [c]) = if c = '\\' then backslashesAt text + 1 else 0 := by
  by_cases backslash : c = '\\'
  · simp [backslashesAt, backslash]
  · simp [backslashesAt, backslash]

theorem delimiters_concat (text : List Char) (c : Char) :
    delimiters (text ++ [c]) = delimiters text + (delimits text c).toNat := by
  cases delimiter : delimits text c with
  | true => simp [delimiters, positions_concat, delimiter]
  | false => simp [delimiters, positions_concat, delimiter]

theorem outside_concat (text : List Char) (c : Char) :
    outside (text ++ [c]) = if isLiteral text c then outside text else outside text ++ [c] := by
  cases literal : isLiteral text c with
  | true => simp [outside, positions_concat, literal]
  | false => simp [outside, positions_concat, literal]

/-- The scanner knows of the text behind it the parity of its delimiters and the backslashes at its
end. -/
theorem Scanner.after_start (text : List Char) :
    Scanner.start.after text = ⟨delimiters text % 2 == 1, backslashesAt text⟩ := by
  induction text using List.reverseRecOn with
  | nil => rfl
  | append_singleton text c ih =>
    have delimiter : (Scanner.start.after text).isDelimiter c = delimits text c := by
      rw [ih]
      rfl
    have parity : (delimiters (text ++ [c]) % 2 == 1) =
        ((delimiters text % 2 == 1) ^^ delimits text c) := by
      rw [delimiters_concat]
      cases delimits text c with
      | true => simp [odd_succ]
      | false => simp
    rw [after_append, after_cons, after_nil, next, delimiter, ih, parity, backslashesAt_concat]

theorem Scanner.inLiteral_after (text : List Char) (c : Char) :
    (Scanner.start.after text).inLiteral c = isLiteral text c := by
  rw [after_start]
  rfl

end Reprint.Text

namespace Reprint.Layout

open Reprint.Text

/-! ## Braces and brackets -/

/-- The opening braces outside literals less the closing ones. -/
def balance (text : List Char) : Int := (outside text).count '{' - (outside text).count '}'

/-- The lowest balance of the text and of all texts that it begins with, or zero if none of them is
negative. -/
def lowest (text : List Char) : Int := (text.inits.map balance).foldl min 0

/-- How far the balance is above its lowest. -/
def level (text : List Char) : Int := balance text - lowest text

/-- The last bracket of an array that stands outside literals, if it is an opening one. -/
def inArray (text : List Char) : Bool :=
  ((outside text).filter fun c => c == '[' || c == ']').getLast? == some '['

/-- What is written for the character that stands behind `before`. -/
def piece (unit : String) (eol : Eol) (before : List Char) (c : Char) : List Char :=
  let line := lineBreak unit eol (level (before ++ [c])).toNat
  if isLiteral before c then [c]
  else if c = '{' then ['{'] ++ line
  else if c = '}' then line ++ ['}']
  else if c = '[' then ['[', ' ']
  else if c = ']' then [' ', ']']
  else if c = ',' then if inArray before then [',', ' '] else [','] ++ line
  else if c = ':' then [' ', ':', ' ']
  else if isBlank c then []
  else [c]

theorem balance_concat (text : List Char) (c : Char) :
    balance (text ++ [c]) =
      if isLiteral text c then balance text
      else if c = '{' then balance text + 1
      else if c = '}' then balance text - 1
      else balance text := by
  rw [balance, outside_concat]
  split
  · rfl
  split
  · next opening =>
    simp [balance, opening]
    omega
  split
  · next closing =>
    simp [balance, closing]
    omega
  · next opening closing => simp [balance, opening, closing]

theorem lowest_concat (text : List Char) (c : Char) :
    lowest (text ++ [c]) = min (lowest text) (balance (text ++ [c])) := by
  simp [lowest, List.inits_append]

theorem lowest_le (text : List Char) : lowest text ≤ balance text := by
  induction text using List.reverseRecOn with
  | nil => decide
  | append_singleton text c _ =>
    rw [lowest_concat]
    exact Int.min_le_right _ _

/-- The level goes up with an opening brace and down with a closing one, but not below zero. -/
theorem level_concat (text : List Char) (c : Char) :
    (level (text ++ [c])).toNat =
      if isLiteral text c then (level text).toNat
      else if c = '{' then (level text).toNat + 1
      else if c = '}' then (level text).toNat - 1
      else (level text).toNat := by
  have least := lowest_le text
  have balanced := balance_concat text c
  have lower := lowest_concat text c
  simp only [level]
  split_ifs at balanced ⊢ <;> omega

theorem inArray_concat (text : List Char) (c : Char) :
    inArray (text ++ [c]) =
      if isLiteral text c then inArray text
      else if c = '[' then true
      else if c = ']' then false
      else inArray text := by
  rw [inArray, outside_concat]
  split
  · rfl
  split
  · next opening => simp [opening]
  split
  · next closing => simp [closing]
  · next opening closing => simp [inArray, opening, closing]

/-! ## The pretty form -/

/-- All that the pretty form knows of the text behind it. -/
theorem prettyPass_after_start (text : List Char) :
    prettyPass.after .start text =
      ⟨Scanner.start.after text, (level text).toNat, inArray text⟩ := by
  induction text using List.reverseRecOn with
  | nil => rfl
  | append_singleton text c ih =>
    have scanner : Scanner.start.after (text ++ [c]) = (Scanner.start.after text).next c := by
      rw [Scanner.after_append, Scanner.after_cons, Scanner.after_nil]
    rw [Pass.after_append, ih, Pass.after_cons, Pass.after_nil, scanner, level_concat,
      inArray_concat]
    simp only [prettyPass, Indenting.next, Indenting.nextLevel, Indenting.nextInArray,
      Scanner.inLiteral_after]

/-- The piece of a position is what the pretty form puts there. -/
theorem put_after_start (unit : String) (eol : Eol) (text : List Char) (c : Char) :
    prettyPass.put unit eol (prettyPass.after .start text) c = piece unit eol text c := by
  have level := level_concat text c
  rw [prettyPass_after_start, Pass.put]
  simp only [prettyPass, Indenting.writes, Scanner.inLiteral_after, piece]
  split
  · rfl
  next apart =>
  rw [if_neg apart] at level
  -- The level just behind a brace or a comma is the one that is written with it.
  split
  · next opening =>
    rw [level, if_pos opening, opening]
    simp [Write.chars]
  next notOpening =>
  rw [if_neg notOpening] at level
  split
  · next closing =>
    rw [level, if_pos closing, closing]
    simp [Write.chars]
  next notClosing =>
  rw [level, if_neg notClosing]
  split
  · rfl
  split
  · rfl
  split
  · next comma =>
    subst comma
    cases inArray text with
    | true => rfl
    | false => simp [Write.chars]
  split
  · rfl
  split
  · rfl
  · rfl

theorem printed_start (unit : String) (eol : Eol) (text : List Char) :
    prettyPass.printed unit eol .start text =
      ((positions text).map fun p => piece unit eol p.1 p.2).flatten := by
  induction text using List.reverseRecOn with
  | nil => rfl
  | append_singleton text c ih =>
    rw [Pass.printed_append, ih, Pass.printed_cons, Pass.printed_nil, List.append_nil,
      put_after_start, positions_concat, List.map_append, List.flatten_append, List.map_singleton,
      List.flatten_singleton]

theorem level_nonneg (text : List Char) : 0 ≤ level text := by
  have least := lowest_le text
  rw [level]
  omega

/-- The pretty form of a text, JSON or not, is the concatenation of one piece for each position,
which depends on the text before the position and on the character there.  The level of a text, of
which a piece takes the indentation, is never negative. -/
theorem prettify_eq_pieces (text unit : String) (eol : Eol) :
    (prettify text unit eol).toList =
        ((positions text.toList).map fun p => piece unit eol p.1 p.2).flatten ∧
      ∀ i, 0 ≤ level (text.toList.take i) := by
  refine ⟨?_, fun i => level_nonneg _⟩
  rw [prettify_toList, printed_start]

/-- Two braces that close nothing do not make up for one that opens. -/
example : level ['}', '}', '{', '{', '}'] = 1 := by decide

end Reprint.Layout
