import Reprint.Reader.Literal
import Reprint.Reader.Number
import Reprint.Value.Basic

set_option autoImplicit false

/-!
# Reader: values

Arrays and objects are both lists of items between two brackets; they differ in the brackets, in the
item and in what is said about faults.  A value holds at most `maxDepth` arrays and objects inside
one another.
-/

namespace Reprint.Reader

/-- How lists of items are written. -/
structure Enclosure where
  /-- The bracket that ends the list. -/
  close : Char
  /-- The text ends inside the list. -/
  unclosed : Cause
  /-- Neither a comma nor the closing bracket follows an item. -/
  noComma : Cause

/-- Between the brackets of an array. -/
def Enclosure.array : Enclosure := ⟨']', .endInArray, .noCommaInArray⟩

/-- Between the braces of an object. -/
def Enclosure.object : Enclosure := ⟨'}', .endInObject, .noCommaInObject⟩

variable {α : Type}

/-- Reads what follows an item: the other items, each after its comma, and the closing bracket.
There are at most as many items as `bound` has characters; a bound as long as the text is never
reached before the text ends. -/
def moreItems (e : Enclosure) (item : Step α) : (bound : List Char) → Step (List α)
  | [], text => .error (.here e.unclosed text)
  | _ :: bound, text =>
    match skipGap text with
    | [] => .error (.here e.unclosed [])
    | c :: rest =>
      if c = e.close then .ok ([], rest)
      else if c ≠ ',' then .error (.peek e.noComma (c :: rest))
      else
        match skipGap rest with
        | [] => .error (.here .endInValue [])
        | c' :: next =>
          if c' = e.close then .error (.peek .lastComma (c' :: next))
          else
            match item (c' :: next) with
            | .error f => .error f
            | .ok (a, after) => found (a :: ·) (moreItems e item bound after)

/-- Reads the items of a list and its closing bracket, after the opening one. -/
def items (e : Enclosure) (item : Step α) : Step (List α) := fun text =>
  match skipGap text with
  | [] => .error (.here e.unclosed [])
  | c :: rest =>
    if c = e.close then .ok ([], rest)
    else
      match item (c :: rest) with
      | .error f => .error f
      | .ok (a, after) => found (a :: ·) (moreItems e item text after)

/-- Reads a member of an object: a name, a colon and a value. -/
def member (value : Step α) : Step (String × α) := fun text =>
  match quoted text with
  | .error f => .error f
  | .ok (name, after) =>
    match skipGap after with
    | [] => .error (.here .endInObject [])
    | ':' :: rest => found (name, ·) (value rest)
    | rest => .error (.peek .noColon rest)

/-- Reads the rest of a word whose first letter has been read, and gives the word a value. -/
def wordValue (letters : List Char) (v : Value) : Step Value := fun text =>
  (word letters text).map (v, ·)

/-- Reads an array or an object after its opening bracket, unless there may be none. -/
def nested (first : Char) (inner : Option (Step Value)) (read : Step Value → Step Value) :
    Step Value := fun text =>
  match inner with
  | none => .error (.peek .tooDeep (first :: text))
  | some value => read value text

/-- Reads a value that begins with `first`; `inner` reads the values inside it, if there may be
any. -/
def valueFrom (inner : Option (Step Value)) (first : Char) : Step Value := fun text =>
  if first = 'n' then wordValue ['u', 'l', 'l'] .null text
  else if first = 't' then wordValue ['r', 'u', 'e'] (.bool true) text
  else if first = 'f' then wordValue ['a', 'l', 's', 'e'] (.bool false) text
  else if first = '"' then found (Value.string ∘ String.ofList) (literal text)
  else if first = '-' ∨ first.isDigit then found Value.number (number (first :: text))
  else if first = '[' then
    nested first inner (fun value text => found Value.array (items .array value text)) text
  else if first = '{' then
    nested first inner
      (fun value text => found (Value.object ∘ Members.ofList) (items .object (member value) text))
      text
  else .error (.peek .noValue (first :: text))

/-- Reads a value; `inner` reads the values inside it, if there may be any. -/
def valueWith (inner : Option (Step Value)) : Step Value := fun text =>
  match skipGap text with
  | [] => .error (.here .endInValue [])
  | c :: rest => valueFrom inner c rest

/-- Reads a value that holds at most `depth` arrays and objects inside one another. -/
def value : Nat → Step Value
  | 0 => valueWith none
  | depth + 1 => valueWith (some (value depth))

/-- How many arrays and objects may stand inside one another. -/
def maxDepth : Nat := 127

/-- Reads a text that holds one value and nothing else. -/
def document (text : List Char) : Except Fault Value :=
  match value maxDepth text with
  | .error f => .error f
  | .ok (v, after) =>
    match skipGap after with
    | [] => .ok v
    | rest => .error (.peek .trailing rest)

end Reprint.Reader

namespace Reprint

/-- The value that a text holds. -/
def Value.parse (text : String) : Except Reader.SyntaxFault Value :=
  (Reader.document text.toList).mapError (Reader.SyntaxFault.locate text)

end Reprint
