import Reprint.Number.Text
import Reprint.Text.Quoted
import Reprint.Value.Basic

set_option autoImplicit false

/-!
# Values: the compact text

The shortest way to write a value: no white space between tokens, and members in the order in which
the object lists them.
-/

namespace Reprint.Value

mutual

/-- The compact text of a value. -/
def chars : Value → List Char
  | .null => ['n', 'u', 'l', 'l']
  | .bool true => ['t', 'r', 'u', 'e']
  | .bool false => ['f', 'a', 'l', 's', 'e']
  | .number n => n.text
  | .string s => Text.quoted s.toList
  | .array [] => ['[', ']']
  | .array (v :: vs) => '[' :: v.chars ++ moreElements vs ++ [']']
  | .object [] => ['{', '}']
  | .object ((k, v) :: ms) =>
    '{' :: Text.quoted k.toList ++ ':' :: v.chars ++ moreMembers ms ++ ['}']

/-- Elements that follow another, each after its comma. -/
def moreElements : List Value → List Char
  | [] => []
  | v :: vs => ',' :: v.chars ++ moreElements vs

/-- Members that follow another, each after its comma. -/
def moreMembers : List (String × Value) → List Char
  | [] => []
  | (k, v) :: ms => ',' :: Text.quoted k.toList ++ ':' :: v.chars ++ moreMembers ms

end

/-- The compact text of a value, as a string. -/
def text (v : Value) : String := String.ofList v.chars

end Reprint.Value
