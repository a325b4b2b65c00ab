import Reprint.Number.Text
import Reprint.Reader.Fault
import Reprint.Text.Quoted
import Reprint.Value.Basic

set_option autoImplicit false

/-!
# Native data: mismatches

Why a JSON value is not the data of some type.
-/

namespace Reprint

/-- What a value turns out to be, where something else is expected. -/
inductive Found where
  | bool (b : Bool)
  | integer (n : Int)
  | float (x : FiniteFloat)
  | string (s : String)
  | null
  | sequence
  | map

namespace Found

/-- What a number turns out to be. -/
def ofNumber : Number → Found
  | .whole n => .integer n.val
  | .float x => .float x

/-- What a value turns out to be. -/
def ofValue : Value → Found
  | .null => .null
  | .bool b => .bool b
  | .number n => ofNumber n
  | .string s => .string s
  | .array _ => .sequence
  | .object _ => .map

/-- How a message describes it. -/
def message : Found → String
  | .bool b => "boolean `" ++ (if b then "true" else "false") ++ "`"
  | .integer n => "integer `" ++ (if n < 0 then "-" else "") ++ n.natAbs.repr ++ "`"
  | .float x => "floating point `" ++ String.ofList x.text ++ "`"
  | .string s => "string " ++ Text.shown s
  | .null => "null"
  | .sequence => "sequence"
  | .map => "map"

end Found

/-- Why a value is not the data of some type. -/
inductive Mismatch where
  /-- The value is of another kind. -/
  | type (found : Found) (expected : String)
  /-- The value is of the right kind and none of the type's values. -/
  | value (found : Found) (expected : String)
  /-- An array has the wrong number of elements. -/
  | length (count : Nat) (expected : String)
  /-- An object lacks a member. -/
  | missing (field : String)
  /-- The name of a member should be a number and does not begin or end like one. -/
  | notNumeric
  /-- The name of a member should be a number and is not written like one. -/
  | badNumeral (fault : Reader.SyntaxFault)
  /-- The number that the name of a member holds does not match, as is clear at some position. -/
  | numeral (reason : Mismatch) (position : Reader.Position)

/-- What is said about a mismatch. -/
def Mismatch.message : Mismatch → String
  | .type found expected => "invalid type: " ++ found.message ++ ", expected " ++ expected
  | .value found expected => "invalid value: " ++ found.message ++ ", expected " ++ expected
  | .length count expected => "invalid length " ++ count.repr ++ ", expected " ++ expected
  | .missing field => "missing field `" ++ field ++ "`"
  | .notNumeric => "invalid value: expected key to be a number in quotes"
  | .badNumeral fault => fault.message
  | .numeral reason p =>
    reason.message ++ " at line " ++ p.line.repr ++ " column " ++ p.column.repr

end Reprint
