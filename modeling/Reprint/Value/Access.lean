import Reprint.Number.Word
import Reprint.Value.Basic

set_option autoImplicit false

/-!
# Values: looking inside

Each accessor answers for values of its own kind and for numbers in its own range, and has no
answer otherwise; no accessor wraps or cuts off a number.
-/

namespace Reprint.Value

/-- The text of a string. -/
def string? : Value → Option String
  | .string s => some s
  | _ => none

/-- The truth value of a boolean. -/
def bool? : Value → Option Bool
  | .bool b => some b
  | _ => none

/-- The number, if the value is one. -/
def number? : Value → Option Number
  | .number n => some n
  | _ => none

/-- The integer, if the value is a number that is kept exactly and fits the fixed width. -/
def word? {α : Type} [Word α] (v : Value) : Option α :=
  v.number? >>= Number.toInt? >>= Word.ofInt?

/-- The integer of 32 bits with sign. -/
def int32? (v : Value) : Option Int32 := v.word?

/-- The integer of 64 bits with sign. -/
def int64? (v : Value) : Option Int64 := v.word?

/-- The integer of 64 bits without sign. -/
def uint64? (v : Value) : Option UInt64 := v.word?

/-- Any number, as a floating-point number. -/
def float? (v : Value) : Option Float := v.number?.map Number.toFloat

/-- The members of an object and nothing for other kinds. -/
def members : Value → List (String × Value)
  | .object ms => ms
  | _ => []

/-- The elements of an array and nothing for other kinds. -/
def elements : Value → List Value
  | .array vs => vs
  | _ => []

/-- The member of an object with this name. -/
def member? (v : Value) (name : String) : Option Value := Members.find? name v.members

/-- The element of an array at this index. -/
def element? (v : Value) (index : Nat) : Option Value := v.elements[index]?

/-- How many members an object or elements an array has; other kinds have none. -/
def size : Value → Nat
  | .object ms => ms.length
  | .array vs => vs.length
  | _ => 0

/-- There is no member and no element. -/
def isEmpty (v : Value) : Bool := v.size = 0

/-- The names of the members, in order. -/
def names (v : Value) : List String := Members.names v.members

/-- An object has a member with this name. -/
def contains (v : Value) (name : String) : Bool := (v.member? name).isSome

end Reprint.Value
