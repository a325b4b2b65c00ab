import Reprint.Number.Basic
import Reprint.Value.Members

set_option autoImplicit false

/-!
# Values

A JSON value as a tree.  The members of an object are a list of named values; the values that the
reader and the edits make have them in increasing order of their names, which compares names by code
points.
-/

namespace Reprint

/-- The six kinds of values. -/
inductive Kind where
  | object
  | array
  | string
  | number
  | boolean
  | null
  deriving DecidableEq, Repr, Inhabited

/-- The word for a kind. -/
def Kind.name : Kind → String
  | .object => "object"
  | .array => "array"
  | .string => "string"
  | .number => "number"
  | .boolean => "boolean"
  | .null => "null"

/-- A JSON value. -/
inductive Value where
  | null
  | bool (b : Bool)
  | number (n : Number)
  | string (s : String)
  | array (elements : List Value)
  | object (members : List (String × Value))
  deriving Inhabited

namespace Value

/-- The kind of a value. -/
def kind : Value → Kind
  | .null => .null
  | .bool _ => .boolean
  | .number _ => .number
  | .string _ => .string
  | .array _ => .array
  | .object _ => .object

/-- The value is of this kind. -/
def isOf (v : Value) (k : Kind) : Bool := v.kind = k

mutual

/-- The members of every object in the value have increasing names. -/
def Ordered : Value → Prop
  | .array vs => OrderedElements vs
  | .object ms => Members.Increasing ms ∧ OrderedMembers ms
  | _ => True

/-- Every value of the list is `Ordered`. -/
def OrderedElements : List Value → Prop
  | [] => True
  | v :: vs => v.Ordered ∧ OrderedElements vs

/-- Every value of the named values is `Ordered`. -/
def OrderedMembers : List (String × Value) → Prop
  | [] => True
  | (_, v) :: ms => v.Ordered ∧ OrderedMembers ms

end

theorem orderedElements_iff {vs : List Value} : OrderedElements vs ↔ ∀ v ∈ vs, v.Ordered := by
  induction vs with
  | nil => simp [OrderedElements]
  | cons v vs ih => simp [OrderedElements, ih]

theorem orderedMembers_iff {ms : List (String × Value)} :
    OrderedMembers ms ↔ ∀ m ∈ ms, m.2.Ordered := by
  induction ms with
  | nil => simp [OrderedMembers]
  | cons m ms ih => simp [OrderedMembers, ih]

end Value

end Reprint
