import Reprint.Native.Decode
import Reprint.Native.Encode

set_option autoImplicit false

/-!
# Native data: records

A record is written as an object with one member per field, in the order of the fields.  It is taken
out of an object, whose members may come in any order and may be more than the fields, or out of an
array with one element per field.
-/

namespace Reprint

namespace Native

/-- Looks whether the value of a field, if it is one, matches. -/
abbrev FieldCheck : Type := String → Value → Except Mismatch Unit

/-- Every value of the type will do for the field of this name. -/
def checkField (field : String) (α : Type) [FromValue α] : FieldCheck := fun name v =>
  if name = field then (fromValue v : Except Mismatch α) *> .ok () else .ok ()

/-- Looks at the members of an object in their order. -/
def checkMembers (checks : List FieldCheck) (ms : List (String × Value)) : Except Mismatch Unit :=
  ms.forM fun m => checks.forM fun check => check m.1 m.2

/-- The data of a field that must be there. -/
def field {α : Type} [FromValue α] (ms : List (String × Value)) (name : String) :
    Except Mismatch α :=
  match Members.find? name ms with
  | some v => fromValue v
  | none => .error (.missing name)

/-- A player and the scores of some games. -/
structure Player where
  name : String
  scores : List UInt32
  deriving DecidableEq, Repr

namespace Player

instance : FromValue Player where
  fromValue
    | .object ms => do
      checkMembers [checkField "name" String, checkField "scores" (List UInt32)] ms
      return ⟨← field ms "name", ← field ms "scores"⟩
    | .array vs => takeAll vs do
      let expected := "struct Player with 2 elements"
      return ⟨← Slots.take expected, ← Slots.take expected⟩
    | v => wrongType v "struct Player"

instance : ToValue Player where
  toValue p := do
    return .object [("name", ← toValue p.name), ("scores", ← toValue p.scores)]

end Player

end Native

end Reprint
