import Reprint.Number.Text
import Reprint.Number.Word
import Reprint.Value.Basic

set_option autoImplicit false

/-!
# Native data: making values of data

`ToValue α` makes JSON values of the data of a type.  The members of an object come in the order in
which the data has them.  Only data that would need something else than a text as the name of a
member has no value.
-/

namespace Reprint

/-- Data that should become the name of a member is no text. -/
inductive NameFault where
  | notText
  deriving DecidableEq, Repr

/-- What is said about data that cannot be a name. -/
def NameFault.message : NameFault → String
  | .notText => "key must be a string"

/-- Types whose data can be made into JSON values. -/
class ToValue (α : Type) where
  toValue : α → Except NameFault Value

/-- Types whose data may be asked to become the name of a member. -/
class ToName (κ : Type) where
  toName : κ → Except NameFault String

export ToValue (toValue)

namespace Native

/-- A word as a value. -/
def ofWord {α : Type} [Word α] (a : α) : Value := .number (.whole (Word.toWhole a))

instance : ToValue Value := ⟨.ok⟩

instance : ToValue Bool := ⟨fun b => .ok (.bool b)⟩

instance : ToValue UInt8 := ⟨fun n => .ok (ofWord n)⟩

instance : ToValue Int8 := ⟨fun n => .ok (ofWord n)⟩

instance : ToValue Int32 := ⟨fun n => .ok (ofWord n)⟩

instance : ToValue UInt32 := ⟨fun n => .ok (ofWord n)⟩

instance : ToValue Int64 := ⟨fun n => .ok (ofWord n)⟩

instance : ToValue UInt64 := ⟨fun n => .ok (ofWord n)⟩

/-- JSON has no number for an infinite or undefined one. -/
instance : ToValue Float where
  toValue x := .ok <|
    match FiniteFloat.ofFloat? x with
    | some x => .number (.float x)
    | none => .null

instance : ToValue Char := ⟨fun c => .ok (.string c.toString)⟩

instance : ToValue String := ⟨fun s => .ok (.string s)⟩

instance : ToValue Unit := ⟨fun _ => .ok .null⟩

instance {α : Type} [ToValue α] : ToValue (Option α) where
  toValue
    | none => .ok .null
    | some a => toValue a

instance {α : Type} [ToValue α] : ToValue (List α) where
  toValue as := Value.array <$> as.mapM toValue

instance {α β : Type} [ToValue α] [ToValue β] : ToValue (α × β) where
  toValue p := do return .array [← toValue p.1, ← toValue p.2]

instance : ToName String := ⟨.ok⟩

instance : ToName Int32 where
  toName n := .ok (String.ofList (Word.toWhole n).text)

instance : ToName Bool where
  toName b := .ok (if b then "true" else "false")

/-- An array is never a name. -/
instance {α : Type} : ToName (List α) := ⟨fun _ => .error .notText⟩

/-- An entry of a table as a member of an object. -/
def ofEntry {κ α : Type} [ToName κ] [ToValue α] (e : κ × α) : Except NameFault (String × Value) := do
  return (← ToName.toName e.1, ← toValue e.2)

instance {κ α : Type} [Ord κ] [ToName κ] [ToValue α] : ToValue (Table κ α) where
  toValue t := Value.object <$> t.entries.mapM ofEntry

end Native

end Reprint
