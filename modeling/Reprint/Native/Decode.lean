import Reprint.Native.Mismatch
import Reprint.Number.Word
import Reprint.Reader.Number
import Reprint.Value.Access

set_option autoImplicit false

/-!
# Native data: taking data out of values

`FromValue α` says which values hold data of type `α`.  A value of another kind is a mismatch of
type; a number or a string of the right kind that is none of the type's values is a mismatch of
value.  Parts are looked at from left to right, and the first mismatch is the answer.
-/

namespace Reprint

/-- Types whose data can be taken out of JSON values. -/
class FromValue (α : Type) where
  fromValue : Value → Except Mismatch α

/-- Types whose data can be taken out of the names of members. -/
class FromName (κ : Type) where
  fromName : String → Except Mismatch κ

export FromValue (fromValue)

namespace Native

/-- The answer for a value of a kind that the type does not have. -/
def wrongType {α : Type} (v : Value) (expected : String) : Except Mismatch α :=
  .error (.type (.ofValue v) expected)

/-- The word that a number holds. -/
def wordOfNumber {α : Type} [Word α] (n : Number) : Except Mismatch α :=
  match n with
  | .float x => .error (.type (.float x) (Word.name α))
  | .whole w =>
    match Word.ofInt? w.val with
    | some a => .ok a
    | none => .error (.value (.integer w.val) (Word.name α))

/-- The word that a value holds. -/
def wordOf {α : Type} [Word α] (v : Value) : Except Mismatch α :=
  match v with
  | .number n => wordOfNumber n
  | v => wrongType v (Word.name α)

instance : FromValue Value := ⟨.ok⟩

instance : FromValue Bool where
  fromValue
    | .bool b => .ok b
    | v => wrongType v "a boolean"

instance : FromValue UInt8 := ⟨wordOf⟩

instance : FromValue Int8 := ⟨wordOf⟩

instance : FromValue Int32 := ⟨wordOf⟩

instance : FromValue UInt32 := ⟨wordOf⟩

instance : FromValue Int64 := ⟨wordOf⟩

instance : FromValue UInt64 := ⟨wordOf⟩

instance : FromValue Float where
  fromValue
    | .number n => .ok n.toFloat
    | v => wrongType v "f64"

instance : FromValue Char where
  fromValue
    | .string s =>
      match s.toList with
      | [c] => .ok c
      | _ => .error (.value (.string s) "a character")
    | v => wrongType v "a character"

instance : FromValue String where
  fromValue
    | .string s => .ok s
    | v => wrongType v "a string"

instance : FromValue Unit where
  fromValue
    | .null => .ok ()
    | v => wrongType v "unit"

instance {α : Type} [FromValue α] : FromValue (Option α) where
  fromValue
    | .null => .ok none
    | v => some <$> fromValue v

instance {α : Type} [FromValue α] : FromValue (List α) where
  fromValue
    | .array vs => vs.mapM fromValue
    | v => wrongType v "a sequence"

/-- The data of the elements of an array, taken one after the other; `index` elements have been
taken before. -/
structure Slots where
  index : Nat
  rest : List Value

/-- Takes the next element; `expected` describes the whole array. -/
def Slots.take {α : Type} [FromValue α] (expected : String) :
    StateT Slots (Except Mismatch) α := fun s =>
  match s.rest with
  | [] => .error (.length s.index expected)
  | v :: vs => do return (← fromValue v, ⟨s.index + 1, vs⟩)

/-- Takes all elements of an array. -/
def takeAll {α : Type} (vs : List Value) (take : StateT Slots (Except Mismatch) α) :
    Except Mismatch α := do
  let (a, s) ← take.run ⟨0, vs⟩
  if s.rest.isEmpty then return a
  else throw (.length vs.length "fewer elements in array")

instance {α β : Type} [FromValue α] [FromValue β] : FromValue (α × β) where
  fromValue
    | .array vs => takeAll vs do
      let a ← Slots.take "a tuple of size 2"
      let b ← Slots.take "a tuple of size 2"
      return (a, b)
    | v => wrongType v "a tuple of size 2"

instance : FromName String := ⟨.ok⟩

/-- The word that the name of a member holds: a number and nothing else. -/
def wordOfName {α : Type} [Word α] (name : String) : Except Mismatch α :=
  let letters := name.toList
  if letters.head?.any fun c => c = '-' ∨ c.isDigit then
    match Reader.number letters with
    | .error f => .error (.badNumeral (.locate name f))
    | .ok (n, rest) =>
      match wordOfNumber n with
      | .error m => .error (.numeral m (.before name (Reader.byteCount rest)))
      | .ok a => if rest.isEmpty then .ok a else .error .notNumeric
  else .error .notNumeric

instance : FromName Int32 := ⟨wordOfName⟩

/-- The data of a member: its name, then its value. -/
def entryOf {κ α : Type} [FromName κ] [FromValue α] (m : String × Value) :
    Except Mismatch (κ × α) := do
  return (← FromName.fromName m.1, ← fromValue m.2)

instance {κ α : Type} [Ord κ] [Std.TransOrd κ] [Std.LawfulEqOrd κ] [FromName κ] [FromValue α] :
    FromValue (Table κ α) where
  fromValue
    | .object ms => Table.ofList <$> ms.mapM entryOf
    | v => wrongType v "a map"

end Native

end Reprint
