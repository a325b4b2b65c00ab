import Reprint.Value.Access

set_option autoImplicit false

/-!
# Values: changing a part

An edit changes one member of an object or one element of an array.  It answers with the part that
it replaced or took out, and with the new value; or it fails and there is no new value.
-/

namespace Reprint

/-- Why a value cannot be edited in some way. -/
inductive EditFault where
  /-- The value is not of the kind that has such parts. -/
  | kind (expected found : Kind)
  /-- The array has no element at the index. -/
  | index (index length : Nat)
  deriving DecidableEq, Repr

/-- What is said about a failed edit. -/
def EditFault.message : EditFault → String
  | .kind expected found =>
    "type mismatch: expected " ++ expected.name ++ ", found " ++ found.name
  | .index i length =>
    "index " ++ i.repr ++ " out of bounds for array of length " ++ length.repr

/-- What an edit leaves behind. -/
structure Edited where
  /-- The part that was there before and is no longer. -/
  old : Option Value
  /-- The value as it is now. -/
  now : Value
  deriving Inhabited

namespace Value

/-- Gives an object a member; one of the same name is replaced. -/
def setMember (v : Value) (name : String) (part : Value) : Except EditFault Edited :=
  match v with
  | .object ms => .ok ⟨Members.find? name ms, .object (Members.insert name part ms)⟩
  | _ => .error (.kind .object v.kind)

/-- Takes a member out of an object, if it has one of this name. -/
def removeMember (v : Value) (name : String) : Except EditFault Edited :=
  match v with
  | .object ms => .ok ⟨Members.find? name ms, .object (Members.erase name ms)⟩
  | _ => .error (.kind .object v.kind)

/-- Gives an array one more element at its end. -/
def pushElement (v : Value) (part : Value) : Except EditFault Edited :=
  match v with
  | .array vs => .ok ⟨none, .array (vs ++ [part])⟩
  | _ => .error (.kind .array v.kind)

/-- Replaces an element of an array. -/
def setElement (v : Value) (index : Nat) (part : Value) : Except EditFault Edited :=
  match v with
  | .array vs =>
    match vs[index]? with
    | some old => .ok ⟨some old, .array (vs.set index part)⟩
    | none => .error (.index index vs.length)
  | _ => .error (.kind .array v.kind)

/-- Takes an element out of an array; later elements move down. -/
def removeElement (v : Value) (index : Nat) : Except EditFault Edited :=
  match v with
  | .array vs =>
    match vs[index]? with
    | some old => .ok ⟨some old, .array (vs.eraseIdx index)⟩
    | none => .error (.index index vs.length)
  | _ => .error (.kind .array v.kind)

end Value

/-- One edit, as data. -/
inductive Edit where
  | setMember (name : String) (part : Value)
  | removeMember (name : String)
  | pushElement (part : Value)
  | setElement (index : Nat) (part : Value)
  | removeElement (index : Nat)

namespace Edit

/-- Makes the edit. -/
def apply : Edit → Value → Except EditFault Edited
  | .setMember name part, v => v.setMember name part
  | .removeMember name, v => v.removeMember name
  | .pushElement part, v => v.pushElement part
  | .setElement i part, v => v.setElement i part
  | .removeElement i, v => v.removeElement i

/-- The value after the edit: one that fails changes nothing. -/
def after (e : Edit) (v : Value) : Value :=
  match e.apply v with
  | .ok r => r.now
  | .error _ => v

end Edit

end Reprint
