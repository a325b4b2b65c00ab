import Reprint.Proofs.ByteOrder
import Reprint.Proofs.FiniteMap
import Reprint.Proofs.Meaning
import Reprint.Value.Edit

set_option autoImplicit false

/-!
# Edits and the order of members

Each edit is what it does to the members of an object or to the elements of an array, and what it
answers.  Values that are read have the members of all their objects in increasing order of their
names.  Edits keep this, if what they put in is such a value too, and they take out such values
only; so it holds of every value that comes from texts by reading and editing.
-/

namespace Reprint.Reader

/-! ## Values that are read have their members in order -/

theorem SpelledWith.ordered {texts : Option (Value → List Char → Prop)}
    (hP : ∀ P, texts = some P → ∀ v text, P v text → v.Ordered) {v : Value} {text : List Char}
    (h : SpelledWith texts v text) : v.Ordered := by
  cases h with
  | null | boolTrue | boolFalse | number | string => exact trivial
  | array texts hitems => exact Value.orderedElements_iff.mpr (hitems.each (hP _ texts))
  | @object P ms body texts hitems =>
    have members : ∀ m ∈ ms, m.2.Ordered :=
      hitems.each (Q := fun m => m.2.Ordered) fun m text => Member.each (hP _ texts)
    refine ⟨Members.increasing_ofList ms, Value.orderedMembers_iff.mpr fun m hm => ?_⟩
    exact members m (Members.mem_of_mem_ofList hm)

theorem Spelled.ordered {depth : Nat} {v : Value} {text : List Char} (h : Spelled depth v text) :
    v.Ordered := by
  induction depth generalizing v text with
  | zero =>
    refine SpelledWith.ordered ?_ (show SpelledWith none v text from h)
    intro P none
    cases none
  | succ depth ih =>
    refine SpelledWith.ordered ?_ (show SpelledWith (some (Spelled depth)) v text from h)
    intro P inner v text spelled
    cases inner
    exact ih spelled

end Reprint.Reader

namespace Reprint

open Reprint.Reader

theorem ordered_of_parse {text : String} {v : Value} (h : parse text = .ok v) : v.Ordered := by
  obtain ⟨body, gap, led, _, _⟩ := parse_eq_ok_iff.mp h
  exact led.each (Q := Value.Ordered) fun v text => Spelled.ordered

namespace Edit

/-! ## Single edits -/

/-- The member that an edit is about. -/
def name? : Edit → Option String
  | .setMember name _ => some name
  | .removeMember name => some name
  | _ => none

/-- The value that an edit puts in. -/
def part? : Edit → Option Value
  | .setMember _ part => some part
  | .pushElement part => some part
  | .setElement _ part => some part
  | _ => none

/-- What an edit answers: the part that was there before, if there was one. -/
def answer (e : Edit) (v : Value) : Except EditFault (Option Value) :=
  (e.apply v).map Edited.old

/-- What an edit makes of a list of members. -/
def onMembers : Edit → List (String × Value) → List (String × Value)
  | .setMember name part, ms => Members.insert name part ms
  | .removeMember name, ms => Members.erase name ms
  | _, ms => ms

/-- What an edit makes of a list, by position. -/
def onElements : Edit → List Value → List Value
  | .pushElement part, vs => vs ++ [part]
  | .setElement i part, vs =>
    if i < vs.length then vs.take i ++ part :: vs.drop (i + 1) else vs
  | .removeElement i, vs => if i < vs.length then vs.take i ++ vs.drop (i + 1) else vs
  | _, vs => vs

theorem onElements_setElement (i : Nat) (part : Value) (vs : List Value) :
    (setElement i part).onElements vs = vs.set i part :=
  List.set_eq_take_append_cons_drop.symm

theorem onElements_removeElement {i : Nat} {vs : List Value} (inside : i < vs.length) :
    (removeElement i).onElements vs = vs.eraseIdx i := by
  rw [onElements, if_pos inside, List.eraseIdx_eq_take_drop_succ]

theorem after_object (e : Edit) (ms : List (String × Value)) :
    e.after (.object ms) = .object (e.onMembers ms) := by
  cases e <;> rfl

theorem after_array (e : Edit) (vs : List Value) :
    e.after (.array vs) = .array (e.onElements vs) := by
  cases e with
  | setMember | removeMember | pushElement => rfl
  | setElement i part =>
    by_cases inside : i < vs.length
    · simp [after, apply, Value.setElement, onElements, inside, List.set_eq_take_append_cons_drop]
    · simp [after, apply, Value.setElement, onElements, inside]
  | removeElement i =>
    by_cases inside : i < vs.length
    · simp [after, apply, Value.removeElement, onElements, inside, List.eraseIdx_eq_take_drop_succ]
    · simp [after, apply, Value.removeElement, onElements, inside]

/-- No edit changes a value that has no parts. -/
theorem after_scalar (e : Edit) {v : Value} (object : v.kind ≠ .object) (array : v.kind ≠ .array) :
    e.after v = v := by
  cases v with
  | object ms => exact absurd rfl object
  | array vs => exact absurd rfl array
  | _ => cases e <;> rfl

theorem kind_after (e : Edit) (v : Value) : (e.after v).kind = v.kind := by
  cases v with
  | object ms => rw [after_object]; rfl
  | array vs => rw [after_array]; rfl
  | _ => rw [after_scalar] <;> intro kind <;> cases kind

/-- The index of the element that an edit replaces or takes out. -/
def index? : Edit → Option Nat
  | .setElement i _ => some i
  | .removeElement i => some i
  | _ => none

theorem answer_object {e : Edit} {name : String} (named : e.name? = some name)
    (ms : List (String × Value)) : e.answer (.object ms) = .ok (Members.find? name ms) := by
  cases e with
  | setMember | removeMember =>
    cases named
    rfl
  | _ => cases named

theorem answer_array {e : Edit} {i : Nat} (indexed : e.index? = some i) {vs : List Value}
    (inside : i < vs.length) : e.answer (.array vs) = .ok vs[i]? := by
  have there : vs[i]? = some vs[i] := List.getElem?_eq_getElem inside
  cases e with
  | setElement j part =>
    cases indexed
    simp only [answer, apply, Value.setElement, there]
    rfl
  | removeElement j =>
    cases indexed
    simp only [answer, apply, Value.removeElement, there]
    rfl
  | _ => cases indexed

theorem answer_outside {e : Edit} {i : Nat} (indexed : e.index? = some i) {vs : List Value}
    (outside : vs.length ≤ i) : e.answer (.array vs) = .error (.index i vs.length) := by
  have absent : vs[i]? = none := List.getElem?_eq_none outside
  cases e with
  | setElement j part =>
    cases indexed
    simp only [answer, apply, Value.setElement, absent]
    rfl
  | removeElement j =>
    cases indexed
    simp only [answer, apply, Value.removeElement, absent]
    rfl
  | _ => cases indexed

theorem mem_of_answer_array {e : Edit} {i : Nat} (indexed : e.index? = some i) {vs : List Value}
    {old : Value} (h : e.answer (.array vs) = .ok (some old)) : old ∈ vs := by
  rcases Nat.lt_or_ge i vs.length with inside | outside
  · rw [answer_array indexed inside] at h
    exact List.mem_of_getElem? (Except.ok.inj h)
  · rw [answer_outside indexed outside] at h
    cases h

/-- What an edit answers with was a part of the value. -/
theorem part_of_answer {e : Edit} {v old : Value} (h : e.answer v = .ok (some old)) :
    (∃ name, (name, old) ∈ v.members) ∨ old ∈ v.elements := by
  cases e with
  | setMember name | removeMember name =>
    cases v with
    | object ms => exact .inl ⟨name, Members.mem_of_find?_eq_some (Except.ok.inj h)⟩
    | _ => cases h
  | pushElement part => cases v <;> cases h
  | setElement | removeElement =>
    cases v with
    | array vs => exact .inr (mem_of_answer_array rfl h)
    | _ => cases h

/-! ## Order is kept -/

theorem increasing_onMembers (e : Edit) {ms : List (String × Value)}
    (h : Members.Increasing ms) : Members.Increasing (e.onMembers ms) := by
  cases e with
  | setMember name part => exact Members.increasing_insert name part h
  | removeMember name => exact Members.increasing_erase name h
  | _ => exact h

theorem mem_onMembers {e : Edit} {ms : List (String × Value)} {m : String × Value}
    (h : m ∈ e.onMembers ms) : m ∈ ms ∨ e.part? = some m.2 := by
  cases e with
  | setMember name part =>
    rcases Members.mem_insert h with rfl | before
    · exact .inr rfl
    · exact .inl before
  | removeMember name => exact .inl ((Members.erase_sublist name ms).mem h)
  | _ => exact .inl h

theorem mem_onElements {e : Edit} {vs : List Value} {w : Value} (h : w ∈ e.onElements vs) :
    w ∈ vs ∨ e.part? = some w := by
  cases e with
  | pushElement part =>
    rcases List.mem_append.mp h with before | new
    · exact .inl before
    · exact .inr (congrArg some (List.mem_singleton.mp new).symm)
  | setElement i part =>
    simp only [onElements] at h
    split at h
    · rcases List.mem_append.mp h with before | later
      · exact .inl (List.mem_of_mem_take before)
      rcases List.mem_cons.mp later with rfl | later
      · exact .inr rfl
      · exact .inl (List.mem_of_mem_drop later)
    · exact .inl h
  | removeElement i =>
    simp only [onElements] at h
    split at h
    · rcases List.mem_append.mp h with before | later
      · exact .inl (List.mem_of_mem_take before)
      · exact .inl (List.mem_of_mem_drop later)
    · exact .inl h
  | _ => exact .inl h

/-- An edit with an ordered operand keeps an ordered value ordered. -/
theorem ordered_after {e : Edit} {v : Value} (ordered : v.Ordered)
    (operand : ∀ part, e.part? = some part → part.Ordered) : (e.after v).Ordered := by
  cases v with
  | object ms =>
    rw [after_object]
    obtain ⟨increasing, members⟩ := ordered
    refine ⟨increasing_onMembers e increasing, Value.orderedMembers_iff.mpr fun m hm => ?_⟩
    rcases mem_onMembers hm with before | new
    · exact Value.orderedMembers_iff.mp members m before
    · exact operand m.2 new
  | array vs =>
    rw [after_array]
    refine Value.orderedElements_iff.mpr fun w hw => ?_
    rcases mem_onElements hw with before | new
    · exact Value.orderedElements_iff.mp ordered w before
    · exact operand w new
  | _ =>
    rw [after_scalar]
    · exact ordered
    all_goals
      intro kind
      cases kind

theorem ordered_of_answer {e : Edit} {v old : Value} (ordered : v.Ordered)
    (h : e.answer v = .ok (some old)) : old.Ordered := by
  cases v with
  | object ms =>
    rcases part_of_answer h with ⟨name, within⟩ | within
    · exact Value.orderedMembers_iff.mp ordered.2 _ within
    · cases within
  | array vs =>
    rcases part_of_answer h with ⟨name, within⟩ | within
    · cases within
    · exact Value.orderedElements_iff.mp ordered _ within
  | _ =>
    rcases part_of_answer h with ⟨name, within⟩ | within
    all_goals cases within

/-! ## Runs -/

/-- The value after a sequence of edits, the first one first. -/
def afterAll (es : List Edit) (v : Value) : Value := es.foldl (fun v e => e.after v) v

theorem afterAll_concat (es : List Edit) (e : Edit) (v : Value) :
    afterAll (es ++ [e]) v = e.after (afterAll es v) := by
  rw [afterAll, List.foldl_append]
  rfl

theorem kind_afterAll (es : List Edit) (v : Value) : (afterAll es v).kind = v.kind := by
  induction es using List.reverseRecOn with
  | nil => rfl
  | append_singleton es e ih => rw [afterAll_concat, kind_after, ih]

end Edit

/-- Values that come from texts by reading and by editing: read ones, edited ones, and parts that an
edit has answered with.  What an edit puts in is such a value, too. -/
inductive Obtained : Value → Prop where
  | parsed {text : String} {v : Value} : parse text = .ok v → Obtained v
  | edited {e : Edit} {v : Value} :
      Obtained v → (∀ part, e.part? = some part → Obtained part) → Obtained (e.after v)
  | taken {e : Edit} {v old : Value} :
      Obtained v → (∀ part, e.part? = some part → Obtained part) →
        e.answer v = .ok (some old) → Obtained old

/-- Every value that the edits put in is obtained from texts. -/
def Operands (es : List Edit) : Prop := ∀ e ∈ es, ∀ part, e.part? = some part → Obtained part

theorem Obtained.ordered {v : Value} (h : Obtained v) : v.Ordered := by
  induction h with
  | parsed read => exact ordered_of_parse read
  | edited _ _ value operand => exact Edit.ordered_after value operand
  | taken _ _ answered value _ => exact Edit.ordered_of_answer value answered

theorem Obtained.afterAll {v : Value} (h : Obtained v) {es : List Edit} (operands : Operands es) :
    Obtained (Edit.afterAll es v) := by
  induction es generalizing v with
  | nil => exact h
  | cons e es ih =>
    obtain ⟨first, later⟩ := List.forall_mem_cons.mp operands
    exact ih (h.edited first) later

end Reprint
