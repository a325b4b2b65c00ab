import Mathlib
import Reprint.Proofs.Edits

set_option autoImplicit false

/-!
# What a run of edits comes to

An object under edits is a finite map from names to values, and an array is a list: after any
sequence of edits, failing ones included, a member is what the last edit of its name left, and the
elements are those of a list on which the same was done by position.  Objects have their members in
the order of the bytes of their names, so an object is known by its look-ups alone.
-/

namespace Reprint

namespace Edit

/-! ## Objects -/

/-- What the edit makes of the look-up of a name, if it is about that name: the value that it puts
in, or nothing. -/
def gives? (name : String) (e : Edit) : Option (Option Value) :=
  if e.name? = some name then some e.part? else none

theorem find?_onMembers (e : Edit) (name : String) {ms : List (String × Value)}
    (h : Members.Increasing ms) :
    Members.find? name (e.onMembers ms) = (e.gives? name).getD (Members.find? name ms) := by
  cases e with
  | setMember name' part =>
    rw [onMembers, Members.find?_insert]
    by_cases same : name = name'
    · simp [gives?, name?, part?, same]
    · simp [gives?, name?, same, Ne.symm same]
  | removeMember name' =>
    rw [onMembers, Members.find?_erase name' name h]
    by_cases same : name = name'
    · simp [gives?, name?, part?, same]
    · simp [gives?, name?, same, Ne.symm same]
  | _ => rfl

theorem afterAll_object (es : List Edit) (ms : List (String × Value)) :
    afterAll es (.object ms) = .object (es.foldl (fun ms e => e.onMembers ms) ms) := by
  induction es generalizing ms with
  | nil => rfl
  | cons e es ih => exact (congrArg (afterAll es) (after_object e ms)).trans (ih _)

/-- A member is what the last edit of its name left. -/
theorem member?_afterAll {ms : List (String × Value)} (obtained : Obtained (.object ms))
    {es : List Edit} (operands : Operands es) (name : String) :
    (afterAll es (.object ms)).member? name =
      (es.reverse.findSome? (gives? name)).getD (Members.find? name ms) := by
  induction es using List.reverseRecOn with
  | nil => rfl
  | append_singleton es e ih =>
    obtain ⟨before, _⟩ := List.forall_mem_append.mp operands
    have ordered := (obtained.afterAll before).ordered
    have latest := ih before
    rw [afterAll_object] at ordered latest
    rw [afterAll_concat, afterAll_object, after_object, List.reverse_append, List.reverse_singleton,
      List.singleton_append, List.findSome?_cons]
    show Members.find? name (e.onMembers _) = _
    rw [find?_onMembers e name ordered.1]
    cases e.gives? name with
    | some given => rfl
    | none => exact latest

/-! ## Arrays -/

theorem afterAll_array (es : List Edit) (vs : List Value) :
    afterAll es (.array vs) = .array (es.foldl (fun vs e => e.onElements vs) vs) := by
  induction es generalizing vs with
  | nil => rfl
  | cons e es ih => exact (congrArg (afterAll es) (after_array e vs)).trans (ih _)

/-- What the edit does to each position of an array `u`, when it makes `w` of it. -/
def MovesTo (u w : Value) : Edit → Prop
  | .pushElement part =>
    w.size = u.size + 1 ∧ ∀ j, w.element? j = if j = u.size then some part else u.element? j
  | .setElement i part =>
    w.size = u.size ∧
      ∀ j, w.element? j = if j = i ∧ i < u.size then some part else u.element? j
  | .removeElement i =>
    if i < u.size then
      w.size + 1 = u.size ∧
        ∀ j, w.element? j = if j < i then u.element? j else u.element? (j + 1)
    else w = u
  | _ => w = u

theorem movesTo_onElements (e : Edit) (vs : List Value) :
    e.MovesTo (.array vs) (.array (e.onElements vs)) := by
  cases e with
  | setMember | removeMember => exact rfl
  | pushElement part =>
    refine ⟨List.length_append, fun j => ?_⟩
    show (vs ++ [part])[j]? = if j = vs.length then some part else vs[j]?
    rw [List.getElem?_append]
    split
    · next inside => rw [if_neg (Nat.ne_of_lt inside)]
    · next outside =>
      split
      · next last => simp [last]
      · next beyond =>
        rw [List.getElem?_eq_none (by simp; omega), List.getElem?_eq_none (by omega)]
  | setElement i part =>
    rw [onElements_setElement]
    refine ⟨List.length_set, fun j => ?_⟩
    show (vs.set i part)[j]? = if j = i ∧ i < vs.length then some part else vs[j]?
    rw [List.getElem?_set]
    by_cases here : i = j
    · subst here
      by_cases inside : i < vs.length
      · simp [inside]
      · simp [inside]
    · simp [here, Ne.symm here]
  | removeElement i =>
    show if i < vs.length then _ else _
    split
    · next inside =>
      rw [onElements_removeElement inside]
      refine ⟨?_, fun j => List.getElem?_eraseIdx⟩
      show (vs.eraseIdx i).length + 1 = vs.length
      rw [List.length_eraseIdx_of_lt inside]
      omega
    · next outside => rw [onElements, if_neg outside]

end Edit

open Edit

/-! ## The two views -/

/-- Under the edits the object `v` is a finite map. -/
structure RunsAsMap (v : Value) (es : List Edit) : Prop where
  /-- The last edit that names a member decides it. -/
  member : ∀ name, (afterAll es v).member? name =
    (es.reverse.findSome? (gives? name)).getD (v.member? name)
  contains : ∀ name, (afterAll es v).contains name = true ↔ name ∈ (afterAll es v).names
  increasing : (afterAll es v).names.Pairwise fun s t => s.toUTF8.toList < t.toUTF8.toList
  nodup : (afterAll es v).names.Nodup
  size : (afterAll es v).size = (afterAll es v).names.length
  /-- Each edit of a member answers with the member that was there before it. -/
  answer : ∀ before e later name, es = before ++ e :: later → e.name? = some name →
    e.answer (afterAll before v) = .ok ((afterAll before v).member? name)
  /-- Runs that come to the same look-ups come to the same object and the same text. -/
  unique : ∀ v' es', Obtained v' → Operands es' → v'.kind = .object →
    (∀ name, (afterAll es v).member? name = (afterAll es' v').member? name) →
      afterAll es v = afterAll es' v' ∧ render (afterAll es v) = render (afterAll es' v')

/-- Under the edits the array `v` is a list. -/
structure RunsAsList (v : Value) (es : List Edit) : Prop where
  elements : (afterAll es v).elements = es.foldl (fun vs e => e.onElements vs) v.elements
  element : ∀ i, ((afterAll es v).element? i).isSome = true ↔ i < (afterAll es v).size
  moves : ∀ before e later, es = before ++ e :: later →
    e.MovesTo (afterAll before v) (afterAll (before ++ [e]) v)
  /-- Replacing an element and taking one out answer with the old element. -/
  answer : ∀ before e later i, es = before ++ e :: later → e.index? = some i →
    i < (afterAll before v).size →
      e.answer (afterAll before v) = .ok ((afterAll before v).element? i)

theorem runsAsMap {ms : List (String × Value)} (obtained : Obtained (.object ms)) {es : List Edit}
    (operands : Operands es) : RunsAsMap (.object ms) es where
  member := member?_afterAll obtained operands
  contains name := by
    rw [afterAll_object]
    exact Members.isSome_find?_iff
  increasing := by
    have ordered := (obtained.afterAll operands).ordered
    rw [afterAll_object] at ordered ⊢
    exact ordered.1.imp bytes_lt_of_compare
  nodup := by
    have ordered := (obtained.afterAll operands).ordered
    rw [afterAll_object] at ordered ⊢
    exact ordered.1.imp Members.ne_of_lt
  size := by
    rw [afterAll_object]
    exact (List.length_map _).symm
  answer before e later name _ named := by
    rw [afterAll_object]
    exact answer_object named _
  unique v' es' obtained' operands' object same := by
    cases v' with
    | object ms' =>
      have ordered := (obtained.afterAll operands).ordered
      have ordered' := (obtained'.afterAll operands').ordered
      simp only [afterAll_object] at ordered ordered' same ⊢
      have equal := Members.eq_of_find?_eq ordered.1 ordered'.1 same
      rw [equal]
      exact ⟨rfl, rfl⟩
    | _ => cases object

theorem runsAsList (vs : List Value) (es : List Edit) : RunsAsList (.array vs) es where
  elements := by
    rw [afterAll_array]
    rfl
  element i := by
    rw [afterAll_array]
    simp [Value.element?, Value.elements, Value.size]
  moves before e later _ := by
    rw [afterAll_concat, afterAll_array, after_array]
    exact movesTo_onElements e _
  answer before e later i _ indexed inside := by
    rw [afterAll_array] at inside ⊢
    exact answer_array indexed inside

/-- A run of edits on a value that was obtained from texts keeps the kind of the value; it treats an
object as a finite map and an array as a list. -/
theorem edits_refine {v : Value} (obtained : Obtained v) {es : List Edit}
    (operands : Operands es) :
    (afterAll es v).kind = v.kind ∧ (v.kind = .object → RunsAsMap v es) ∧
      (v.kind = .array → RunsAsList v es) := by
  refine ⟨kind_afterAll es v, fun object => ?_, fun array => ?_⟩
  · cases v with
    | object ms => exact runsAsMap obtained operands
    | _ => cases object
  · cases v with
    | array vs => exact runsAsList vs es
    | _ => cases array

/-- An object loses one member and gains another, which is also reached the other way round; and an
array loses its first element.  An edit of the wrong kind stands between. -/
theorem edits_refine_both :
    let object := Value.object [("a", .null), ("b", .bool false)]
    let edits := [Edit.setMember "c" (.bool true), .pushElement .null, .removeMember "b"]
    let others := [Edit.removeMember "b", .setMember "c" (.bool true)]
    let array := Value.array [.null, .string "x"]
    let moves := [Edit.removeElement 0, .setMember "c" (.bool true), .pushElement .null]
    Obtained object ∧ Operands edits ∧ Operands others ∧ Obtained array ∧ Operands moves ∧
      (afterAll edits object).names = ["a", "c"] ∧
      afterAll edits object = afterAll others object ∧
      (afterAll moves array).elements = [.string "x", .null] := by
  intro object edits others array moves
  have readObject : parse "\x7b\"b\":false,\"a\":null\x7d" = .ok object := by cbv
  have readArray : parse "[null,\"x\"]" = .ok array := by cbv
  have readTrue : parse "true" = .ok (.bool true) := by cbv
  have readNull : parse "null" = .ok .null := by cbv
  have yes : ∀ part, some (Value.bool true) = some part → Obtained part := by
    intro part given
    cases given
    exact .parsed readTrue
  have nothing : ∀ part, some Value.null = some part → Obtained part := by
    intro part given
    cases given
    exact .parsed readNull
  have absent : ∀ part, (none : Option Value) = some part → Obtained part := by
    intro part given
    cases given
  have operands : Operands edits :=
    List.forall_mem_cons.mpr ⟨yes, List.forall_mem_cons.mpr ⟨nothing,
      List.forall_mem_singleton.mpr absent⟩⟩
  have operands' : Operands others :=
    List.forall_mem_cons.mpr ⟨absent, List.forall_mem_singleton.mpr yes⟩
  have operands'' : Operands moves :=
    List.forall_mem_cons.mpr ⟨absent, List.forall_mem_cons.mpr ⟨yes,
      List.forall_mem_singleton.mpr nothing⟩⟩
  have asMap := (edits_refine (.parsed readObject) operands).2.1 rfl
  have asMap' := (edits_refine (.parsed readObject) operands').2.1 rfl
  have asList := (edits_refine (.parsed readArray) operands'').2.2 rfl
  have same : ∀ name,
      (afterAll edits object).member? name = (afterAll others object).member? name := by
    intro name
    rw [asMap.member, asMap'.member]
    by_cases b : "b" = name
    · simp [edits, others, gives?, name?, part?, ← b]
    · by_cases c : "c" = name
      · simp [edits, others, gives?, name?, part?, ← c]
      · simp [edits, others, gives?, name?, b, c]
  refine ⟨.parsed readObject, operands, operands', .parsed readArray, operands'', by cbv,
    (asMap.unique object others (.parsed readObject) operands' rfl same).1, ?_⟩
  rw [asList.elements]
  rfl

end Reprint
