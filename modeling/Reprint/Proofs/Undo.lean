import Reprint.Proofs.Failures

set_option autoImplicit false

/-!
# Taking edits back

Every edit but the one that takes an element out can be taken back by another edit, which needs the
part that the first one answered with and nothing else.  So the answers of a run are a log: when its
edits are taken back, the last one first, each of them succeeds and the value of the beginning comes
out.  A member that is put back has its old place again, since the names of an object are in order.
-/

namespace Reprint.Edit

/-! ## A log -/

/-- The edit that takes an edit back which has answered with `old`, on a value that now has `size`
parts.  Nothing has to be done where no member was there to be taken out; and no edit brings an
element back that was taken out. -/
def undo? (size : Nat) : Edit → Option Value → Option Edit
  | .setMember name _, some old => some (.setMember name old)
  | .setMember name _, none => some (.removeMember name)
  | .removeMember name, some old => some (.setMember name old)
  | .removeMember _, none => none
  | .pushElement _, _ => some (.removeElement (size - 1))
  | .setElement i _, some old => some (.setElement i old)
  | .setElement _ _, none => none
  | .removeElement _, _ => none

/-- Takes one edit of a log back. -/
def takeBack (entry : Edit × Option Value) (v : Value) : Except EditFault Value :=
  match undo? v.size entry.1 entry.2 with
  | some e => Edited.now <$> e.apply v
  | none => .ok v

/-- Takes all edits of a log back, the last one first. -/
def takeAllBack (log : List (Edit × Option Value)) (v : Value) : Except EditFault Value :=
  log.foldrM takeBack v

theorem takeAllBack_cons (entry : Edit × Option Value) (log : List (Edit × Option Value))
    (v : Value) : takeAllBack (entry :: log) v = takeAllBack log v >>= takeBack entry :=
  List.foldrM_cons

/-- An edit that answers leads to the value after it. -/
theorem now_apply {e : Edit} {v : Value} {old : Option Value} (h : e.answer v = .ok old) :
    Edited.now <$> e.apply v = .ok (e.after v) := by
  rw [apply_eq, h]
  rfl

theorem takeBack_eq {entry : Edit × Option Value} {v : Value} {e : Edit} {old : Option Value}
    (undo : undo? v.size entry.1 entry.2 = some e) (h : e.answer v = .ok old) :
    takeBack entry v = .ok (e.after v) := by
  rw [takeBack, undo]
  exact now_apply h

/-! ## One edit -/

section Member

variable {name : String} {ms : List (String × Value)} (increasing : Members.Increasing ms)

/-- An edit of a member is taken back by an edit that makes the old members of the new ones. -/
theorem takeBack_object {entry : Edit × Option Value} {ms' : List (String × Value)} {e : Edit}
    (undo : undo? (Value.object ms').size entry.1 entry.2 = some e) (named : e.name? = some name)
    (back : e.onMembers ms' = ms) : takeBack entry (.object ms') = .ok (.object ms) := by
  rw [takeBack_eq undo (answer_object named ms'), after_object, back]

include increasing

theorem takeBack_setMember (part : Value) :
    takeBack (.setMember name part, Members.find? name ms)
      (.object (Members.insert name part ms)) = .ok (.object ms) := by
  cases found : Members.find? name ms with
  | some old =>
    have back : Members.insert name old (Members.insert name part ms) = ms :=
      calc Members.insert name old (Members.insert name part ms)
          = Members.insert name old ms := Members.insert_insert old part increasing
        _ = ms := Members.insert_eq_self increasing found
    exact takeBack_object rfl rfl back
  | none =>
    have back : Members.erase name (Members.insert name part ms) = ms :=
      calc Members.erase name (Members.insert name part ms)
          = Members.erase name ms := Members.erase_insert part increasing
        _ = ms := Members.erase_eq_self increasing found
    exact takeBack_object rfl rfl back

theorem takeBack_removeMember :
    takeBack (.removeMember name, Members.find? name ms)
      (.object (Members.erase name ms)) = .ok (.object ms) := by
  cases found : Members.find? name ms with
  | some old =>
    have back : Members.insert name old (Members.erase name ms) = ms :=
      calc Members.insert name old (Members.erase name ms)
          = Members.insert name old ms := Members.insert_erase old increasing
        _ = ms := Members.insert_eq_self increasing found
    exact takeBack_object rfl rfl back
  | none =>
    -- There is nothing to do, since the edit has not done anything.
    rw [Members.erase_eq_self increasing found]
    rfl

end Member

/-- An edit of an element is taken back by an edit that makes the old elements of the new ones. -/
theorem takeBack_array {entry : Edit × Option Value} {vs vs' : List Value} {e : Edit} {i : Nat}
    (undo : undo? (Value.array vs').size entry.1 entry.2 = some e) (indexed : e.index? = some i)
    (inside : i < vs'.length) (back : e.onElements vs' = vs) :
    takeBack entry (.array vs') = .ok (.array vs) := by
  rw [takeBack_eq undo (answer_array indexed inside), after_array, back]

theorem takeBack_pushElement (part : Value) (vs : List Value) :
    takeBack (.pushElement part, none) (.array (vs ++ [part])) = .ok (.array vs) := by
  have last : (Value.array (vs ++ [part])).size - 1 = vs.length := by simp [Value.size]
  have inside : (Value.array (vs ++ [part])).size - 1 < (vs ++ [part]).length := by simp [last]
  refine takeBack_array rfl rfl inside ?_
  rw [onElements_removeElement inside, last, List.eraseIdx_append_of_length_le (Nat.le_refl _)]
  simp

theorem takeBack_setElement {i : Nat} {vs : List Value} (part : Value) (inside : i < vs.length) :
    takeBack (.setElement i part, vs[i]?) (.array (vs.set i part)) = .ok (.array vs) := by
  have inside' : i < (vs.set i part).length := by rwa [List.length_set]
  have back : (vs.set i part).set i vs[i] = vs :=
    calc (vs.set i part).set i vs[i]
        = vs.set i vs[i] := List.set_set ..
      _ = vs := List.set_getElem_self inside
  rw [List.getElem?_eq_getElem inside]
  exact takeBack_array rfl rfl inside' ((onElements_setElement i vs[i] _).trans back)

/-- An edit that has answered is taken back by what it answered with. -/
theorem takeBack_after {e : Edit} (keeps : ∀ i, e ≠ .removeElement i) {v : Value}
    (increasing : Members.Increasing v.members) {old : Option Value} (h : e.answer v = .ok old) :
    takeBack (e, old) (e.after v) = .ok v := by
  cases v with
  | object ms =>
    cases e with
    | setMember name part =>
      cases h
      exact takeBack_setMember increasing part
    | removeMember name =>
      cases h
      exact takeBack_removeMember increasing
    | _ => cases h
  | array vs =>
    cases e with
    | pushElement part =>
      cases h
      exact takeBack_pushElement part vs
    | setElement i part =>
      rcases Nat.lt_or_ge i vs.length with inside | outside
      · rw [answer_array rfl inside] at h
        cases h
        rw [after_array, onElements_setElement]
        exact takeBack_setElement part inside
      · cases (answer_outside rfl outside).symm.trans h
    | removeElement i => exact absurd rfl (keeps i)
    | _ => cases h
  | _ => cases e <;> cases h

/-! ## A run -/

theorem increasing_after (e : Edit) {v : Value} (h : Members.Increasing v.members) :
    Members.Increasing (e.after v).members := by
  cases v with
  | object ms =>
    rw [after_object]
    exact increasing_onMembers e h
  | array vs =>
    rw [after_array]
    exact h
  | _ =>
    rw [after_scalar]
    · exact h
    all_goals
      intro kind
      cases kind

/-- A run in which every edit has answered, and none of them has taken an element out of an array,
is taken back by its edits and their answers: each edit of the way back succeeds, and the value at
its end is the one that the run began with, down to the order of its members.  If it is an object,
its names have to be in order, as those of every object are that is read or edited. -/
theorem answers_are_undo_log {v : Value} (increasing : Members.Increasing v.members)
    {es : List Edit} (keeps : ∀ e ∈ es, ∀ i, e ≠ .removeElement i) {olds : List (Option Value)}
    (answered : answers es v = olds.map .ok) :
    takeAllBack (es.zip olds) (afterAll es v) = .ok v := by
  induction es generalizing v olds with
  | nil => rfl
  | cons e es ih =>
    obtain ⟨first, later⟩ := List.forall_mem_cons.mp keeps
    cases olds with
    | nil => cases answered
    | cons old olds =>
      obtain ⟨here, rest⟩ := List.cons.inj answered
      have back : takeAllBack (es.zip olds) (afterAll es (e.after v)) = .ok (e.after v) :=
        ih (increasing_after e increasing) later rest
      have last : takeBack (e, old) (e.after v) = .ok v := takeBack_after first increasing here
      have run : afterAll (e :: es) v = afterAll es (e.after v) := rfl
      rw [List.zip_cons_cons, takeAllBack_cons, run, back]
      exact last

/-- A name that is new, set again and taken out, one that was never there, and one that goes and
comes back; and an array that grows and has its first element and its new one replaced. -/
theorem answers_are_undo_log_both :
    let object := Value.object [("a", .null), ("c", .bool true)]
    let edits := [setMember "b" .null, .removeMember "a", .setMember "b" (.array []),
      .removeMember "x", .removeMember "b", .setMember "a" (.string "")]
    let olds := [none, some .null, some .null, none, some (.array []), none]
    let array := Value.array [.null]
    let moves := [pushElement (.bool true), .setElement 0 (.bool false), .setElement 1 .null]
    let parts := [none, some .null, some (.bool true)]
    Members.Increasing object.members ∧ (∀ e ∈ edits, ∀ i, e ≠ .removeElement i) ∧
      answers edits object = olds.map .ok ∧
      takeAllBack (edits.zip olds) (afterAll edits object) = .ok object ∧
      Members.Increasing array.members ∧ (∀ e ∈ moves, ∀ i, e ≠ .removeElement i) ∧
      answers moves array = parts.map .ok ∧
      takeAllBack (moves.zip parts) (afterAll moves array) = .ok array := by
  intro object edits olds array moves parts
  have increasing : Members.Increasing object.members := by decide
  have keeps : ∀ e ∈ edits, ∀ i, e ≠ .removeElement i := by simp [edits]
  have answered : answers edits object = olds.map .ok := by rfl
  have increasing' : Members.Increasing array.members := Members.increasing_nil
  have keeps' : ∀ e ∈ moves, ∀ i, e ≠ .removeElement i := by simp [moves]
  have answered' : answers moves array = parts.map .ok := by rfl
  exact ⟨increasing, keeps, answered, answers_are_undo_log increasing keeps answered,
    increasing', keeps', answered', answers_are_undo_log increasing' keeps' answered'⟩

end Reprint.Edit
