import Reprint.Proofs.Edits

set_option autoImplicit false

/-!
# Edits that fail

Whether an edit fails, and why, depends on the kind and the size of the value at that moment alone.
In a run the size changes with every edit that succeeds and with no edit that fails, so a failure is
seen by nobody: the run without its failing edits answers with the same parts and ends with the same
value.
-/

namespace Reprint

namespace Edit

/-! ## Single edits -/

/-- Why an edit of a value fails. -/
inductive Fails : Edit → Value → EditFault → Prop where
  /-- Only an object has members. -/
  | noObject {e : Edit} {name : String} {v : Value} :
      e.name? = some name → v.kind ≠ .object → Fails e v (.kind .object v.kind)
  /-- Only an array has elements. -/
  | noArray {e : Edit} {v : Value} :
      e.name? = none → v.kind ≠ .array → Fails e v (.kind .array v.kind)
  /-- The array is too short to have an element at the index. -/
  | outside {e : Edit} {i : Nat} {v : Value} :
      e.index? = some i → v.kind = .array → v.size ≤ i → Fails e v (.index i v.size)

theorem answer_of_fails {e : Edit} {v : Value} {fault : EditFault} (h : e.Fails v fault) :
    e.answer v = .error fault := by
  cases h with
  | noObject named kind =>
    cases v with
    | object ms => exact absurd rfl kind
    | _ =>
      cases e with
      | setMember | removeMember => rfl
      | _ => cases named
  | noArray unnamed kind =>
    cases v with
    | array vs => exact absurd rfl kind
    | _ =>
      cases e with
      | setMember | removeMember => cases unnamed
      | _ => rfl
  | outside indexed kind short =>
    cases v with
    | array vs => exact answer_outside indexed short
    | _ => cases kind

/-- Where an edit does not fail it answers. -/
theorem answer_or_fails (e : Edit) (v : Value) :
    (∃ old, e.answer v = .ok old) ∨ ∃ fault, e.Fails v fault := by
  cases named : e.name? with
  | some name =>
    by_cases object : v.kind = .object
    · cases v with
      | object ms => exact .inl ⟨_, answer_object named ms⟩
      | _ => cases object
    · exact .inr ⟨_, .noObject named object⟩
  | none =>
    by_cases array : v.kind = .array
    · cases v with
      | array vs =>
        cases indexed : e.index? with
        | some i =>
          rcases Nat.lt_or_ge i vs.length with inside | outside
          · exact .inl ⟨_, answer_array indexed inside⟩
          · exact .inr ⟨_, .outside indexed array outside⟩
        | none =>
          cases e with
          | pushElement part => exact .inl ⟨none, rfl⟩
          | setMember | removeMember => cases named
          | setElement | removeElement => cases indexed
      | _ => cases array
    · exact .inr ⟨_, .noArray named array⟩

theorem answer_eq_error_iff {e : Edit} {v : Value} {fault : EditFault} :
    e.answer v = .error fault ↔ e.Fails v fault := by
  refine ⟨fun failed => ?_, answer_of_fails⟩
  rcases answer_or_fails e v with ⟨old, answered⟩ | ⟨fault', fails⟩
  · cases answered.symm.trans failed
  · cases (answer_of_fails fails).symm.trans failed
    exact fails

/-- What an edit leaves behind is its answer and the value after it. -/
theorem apply_eq (e : Edit) (v : Value) :
    e.apply v = (e.answer v).map fun old => ⟨old, e.after v⟩ := by
  unfold answer after
  cases e.apply v with
  | error fault => rfl
  | ok r => rfl

theorem after_of_error {e : Edit} {v : Value} {fault : EditFault}
    (h : e.answer v = .error fault) : e.after v = v := by
  have failed : e.apply v = .error fault := by
    rw [apply_eq, h]
    rfl
  rw [after, failed]

/-! ## Runs -/

/-- What the edits of a run answer, each on the value that the run has come to. -/
def answers : List Edit → Value → List (Except EditFault (Option Value))
  | [], _ => []
  | e :: es, v => e.answer v :: answers es (e.after v)

/-- The edits of a run that do not fail. -/
def succeeding : List Edit → Value → List Edit
  | [], _ => []
  | e :: es, v =>
    let later := succeeding es (e.after v)
    if (e.answer v).isOk then e :: later else later

theorem succeeding_of_error {e : Edit} {v : Value} {fault : EditFault}
    (h : e.answer v = .error fault) (es : List Edit) :
    succeeding (e :: es) v = succeeding es v := by
  rw [succeeding, after_of_error h, h]
  rfl

theorem succeeding_of_ok {e : Edit} {v : Value} {old : Option Value} (h : e.answer v = .ok old)
    (es : List Edit) : succeeding (e :: es) v = e :: succeeding es (e.after v) := by
  rw [succeeding, h]
  rfl

/-- The answer at a position is that of the edit there, on the value of the run so far. -/
theorem getElem?_answers (es : List Edit) (v : Value) (i : Nat) :
    (answers es v)[i]? = es[i]?.map fun e => e.answer (afterAll (es.take i) v) := by
  induction es generalizing v i with
  | nil => rfl
  | cons e es ih =>
    cases i with
    | zero => rfl
    | succ i => exact ih (e.after v) i

theorem afterAll_succeeding (es : List Edit) (v : Value) :
    afterAll (succeeding es v) v = afterAll es v := by
  induction es generalizing v with
  | nil => rfl
  | cons e es ih =>
    have later : afterAll (e :: es) v = afterAll es (e.after v) := rfl
    cases answered : e.answer v with
    | error fault =>
      rw [succeeding_of_error answered, later, after_of_error answered]
      exact ih v
    | ok old =>
      rw [succeeding_of_ok answered, later]
      exact ih (e.after v)

theorem answers_succeeding (es : List Edit) (v : Value) :
    answers (succeeding es v) v = (answers es v).filter Except.isOk := by
  induction es generalizing v with
  | nil => rfl
  | cons e es ih =>
    cases answered : e.answer v with
    | error fault =>
      rw [succeeding_of_error answered, answers, answered, after_of_error answered, ih]
      rfl
    | ok old =>
      rw [succeeding_of_ok answered, answers, answers, answered, ih]
      rfl

/-- In every run an edit fails for the reasons that `Fails` gives and for no others; and the run
without the edits that fail ends with the same value and has the answers of all other edits. -/
theorem failures_leave_no_trace (es : List Edit) (v : Value) :
    (∀ (i : Nat) (fault : EditFault), (answers es v)[i]? = some (.error fault) ↔
      ∃ e, es[i]? = some e ∧ e.Fails (afterAll (es.take i) v) fault) ∧
    afterAll (succeeding es v) v = afterAll es v ∧
    answers (succeeding es v) v = (answers es v).filter Except.isOk := by
  refine ⟨fun i fault => ?_, afterAll_succeeding es v, answers_succeeding es v⟩
  rw [getElem?_answers, Option.map_eq_some_iff]
  simp only [answer_eq_error_iff]

/-- The index that was too great before a push is right after it, and one beyond is not. -/
example :
    answers [.setElement 1 (.bool true), .pushElement .null, .setElement 1 (.bool true),
        .removeMember "a", .removeElement 2] (.array [.null]) =
      [.error (.index 1 1), .ok none, .ok (some .null), .error (.kind .object .array),
        .error (.index 2 2)] :=
  rfl

end Edit

end Reprint
