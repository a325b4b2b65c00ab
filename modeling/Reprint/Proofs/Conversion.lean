import Reprint.Document
import Reprint.Proofs.Fallible
import Reprint.Proofs.FiniteMap

set_option autoImplicit false

/-!
# Converting and looking

There are two ways to data in a value: converting the value as a whole, and looking at it with
accessors.  Both find the same data: a conversion succeeds exactly where the accessors answer, for
single numbers, truth values and texts as for the elements of an array and the members of an object,
and where they do not answer it fails with a mismatch.
-/

namespace Reprint

namespace Value

variable {α : Type}

/-- The value is an array, and its elements hold the data of the list one by one. -/
structure Lists (holds : Value → α → Prop) (v : Value) (as : List α) : Prop where
  array : v.isOf .array = true
  size : as.length = v.size
  each (i : Nat) (h : i < as.length) : ∃ part, v.element? i = some part ∧ holds part as[i]

/-- The value is an object, and its members hold the data of the table name by name. -/
structure Maps (holds : Value → α → Prop) (v : Value) (t : Table String α) : Prop where
  object : v.isOf .object = true
  names : Members.names t.entries = v.names
  each (e : String × α) (h : e ∈ t.entries) : ∃ part, v.member? e.1 = some part ∧ holds part e.2

theorem isOf_iff {v : Value} {k : Kind} : v.isOf k = true ↔ v.kind = k := decide_eq_true_iff

end Value

namespace Native

variable {α : Type}

theorem wordOf_eq_ok_iff [Word α] {v : Value} {a : α} :
    (wordOf v : Except Mismatch α) = .ok a ↔ v.word? = some a := by
  cases v with
  | number n =>
    cases n with
    | whole w =>
      have answer : (Value.number (.whole w)).word? = (Word.ofInt? w.val : Option α) := rfl
      rw [answer, wordOf, wordOfNumber]
      cases fits : (Word.ofInt? w.val : Option α) with
      | some b => simp
      | none => simp
    | float x =>
      constructor <;>
      · intro h
        cases h
  | _ =>
    constructor <;>
    · intro h
      cases h

theorem bool_eq_ok_iff {v : Value} {b : Bool} :
    (fromValue v : Except Mismatch Bool) = .ok b ↔ v.bool? = some b := by
  cases v with
  | bool b' =>
    exact ⟨fun h => congrArg some (Except.ok.inj h), fun h => congrArg _ (Option.some.inj h)⟩
  | _ =>
    constructor <;>
    · intro h
      cases h

theorem string_eq_ok_iff {v : Value} {s : String} :
    (fromValue v : Except Mismatch String) = .ok s ↔ v.string? = some s := by
  cases v with
  | string s' =>
    exact ⟨fun h => congrArg some (Except.ok.inj h), fun h => congrArg _ (Option.some.inj h)⟩
  | _ =>
    constructor <;>
    · intro h
      cases h

variable [FromValue α]

theorem option_eq_none_iff {v : Value} :
    (fromValue v : Except Mismatch (Option α)) = .ok none ↔ v.kind = .null := by
  cases v with
  | null => exact ⟨fun _ => rfl, fun _ => rfl⟩
  | _ =>
    constructor
    · intro h
      obtain ⟨a, _, some⟩ := map_eq_ok_iff.mp h
      cases some
    · intro kind
      cases kind

/-- Something is found where the inner type finds it, if that does not take `null` for data. -/
theorem option_eq_some_iff {v : Value} {a : α} (something : fromValue .null ≠ .ok a) :
    (fromValue v : Except Mismatch (Option α)) = .ok (some a) ↔ fromValue v = .ok a := by
  by_cases kind : v.kind = .null
  · obtain rfl : v = .null := by
      cases v with
      | null => rfl
      | _ => cases kind
    constructor
    · intro h
      cases h
    · exact fun h => absurd h something
  · have inner : (fromValue v : Except Mismatch (Option α)) = some <$> fromValue v := by
      cases v with
      | null => exact absurd rfl kind
      | _ => rfl
    rw [inner, map_eq_ok_iff]
    simp

theorem list_eq_ok_iff {v : Value} {as : List α} :
    (fromValue v : Except Mismatch (List α)) = .ok as ↔
      v.Lists (fun part a => fromValue part = .ok a) as := by
  cases v with
  | array vs =>
    have parts : (fromValue (.array vs) : Except Mismatch (List α)) = vs.mapM fromValue := rfl
    rw [parts, mapM_eq_ok_iff_getElem]
    constructor
    · rintro ⟨size, each⟩
      refine ⟨rfl, size.symm, fun i h => ?_⟩
      have h' : i < vs.length := size ▸ h
      exact ⟨vs[i], List.getElem?_eq_getElem h', each i h' h⟩
    · rintro ⟨-, size, each⟩
      refine ⟨size.symm, fun i h h' => ?_⟩
      obtain ⟨part, found, holds⟩ := each i h'
      cases (List.getElem?_eq_getElem h).symm.trans found
      exact holds
  | _ =>
    constructor
    · intro h
      cases h
    · intro h
      cases h.array

theorem entryOf_eq_ok_iff {m : String × Value} {e : String × α} :
    entryOf m = .ok e ↔ m.1 = e.1 ∧ fromValue m.2 = .ok e.2 := by
  unfold entryOf
  rw [bind_eq_ok_iff]
  constructor
  · rintro ⟨name, named, rest⟩
    obtain ⟨a, found, same⟩ := bind_eq_ok_iff.mp rest
    cases named
    cases same
    exact ⟨rfl, found⟩
  · rintro ⟨named, found⟩
    exact ⟨m.1, rfl, bind_eq_ok_iff.mpr ⟨e.2, found, by rw [named]; rfl⟩⟩

/-- A table is taken out of an object member by member, and has the names of the object. -/
theorem table_eq_ok_iff {v : Value} (increasing : Members.Increasing v.members)
    {t : Table String α} :
    (fromValue v : Except Mismatch (Table String α)) = .ok t ↔
      v.Maps (fun part a => fromValue part = .ok a) t := by
  cases v with
  | object ms =>
    have parts : (fromValue (.object ms) : Except Mismatch (Table String α)) =
      Table.ofList <$> ms.mapM entryOf := rfl
    have find (i : Nat) (h : i < ms.length) : Members.find? ms[i].1 ms = some ms[i].2 :=
      (Members.find?_eq_some_iff_mem increasing).mpr (List.getElem_mem h)
    rw [parts, map_eq_ok_iff]
    simp only [mapM_eq_ok_iff_getElem, entryOf_eq_ok_iff]
    constructor
    · rintro ⟨es, ⟨size, each⟩, rfl⟩
      have names : Members.names es = Members.names ms := by
        apply List.ext_getElem
        · simp [Members.names, size]
        · intro i h h'
          simp only [Members.names, List.length_map] at h h'
          simp [Members.names, (each i h' h).1]
      have entries : (Table.ofList es).entries = es := by
        apply Members.ofList_eq_self
        rwa [Members.Increasing, names]
      refine ⟨rfl, by rw [entries]; exact names, fun e within => ?_⟩
      rw [entries] at within
      obtain ⟨i, h', rfl⟩ := List.getElem_of_mem within
      have h : i < ms.length := size ▸ h'
      obtain ⟨named, holds⟩ := each i h h'
      exact ⟨ms[i].2, by rw [← named]; exact find i h, holds⟩
    · rintro ⟨-, names, each⟩
      have size : ms.length = t.entries.length := by
        have same := congrArg List.length names
        simpa [Members.names, Value.names, Value.members] using same.symm
      refine ⟨t.entries, ⟨size, fun i h h' => ?_⟩, ?_⟩
      · have named : ms[i].1 = t.entries[i].1 := by
          have same : (t.entries.map Prod.fst)[i]? = (ms.map Prod.fst)[i]? := congrArg (·[i]?) names
          simpa [h, h'] using same.symm
        obtain ⟨part, found, holds⟩ := each t.entries[i] (List.getElem_mem h')
        rw [← named] at found
        cases (find i h).symm.trans found
        exact ⟨named, holds⟩
      · obtain ⟨entries, increasing⟩ := t
        simp only [Table.ofList, Members.ofList_eq_self increasing]
  | _ =>
    constructor
    · intro h
      cases h
    · intro h
      cases h.object

end Native

open Native

theorem toNative_eq_ok_iff {α : Type} [FromValue α] {v : Value} {a : α} :
    toNative α v = .ok a ↔ fromValue v = .ok a := mapError_eq_ok_iff

/-- A conversion that fails is an error of JSON, and says what does not match. -/
theorem toNative_error {α : Type} [FromValue α] {v : Value} {e : Error}
    (h : toNative α v = .error e) :
    ∃ reason, e = .mismatch reason ∧ e.message = "JSON error: " ++ reason.message := by
  unfold toNative at h
  cases taken : (fromValue v : Except Mismatch α) with
  | ok a =>
    rw [taken] at h
    cases h
  | error reason =>
    rw [taken] at h
    cases h
    exact ⟨reason, rfl, rfl⟩

/-- A value is converted to the data that its accessors find in it: to a truth value, an integer or
a text, to an integer that may be missing, and part by part to a list of integers or a table of such
lists, with the names of the object in their order.  In every other case the answer is an error of
JSON.  The members of an object have to be in order, as those of every object are that is read or
edited. -/
theorem conversion_agrees (v : Value) :
    (∀ b, toNative Bool v = .ok b ↔ v.bool? = some b) ∧
    (∀ n, toNative Int32 v = .ok n ↔ v.int32? = some n) ∧
    (∀ n, toNative Int64 v = .ok n ↔ v.int64? = some n) ∧
    (∀ n, toNative UInt64 v = .ok n ↔ v.uint64? = some n) ∧
    (∀ s, toNative String v = .ok s ↔ v.string? = some s) ∧
    (toNative (Option Int64) v = .ok none ↔ v.isOf .null = true) ∧
    (∀ n, toNative (Option Int64) v = .ok (some n) ↔ v.int64? = some n) ∧
    (∀ ns, toNative (List Int64) v = .ok ns ↔ v.Lists (fun part n => part.int64? = some n) ns) ∧
    (Members.Increasing v.members → ∀ t, toNative (Table String (List Int64)) v = .ok t ↔
      v.Maps (fun part ns => part.Lists (fun part n => part.int64? = some n) ns) t) ∧
    ∀ (α : Type) [FromValue α] (e : Error), toNative α v = .error e →
      ∃ reason, e = .mismatch reason ∧ e.message = "JSON error: " ++ reason.message := by
  have word {α : Type} [Word α] {v : Value} {n : α} :
      (wordOf v : Except Mismatch α) = .ok n ↔ v.word? = some n := wordOf_eq_ok_iff
  have integer {v : Value} {n : Int64} : fromValue v = .ok n ↔ v.int64? = some n := word
  have integers {v : Value} {ns : List Int64} :
      fromValue v = .ok ns ↔ v.Lists (fun part n => part.int64? = some n) ns := by
    simp only [list_eq_ok_iff, integer]
  refine ⟨fun b => ?_, fun n => ?_, fun n => ?_, fun n => ?_, fun s => ?_, ?_, fun n => ?_,
    fun ns => ?_, fun increasing t => ?_, fun α _ e => toNative_error⟩
  · exact toNative_eq_ok_iff.trans bool_eq_ok_iff
  · exact toNative_eq_ok_iff.trans word
  · exact toNative_eq_ok_iff.trans word
  · exact toNative_eq_ok_iff.trans word
  · exact toNative_eq_ok_iff.trans string_eq_ok_iff
  · rw [toNative_eq_ok_iff, option_eq_none_iff, Value.isOf_iff]
  · have something : fromValue .null ≠ .ok n := by
      intro h
      cases h
    rw [toNative_eq_ok_iff, option_eq_some_iff something, integer]
  · rw [toNative_eq_ok_iff, integers]
  · simp only [toNative_eq_ok_iff, table_eq_ok_iff increasing, integers]

/-- Two lists under their names, one of them empty; and the object is no list. -/
theorem conversion_agrees_lists :
    let v := Value.object [("a", .array [.number (.whole ⟨1, by decide, by decide⟩),
      .number (.whole ⟨-2, by decide, by decide⟩)]), ("b", .array [])]
    let t : Table String (List Int64) := ⟨[("a", [1, -2]), ("b", [])], by decide⟩
    let e := Error.mismatch (.type .map "a sequence")
    Members.Increasing v.members ∧ toNative (Table String (List Int64)) v = .ok t ∧
      v.Maps (fun part ns => part.Lists (fun part n => part.int64? = some n) ns) t ∧
      toNative (List Int64) v = .error e ∧
      ∃ reason, e = .mismatch reason ∧ e.message = "JSON error: " ++ reason.message := by
  intro v t e
  obtain ⟨_, _, _, _, _, _, _, _, tables, errors⟩ := conversion_agrees v
  have increasing : Members.Increasing v.members := by decide
  have taken : toNative (Table String (List Int64)) v = .ok t := by rfl
  have failed : toNative (List Int64) v = .error e := by rfl
  exact ⟨increasing, taken, (tables increasing t).mp taken, failed, errors _ e failed⟩

end Reprint
