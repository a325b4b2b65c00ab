import Mathlib
import Reprint.Native.Record
import Reprint.Proofs.Conversion
import Reprint.Proofs.RoundTrip

set_option autoImplicit false

/-!
# Data through text and back

Data of a type is written as a value, the value as a text, and the text is read as a value with its
members in order, from which the data has to be taken.  That it comes back is shown type former by
type former: for each of them it is enough that the data of its parts come back.  Tables need most,
since their keys become names and are put in another order on the way: nothing is lost as long as
each key can be told from its name.
-/

namespace Reprint

open Reprint.Layout
open Reprint.Reader

namespace Native

/-- The value is what the data is written as, its text can be read where `depth` arrays and objects
may stand inside one another, and the data is taken out of what is read. -/
structure Carries {α : Type} [ToValue α] [FromValue α] (depth : Nat) (v : Value) (a : α) :
    Prop where
  written : toValue a = .ok v
  integral : v.Integral
  fits : v.nesting ≤ depth
  taken : fromValue v.inOrder = .ok a

/-- Every piece of data of the type comes back from the value that it is written as. -/
def Carried (α : Type) [ToValue α] [FromValue α] (depth : Nat) : Prop :=
  ∀ a : α, ∃ v, Carries depth v a

/-! ## Single values -/

/-- A word is written as its integer. -/
theorem carried_word {α : Type} [Word α] [ToValue α] [FromValue α]
    (written : ∀ a : α, toValue a = .ok (ofWord a))
    (taken : ∀ v, (fromValue v : Except Mismatch α) = wordOf v) (depth : Nat) :
    Carried α depth := by
  intro a
  refine ⟨ofWord a, written a, ⟨_, rfl⟩, Nat.zero_le depth, ?_⟩
  rw [taken]
  exact wordOf_eq_ok_iff.mpr (Word.ofInt?_toInt a)

theorem carried_bool (depth : Nat) : Carried Bool depth :=
  fun b => ⟨.bool b, rfl, trivial, Nat.zero_le depth, rfl⟩

theorem carried_string (depth : Nat) : Carried String depth :=
  fun s => ⟨.string s, rfl, trivial, Nat.zero_le depth, rfl⟩

theorem carried_unit (depth : Nat) : Carried Unit depth :=
  fun _ => ⟨.null, rfl, trivial, Nat.zero_le depth, rfl⟩

theorem fromValue_letter {s : String} {c : Char} (h : s.toList = [c]) :
    (fromValue (.string s) : Except Mismatch Char) = .ok c := by
  simp only [fromValue, h]

theorem carried_char (depth : Nat) : Carried Char depth := by
  intro c
  have letters : c.toString.toList = [c] := by
    rw [Char.toString_eq_singleton, String.toList_singleton]
  exact ⟨.string c.toString, rfl, trivial, Nat.zero_le depth, fromValue_letter letters⟩

/-! ## Parts -/

theorem take_cons {α : Type} [FromValue α] {expected : String} {a : α} {v : Value}
    (h : fromValue v = .ok a) (i : Nat) (vs : List Value) :
    (Slots.take expected).run ⟨i, v :: vs⟩ = .ok (a, ⟨i + 1, vs⟩) :=
  bind_eq_ok_iff.mpr ⟨a, h, rfl⟩

theorem fromValue_pair {α β : Type} [FromValue α] [FromValue β] {v w : Value} {a : α} {b : β}
    (first : fromValue v = .ok a) (second : fromValue w = .ok b) :
    (fromValue (.array [v, w]) : Except Mismatch (α × β)) = .ok (a, b) := by
  simp only [fromValue, takeAll, StateT.run_bind, StateT.run_pure, take_cons first,
    take_cons second, ok_bind]
  rfl

section Parts

variable {α : Type} [ToValue α] [FromValue α] {depth : Nat} (h : Carried α depth)

include h

/-- What is there can be told from what is missing, if `null` is no data of the inner type. -/
theorem carried_option (something : ∀ a : α, fromValue .null ≠ .ok a) :
    Carried (Option α) depth := by
  intro x
  cases x with
  | none => exact ⟨.null, rfl, trivial, Nat.zero_le depth, rfl⟩
  | some a =>
    obtain ⟨v, carries⟩ := h a
    exact ⟨v, carries.written, carries.integral, carries.fits,
      (option_eq_some_iff (something a)).mpr carries.taken⟩

theorem carried_list : Carried (List α) (depth + 1) := by
  intro as
  choose write carries using h
  have written : as.mapM toValue = .ok (as.map write) := by
    refine mapM_eq_ok_iff.mpr (List.forall₂_map_right_iff.mpr (List.forall₂_same.mpr ?_))
    exact fun a _ => (carries a).written
  have taken : (as.map fun a => (write a).inOrder).mapM fromValue = .ok as := by
    refine mapM_eq_ok_iff.mpr (List.forall₂_map_left_iff.mpr (List.forall₂_same.mpr ?_))
    exact fun a _ => (carries a).taken
  refine ⟨.array (as.map write), map_eq_ok_iff.mpr ⟨_, written, rfl⟩, ?_, ?_, ?_⟩
  · refine Value.integralElements_iff.mpr (List.forall_mem_map.mpr ?_)
    exact fun a _ => (carries a).integral
  · refine Nat.succ_le_succ (Value.nestingElements_le_iff.mpr (List.forall_mem_map.mpr ?_))
    exact fun a _ => (carries a).fits
  · rw [Value.inOrder, Value.inOrderElements_eq_map, List.map_map]
    exact taken

theorem carried_pair {β : Type} [ToValue β] [FromValue β] (h' : Carried β depth) :
    Carried (α × β) (depth + 1) := by
  rintro ⟨a, b⟩
  obtain ⟨v, first⟩ := h a
  obtain ⟨w, second⟩ := h' b
  refine ⟨.array [v, w], ?_, ⟨first.integral, second.integral, trivial⟩, ?_,
    fromValue_pair first.taken second.taken⟩
  · exact bind_eq_ok_iff.mpr ⟨v, first.written, bind_eq_ok_iff.mpr ⟨w, second.written, rfl⟩⟩
  · refine Nat.succ_le_succ (Value.nestingElements_le_iff.mpr ?_)
    exact List.forall_mem_cons.mpr ⟨first.fits, List.forall_mem_singleton.mpr second.fits⟩

/-- A table comes back if its keys do.  Their names are put in an order of their own in between, but
no two of them are the same, so the object has the entries of the table in some order. -/
theorem carried_table {κ : Type} [Ord κ] [Std.TransOrd κ] [Std.LawfulEqOrd κ] [ToName κ]
    [FromName κ]
    (named : ∀ k : κ, ∃ name, ToName.toName k = .ok name ∧ FromName.fromName name = .ok k) :
    Carried (Table κ α) (depth + 1) := by
  rintro ⟨entries, increasing⟩
  choose write carries using h
  choose name toName fromName using named
  have injective : Function.Injective name := by
    intro k k' same
    have back := fromName k
    rw [same, fromName k'] at back
    exact (Except.ok.inj back).symm
  have written : entries.mapM ofEntry = .ok (entries.map fun e => (name e.1, write e.2)) := by
    refine mapM_eq_ok_iff.mpr (List.forall₂_map_right_iff.mpr (List.forall₂_same.mpr ?_))
    intro e _
    exact bind_eq_ok_iff.mpr ⟨name e.1, toName e.1,
      bind_eq_ok_iff.mpr ⟨write e.2, (carries e.2).written, rfl⟩⟩
  let read (e : κ × α) : String × Value := (name e.1, (write e.2).inOrder)
  have taken : List.Forall₂ (fun m e => entryOf m = .ok e) (entries.map read) entries := by
    refine List.forall₂_map_left_iff.mpr (List.forall₂_same.mpr ?_)
    intro e _
    exact bind_eq_ok_iff.mpr ⟨e.1, fromName e.1,
      bind_eq_ok_iff.mpr ⟨e.2, (carries e.2).taken, rfl⟩⟩
  have distinct : (Members.names (entries.map read)).Nodup := by
    have names : Members.names (entries.map read) = (Members.names entries).map name := by
      simp [Members.names, read]
    rw [names]
    exact (Members.nodup_of_increasing increasing).map injective
  obtain ⟨es, each, same⟩ := List.perm_comp_forall₂ (Members.ofList_perm distinct) taken
  have entries_eq : Members.ofList es = entries := Members.ofList_eq_of_perm same increasing
  refine ⟨.object (entries.map fun e => (name e.1, write e.2)),
    map_eq_ok_iff.mpr ⟨_, written, rfl⟩, ?_, ?_, ?_⟩
  · refine Value.integralMembers_iff.mpr (List.forall_mem_map.mpr ?_)
    exact fun e _ => (carries e.2).integral
  · refine Nat.succ_le_succ (Value.nestingMembers_le_iff.mpr (List.forall_mem_map.mpr ?_))
    exact fun e _ => (carries e.2).fits
  · rw [Value.inOrder, Value.inOrderMembers_eq_map, List.map_map]
    refine map_eq_ok_iff.mpr ⟨es, mapM_eq_ok_iff.mpr each, ?_⟩
    simp only [Table.ofList, entries_eq]

end Parts

/-- The name of a key that is a word is read as a number, and that is all of it. -/
theorem wordOfName_text {α : Type} [Word α] (a : α) :
    wordOfName (String.ofList (Word.toWhole a).text) = .ok a := by
  have read := (spells_whole (Word.toWhole a)).reads [] ends_nil
  rw [List.append_nil] at read
  have numeral : ((Word.toWhole a).text.head?.any fun c => c = '-' ∨ c.isDigit) = true := by
    cases written : (Word.toWhole a).text with
    | nil =>
      rw [written] at read
      cases read
    | cons c text =>
      rw [written] at read
      exact decide_eq_true (number_head read)
  have taken : wordOfNumber (.whole (Word.toWhole a)) = .ok a := by
    have fits : Word.ofInt? (Word.toWhole a).val = some a := Word.ofInt?_toInt a
    simp only [wordOfNumber, fits]
  unfold wordOfName
  simp only [String.toList_ofList, numeral, read, taken]
  rfl

theorem fromValue_player {p : Player} {v : Value} (h : fromValue v = .ok p.scores) :
    (fromValue (.object [("name", .string p.name), ("scores", v)]) : Except Mismatch Player) =
      .ok p := by
  let ms := [("name", Value.string p.name), ("scores", v)]
  have checked : checkMembers [checkField "name" String, checkField "scores" (List UInt32)] ms =
      .ok () := by
    have name : checkField "name" String "name" (.string p.name) = .ok () := rfl
    have otherName : checkField "scores" (List UInt32) "name" (.string p.name) = .ok () := rfl
    have otherScores : checkField "name" String "scores" v = .ok () := rfl
    have scores : checkField "scores" (List UInt32) "scores" v = .ok () := by
      simp only [checkField, if_true, h]
      rfl
    simp only [ms, checkMembers, List.forM_eq_forM, List.forM_cons, List.forM_nil, name, otherName,
      otherScores, scores, ok_bind]
    rfl
  have name : (field ms "name" : Except Mismatch String) = .ok p.name := rfl
  have scores : (field ms "scores" : Except Mismatch (List UInt32)) = .ok p.scores := h
  simp only [fromValue, ms, checked, name, scores, ok_bind] at *
  rfl

/-- The fields of a player are written in the order of their names. -/
theorem carried_player (depth : Nat) : Carried Player (depth + 2) := by
  intro p
  have words : Carried UInt32 depth := carried_word (fun _ => rfl) (fun _ => rfl) depth
  obtain ⟨v, scores⟩ := carried_list words p.scores
  refine ⟨.object [("name", .string p.name), ("scores", v)], ?_,
    ⟨trivial, scores.integral, trivial⟩, ?_, ?_⟩
  · exact bind_eq_ok_iff.mpr ⟨.string p.name, rfl, bind_eq_ok_iff.mpr ⟨v, scores.written, rfl⟩⟩
  · refine Nat.succ_le_succ (Value.nestingMembers_le_iff.mpr ?_)
    exact List.forall_mem_cons.mpr ⟨Nat.zero_le _, List.forall_mem_singleton.mpr scores.fits⟩
  · have increasing : Members.Increasing [("name", Value.string p.name), ("scores", v.inOrder)] :=
      show (["name", "scores"].Pairwise fun a b => compare a b = .lt) by decide
    have sorted : (Value.object [("name", .string p.name), ("scores", v)]).inOrder =
        .object [("name", .string p.name), ("scores", v.inOrder)] :=
      congrArg Value.object (Members.ofList_eq_self increasing)
    rw [sorted]
    exact fromValue_player scores.taken

/-! ## Texts -/

/-- What is rendered as the options say is parsed, and the data is converted back from what is
parsed. -/
def SurvivesText (o : Options) (α : Type) [ToValue α] [FromValue α] : Prop :=
  ∀ a : α, ∃ text v, renderWith o a = .ok text ∧ parse text = .ok v ∧ toNative α v = .ok a

theorem survivesText_of_carried {o : Options} (gap : Gap o.indent.toList) {α : Type} [ToValue α]
    [FromValue α] (h : Carried α 127) : SurvivesText o α := by
  intro a
  obtain ⟨v, carries⟩ := h a
  refine ⟨o.print v.text, v.inOrder, ?_, parse_print_text carries.integral carries.fits gap, ?_⟩
  · unfold renderWith render
    rw [carries.written]
    rfl
  · exact toNative_eq_ok_iff.mpr carries.taken

end Native

open Native

/-- Data of each of these types is rendered, in whatever form a printer with white space for
indentation gives it, its text is parsed, and it is converted back from the value that the text
holds. -/
theorem native_survives_text {o : Options} (gap : Gap o.indent.toList) :
    SurvivesText o Bool ∧ SurvivesText o UInt8 ∧ SurvivesText o Int8 ∧ SurvivesText o Int32 ∧
      SurvivesText o UInt32 ∧ SurvivesText o Int64 ∧ SurvivesText o UInt64 ∧ SurvivesText o Char ∧
      SurvivesText o String ∧ SurvivesText o Unit ∧ SurvivesText o (Option Int64) ∧
      SurvivesText o (List Int64) ∧ SurvivesText o (List (Option String)) ∧
      SurvivesText o (String × Int32) ∧ SurvivesText o (Table String (List Int64)) ∧
      SurvivesText o (Table Int32 Bool) ∧ SurvivesText o Player := by
  have word {α : Type} [Word α] [ToValue α] [FromValue α]
      (written : ∀ a : α, toValue a = .ok (ofWord a))
      (taken : ∀ v, (fromValue v : Except Mismatch α) = wordOf v) : SurvivesText o α :=
    survivesText_of_carried gap (carried_word written taken 127)
  have integers (depth : Nat) : Carried Int64 depth :=
    carried_word (fun _ => rfl) (fun _ => rfl) depth
  have small : Carried Int32 126 := carried_word (fun _ => rfl) (fun _ => rfl) 126
  have integer : ∀ n : Int64, fromValue .null ≠ .ok n := by
    intro n h
    cases h
  have text : ∀ s : String, fromValue .null ≠ .ok s := by
    intro s h
    cases h
  refine ⟨?_, word (fun _ => rfl) (fun _ => rfl), word (fun _ => rfl) (fun _ => rfl),
    word (fun _ => rfl) (fun _ => rfl), word (fun _ => rfl) (fun _ => rfl),
    word (fun _ => rfl) (fun _ => rfl), word (fun _ => rfl) (fun _ => rfl),
    ?_, ?_, ?_, ?_, ?_, ?_, ?_, ?_, ?_, ?_⟩
  all_goals apply survivesText_of_carried gap
  · exact carried_bool 127
  · exact carried_char 127
  · exact carried_string 127
  · exact carried_unit 127
  · exact carried_option (integers 127) integer
  · exact carried_list (integers 126)
  · exact carried_list (carried_option (carried_string 126) text)
  · exact carried_pair (carried_string 126) small
  · exact carried_table (carried_list (integers 125)) fun name => ⟨name, rfl, rfl⟩
  · exact carried_table (carried_bool 126) fun n => ⟨_, rfl, wordOfName_text n⟩
  · exact carried_player 125

/-- The names of the keys of the table are in another order than the keys. -/
theorem native_survives_text_reordered :
    let o : Options := ⟨.pretty, "\t", .crlf⟩
    let t : Table Int32 Bool := ⟨[(-2, true), (-1, false), (3, true), (12, false)], by decide⟩
    Gap o.indent.toList ∧ ∃ text v, renderWith o t = .ok text ∧ parse text = .ok v ∧
      v.names = ["-1", "-2", "12", "3"] ∧ toNative (Table Int32 Bool) v = .ok t := by
  intro o t
  have gap : Gap o.indent.toList := List.all_eq_true.mp (by decide)
  obtain ⟨_, _, _, _, _, _, _, _, _, _, _, _, _, _, _, survives, _⟩ := native_survives_text gap
  obtain ⟨text, v, rendered, parsed, converted⟩ := survives t
  have names : (do return (← parse (← renderWith o t)).names).toOption =
      some ["-1", "-2", "12", "3"] := by decide +kernel
  rw [rendered, ok_bind, parsed] at names
  exact ⟨gap, text, v, rendered, parsed, Option.some.inj names, converted⟩

end Reprint
