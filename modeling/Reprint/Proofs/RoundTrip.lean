import Mathlib
import Reprint.Proofs.Integers
import Reprint.Proofs.Meaning

set_option autoImplicit false

/-!
# Rendering and parsing

The compact text of a value is one of the texts that spell the value with its members in order, so
it is parsed as that, and so is every form that it is printed in.  Two things have to be given: the
numbers are integers, and arrays and objects are not nested deeper than the reader goes.  A value
that has its members in order comes back as it is.
-/

namespace Reprint.Value

/-! ## Integers, nesting and order -/

mutual

/-- All numbers in the value are integers. -/
def Integral : Value → Prop
  | .number n => ∃ w, n = .whole w
  | .array vs => IntegralElements vs
  | .object ms => IntegralMembers ms
  | _ => True

/-- Every value of the list is `Integral`. -/
def IntegralElements : List Value → Prop
  | [] => True
  | v :: vs => v.Integral ∧ IntegralElements vs

/-- Every value of the named values is `Integral`. -/
def IntegralMembers : List (String × Value) → Prop
  | [] => True
  | (_, v) :: ms => v.Integral ∧ IntegralMembers ms

end

mutual

/-- How many arrays and objects stand inside one another, the value included. -/
def nesting : Value → Nat
  | .array vs => nestingElements vs + 1
  | .object ms => nestingMembers ms + 1
  | _ => 0

/-- The deepest nesting of a value of the list. -/
def nestingElements : List Value → Nat
  | [] => 0
  | v :: vs => max v.nesting (nestingElements vs)

/-- The deepest nesting of one of the named values. -/
def nestingMembers : List (String × Value) → Nat
  | [] => 0
  | (_, v) :: ms => max v.nesting (nestingMembers ms)

end

theorem integralElements_iff {vs : List Value} :
    IntegralElements vs ↔ ∀ v ∈ vs, v.Integral := by
  induction vs with
  | nil => simp [IntegralElements]
  | cons v vs ih => simp [IntegralElements, ih]

theorem integralMembers_iff {ms : List (String × Value)} :
    IntegralMembers ms ↔ ∀ m ∈ ms, m.2.Integral := by
  induction ms with
  | nil => simp [IntegralMembers]
  | cons m ms ih => simp [IntegralMembers, ih]

theorem nestingElements_le_iff {vs : List Value} {depth : Nat} :
    nestingElements vs ≤ depth ↔ ∀ v ∈ vs, v.nesting ≤ depth := by
  induction vs with
  | nil => simp [nestingElements]
  | cons v vs ih => rw [nestingElements, Nat.max_le, ih, List.forall_mem_cons]

theorem nestingMembers_le_iff {ms : List (String × Value)} {depth : Nat} :
    nestingMembers ms ≤ depth ↔ ∀ m ∈ ms, m.2.nesting ≤ depth := by
  induction ms with
  | nil => simp [nestingMembers]
  | cons m ms ih => rw [nestingMembers, Nat.max_le, ih, List.forall_mem_cons]

mutual

/-- The value with the members of every object put in order; of several with one name the last is
kept. -/
def inOrder : Value → Value
  | .array vs => .array (inOrderElements vs)
  | .object ms => .object (Members.ofList (inOrderMembers ms))
  | v => v

/-- The values of the list, each put in order. -/
def inOrderElements : List Value → List Value
  | [] => []
  | v :: vs => v.inOrder :: inOrderElements vs

/-- The named values, each put in order, in the place where they are. -/
def inOrderMembers : List (String × Value) → List (String × Value)
  | [] => []
  | (k, v) :: ms => (k, v.inOrder) :: inOrderMembers ms

end

theorem inOrderElements_eq_map (vs : List Value) : inOrderElements vs = vs.map inOrder := by
  induction vs with
  | nil => rfl
  | cons v vs ih => rw [inOrderElements, ih, List.map_cons]

theorem inOrderMembers_eq_map (ms : List (String × Value)) :
    inOrderMembers ms = ms.map fun m => (m.1, m.2.inOrder) := by
  induction ms with
  | nil => rfl
  | cons m ms ih => rw [inOrderMembers, ih, List.map_cons]

mutual

/-- Nothing has to be put in order in a value that is. -/
theorem inOrder_eq_self (v : Value) (h : v.Ordered) : v.inOrder = v := by
  cases v with
  | array vs => rw [inOrder, inOrderElements_eq_self vs h]
  | object ms => rw [inOrder, inOrderMembers_eq_self ms h.2, Members.ofList_eq_self h.1]
  | _ => rfl

theorem inOrderElements_eq_self (vs : List Value) (h : OrderedElements vs) :
    inOrderElements vs = vs := by
  match vs with
  | [] => rfl
  | v :: vs => rw [inOrderElements, inOrder_eq_self v h.1, inOrderElements_eq_self vs h.2]

theorem inOrderMembers_eq_self (ms : List (String × Value)) (h : OrderedMembers ms) :
    inOrderMembers ms = ms := by
  match ms with
  | [] => rfl
  | (k, v) :: ms => rw [inOrderMembers, inOrder_eq_self v h.1, inOrderMembers_eq_self ms h.2]

end

/-! ## Written parts -/

theorem moreElements_eq_flatMap (vs : List Value) :
    moreElements vs = vs.flatMap fun v => ',' :: v.chars := by
  induction vs with
  | nil => rfl
  | cons v vs ih => rw [moreElements, ih, List.flatMap_cons]

/-- A member as it is written. -/
def memberText (m : String × Value) : List Char := Text.quoted m.1.toList ++ ':' :: m.2.chars

theorem moreMembers_eq_flatMap (ms : List (String × Value)) :
    moreMembers ms = ms.flatMap fun m => ',' :: memberText m := by
  induction ms with
  | nil => rfl
  | cons m ms ih =>
    rw [moreMembers, ih, List.flatMap_cons]
    rfl

end Reprint.Value

namespace Reprint.Reader

open Reprint.Text

/-! ## Written lists -/

section Lists

variable {α β : Type} {P : α → List Char → Prop} (e : Enclosure) (text : β → List Char)
  (read : β → α)

theorem more_flatMap {bs : List β} (h : ∀ b ∈ bs, P (read b) (text b)) :
    More e P (bs.map read) (bs.flatMap (fun b => ',' :: text b) ++ [e.close]) := by
  induction bs with
  | nil => exact .close gap_nil
  | cons b bs ih =>
    have more := ih fun c hc => h c (List.mem_cons_of_mem b hc)
    rw [List.flatMap_cons, List.append_assoc]
    exact .next gap_nil (.of (h b List.mem_cons_self)) more

/-- Items in a row, each but the first after its comma. -/
theorem items_flatMap {b : β} {bs : List β} (h : ∀ c ∈ b :: bs, P (read c) (text c)) :
    Items e P ((b :: bs).map read)
      ((text b ++ bs.flatMap fun c => ',' :: text c) ++ [e.close]) := by
  have more := more_flatMap e text read fun c hc => h c (List.mem_cons_of_mem b hc)
  rw [List.append_assoc]
  exact .listed (.of (h b List.mem_cons_self)) more

end Lists

section Written

variable {P : Value → List Char → Prop}

theorem items_elements {vs : List Value} (h : ∀ v ∈ vs, P v.inOrder v.chars) :
    Items .array P (Value.inOrderElements vs) (Value.elementChars vs ++ [']']) := by
  cases vs with
  | nil => exact .empty gap_nil
  | cons v vs =>
    rw [Value.elementChars, Value.moreElements_eq_flatMap, Value.inOrderElements_eq_map]
    exact items_flatMap .array Value.chars Value.inOrder h

theorem items_members {ms : List (String × Value)} (h : ∀ m ∈ ms, P m.2.inOrder m.2.chars) :
    Items .object (Member P) (Value.inOrderMembers ms) (Value.memberChars ms ++ ['}']) := by
  have member : ∀ m ∈ ms, Member P (m.1, m.2.inOrder) (Value.memberText m) := by
    intro m hm
    have spelled := Member.mk (quotes_escape m.1.toList) gap_nil (.of (h m hm))
    rwa [String.ofList_toList] at spelled
  cases ms with
  | nil => exact .empty gap_nil
  | cons m ms =>
    rw [Value.memberChars, Value.moreMembers_eq_flatMap, Value.inOrderMembers_eq_map]
    exact items_flatMap .object Value.memberText _ member

end Written

/-! ## The compact text spells the value -/

/-- What is no array and no object is spelled alike at every depth. -/
theorem Spelled.of_scalar {v : Value} {body : List Char} (h : ∀ texts, SpelledWith texts v body)
    (depth : Nat) : Spelled depth v body := by
  cases depth with
  | zero => exact h none
  | succ depth => exact h (some (Spelled depth))

mutual

/-- The compact text of a value spells it with its members in order, and with as much nesting as the
value has. -/
theorem spelled_inOrder (v : Value) (integral : v.Integral) (depth : Nat)
    (fits : v.nesting ≤ depth) : Spelled depth v.inOrder v.chars := by
  cases v with
  | null => exact .of_scalar (fun _ => .null) depth
  | bool b =>
    cases b with
    | true => exact .of_scalar (fun _ => .boolTrue) depth
    | false => exact .of_scalar (fun _ => .boolFalse) depth
  | number n =>
    obtain ⟨w, rfl⟩ := integral
    exact .of_scalar (fun _ => .number (spells_whole w)) depth
  | string s =>
    refine .of_scalar (fun texts => ?_) depth
    have spelled : SpelledWith texts (.string (String.ofList s.toList)) _ :=
      .string (quotes_escape s.toList)
    rwa [String.ofList_toList] at spelled
  | array vs =>
    rw [Value.nesting] at fits
    obtain ⟨depth, rfl⟩ := Nat.exists_eq_add_of_lt fits
    have inner := spelled_elements vs integral _ (Nat.le_add_right _ depth)
    rw [Value.chars_array]
    exact SpelledWith.array rfl (items_elements inner)
  | object ms =>
    rw [Value.nesting] at fits
    obtain ⟨depth, rfl⟩ := Nat.exists_eq_add_of_lt fits
    have inner := spelled_members ms integral _ (Nat.le_add_right _ depth)
    rw [Value.chars_object]
    exact SpelledWith.object rfl (items_members inner)

theorem spelled_elements (vs : List Value) (integral : Value.IntegralElements vs) (depth : Nat)
    (fits : Value.nestingElements vs ≤ depth) : ∀ v ∈ vs, Spelled depth v.inOrder v.chars := by
  match vs with
  | [] => exact fun v hv => absurd hv List.not_mem_nil
  | v :: vs =>
    have first := spelled_inOrder v integral.1 depth (by
      exact Nat.le_trans (Nat.le_max_left ..) fits)
    have later := spelled_elements vs integral.2 depth (by
      exact Nat.le_trans (Nat.le_max_right ..) fits)
    exact List.forall_mem_cons.mpr ⟨first, later⟩

theorem spelled_members (ms : List (String × Value)) (integral : Value.IntegralMembers ms)
    (depth : Nat) (fits : Value.nestingMembers ms ≤ depth) :
    ∀ m ∈ ms, Spelled depth m.2.inOrder m.2.chars := by
  match ms with
  | [] => exact fun m hm => absurd hm List.not_mem_nil
  | (k, v) :: ms =>
    have first := spelled_inOrder v integral.1 depth (by
      exact Nat.le_trans (Nat.le_max_left ..) fits)
    have later := spelled_members ms integral.2 depth (by
      exact Nat.le_trans (Nat.le_max_right ..) fits)
    exact List.forall_mem_cons.mpr ⟨first, later⟩

end

/-- The compact text of a value that has its members in order spells the value. -/
theorem spelled_chars (v : Value) (ordered : v.Ordered) (integral : v.Integral) (depth : Nat)
    (fits : v.nesting ≤ depth) : Spelled depth v v.chars := by
  have spelled := spelled_inOrder v integral depth fits
  rwa [v.inOrder_eq_self ordered] at spelled

end Reprint.Reader

namespace Reprint

open Reprint.Layout
open Reprint.Reader

/-- What a printer makes of the compact text of a value holds the value with members in order. -/
theorem parse_print_text {v : Value} (integral : v.Integral) (fits : v.nesting ≤ 127) {o : Options}
    (gap : Gap o.indent.toList) : parse (o.print v.text) = .ok v.inOrder := by
  have spelled : Spelled maxDepth v.inOrder v.chars := spelled_inOrder v integral maxDepth fits
  have holds : Holds v.inOrder v.text.toList := by
    rw [Value.text, String.toList_ofList]
    exact ⟨v.chars, [], .of spelled, gap_nil, (List.append_nil _).symm⟩
  exact parse_eq_ok_iff.mpr (holds_print gap holds)

/-- A value of integers that is not nested too deeply comes back from its compact text, from its
pretty text, and from what a printer makes of it with white space for indentation. -/
theorem parse_rendered {v : Value} (ordered : v.Ordered) (integral : v.Integral)
    (fits : v.nesting ≤ 127) :
    (render v >>= parse) = .ok v ∧ (renderPretty v >>= parse) = .ok v ∧
      ∀ o : Options, Gap o.indent.toList → (renderWith o v >>= parse) = .ok v := by
  have spelled : Spelled maxDepth v v.chars := spelled_chars v ordered integral maxDepth fits
  have holds : Holds v v.text.toList := by
    rw [Value.text, String.toList_ofList]
    exact ⟨v.chars, [], .of spelled, gap_nil, (List.append_nil _).symm⟩
  have recommended : Gap Options.recommended.indent.toList := List.all_eq_true.mp rfl
  refine ⟨?_, ?_, fun o gap => ?_⟩
  · exact parse_eq_ok_iff.mpr holds
  · exact parse_eq_ok_iff.mpr (holds_prettify recommended _ holds)
  · exact parse_eq_ok_iff.mpr (holds_print gap holds)

/-- Both ends of the range of integers, a name that is empty, and a text of a quotation mark, a
backslash, a control character and a line end. -/
theorem parse_rendered_bounds :
    let v := Value.object
      [("", .string "\"\\\x01\n"),
        ("a", .array [.number (.whole ⟨-9223372036854775808, by decide, by decide⟩),
          .number (.whole ⟨18446744073709551615, by decide, by decide⟩), .object []])]
    let o : Options := ⟨.pretty, "\t\r", .crlf⟩
    v.Ordered ∧ v.Integral ∧ v.nesting ≤ 127 ∧ Gap o.indent.toList ∧
      (render v >>= parse) = .ok v ∧ (renderWith o v >>= parse) = .ok v := by
  intro v o
  have ordered : v.Ordered := ⟨by decide, trivial, ⟨trivial, trivial, ⟨by decide, trivial⟩, trivial⟩, trivial⟩
  have integral : v.Integral := ⟨trivial, ⟨⟨_, rfl⟩, ⟨_, rfl⟩, trivial, trivial⟩, trivial⟩
  have fits : v.nesting ≤ 127 := by decide
  have gap : Gap o.indent.toList := List.all_eq_true.mp (by decide)
  obtain ⟨compact, _, printed⟩ := parse_rendered ordered integral fits
  exact ⟨ordered, integral, fits, gap, compact, printed o gap⟩

end Reprint
