import Mathlib
import Reprint.Proofs.Balance
import Reprint.Proofs.Positions
import Reprint.Proofs.TreeLayout

set_option autoImplicit false

/-!
# Arrays on one line

The pretty form puts an array on one line as long as the last bracket was an opening one.  It keeps
no count of the arrays that are open: after an inner array has been closed, the commas of the outer
one break the line.  So an array without objects stays on one line exactly if each array in it has
inner arrays at its end only.
-/

namespace Reprint

namespace Value

mutual

/-- The value is not an object and no object is inside it. -/
def objectFree : Value → Bool
  | .array vs => objectFreeElements vs
  | .object _ => false
  | _ => true

/-- No object is among the values or inside them. -/
def objectFreeElements : List Value → Bool
  | [] => true
  | v :: vs => v.objectFree && objectFreeElements vs

end

mutual

/-- No element of an array is an array but the last one, and so for all arrays inside. -/
def arraysLast : Value → Bool
  | .array vs => arraysLastElements vs
  | _ => true

/-- Of the values only the last is an array, and so for all arrays inside them. -/
def arraysLastElements : List Value → Bool
  | [] => true
  | v :: vs => v.arraysLast && (vs.isEmpty || !v.isOf .array) && arraysLastElements vs

end

end Value

namespace Layout

open Reprint.Text
open Reprint.Reader

/-! ## Commas -/

/-- Every comma outside literals is met while the last bracket is an opening one. -/
def commasInArrays (s : Indenting) : List Char → Bool
  | [] => true
  | c :: text => (s.scanner.inLiteral c || c != ',' || s.inArray) && commasInArrays (s.next c) text

theorem commasInArrays_append (s : Indenting) (t u : List Char) :
    commasInArrays s (t ++ u) =
      (commasInArrays s t && commasInArrays (prettyPass.after s t) u) := by
  induction t generalizing s with
  | nil => rfl
  | cons c t ih =>
    rw [List.cons_append, commasInArrays, ih, commasInArrays, Bool.and_assoc]
    rfl

/-- Characters that may stand in an array without objects: in literals all but line ends, and
outside literals no braces and no colons. -/
def InArrays (s : Scanner) (c : Char) : Prop :=
  if s.inLiteral c then c ≠ '\n' else c ≠ '{' ∧ c ≠ '}' ∧ c ≠ ':'

instance (s : Scanner) (c : Char) : Decidable (InArrays s c) :=
  inferInstanceAs (Decidable (if s.inLiteral c then c ≠ '\n' else c ≠ '{' ∧ c ≠ '}' ∧ c ≠ ':'))

/-- A part of such an array.  If the last bracket before it is an opening one or not, as `before`
says, then so it is at its end, as `after` says, and its commas are all met in arrays or not. -/
structure Lined (before : Bool) (text : List Char) (after flat : Bool) : Prop where
  plain : Scanner.start.Each InArrays text
  reaches : prettyPass.after ⟨.start, 0, before⟩ text = ⟨.start, 0, after⟩
  commas : commasInArrays ⟨.start, 0, before⟩ text = flat

namespace Lined

theorem append {a b c p q : Bool} {t u : List Char} (ht : Lined a t b p) (hu : Lined b u c q) :
    Lined a (t ++ u) c (p && q) where
  plain := by
    have scanner := prettyPass_lexical.scan_after ⟨.start, 0, a⟩ t
    rw [ht.reaches] at scanner
    refine (Scanner.each_append .start t u).mpr ⟨ht.plain, ?_⟩
    rw [← scanner]
    exact hu.plain
  reaches := by rw [Pass.after_append, ht.reaches, hu.reaches]
  commas := by rw [commasInArrays_append, ht.reaches, ht.commas, hu.commas]

/-- A text of characters that mean nothing to the scanner and nothing in an array. -/
theorem of_class {q : Char → Bool} {text : List Char} (h : ∀ c ∈ text, q c = true)
    (none : ['"', '\\', '{', '}', ':', '[', ']', ','].all (fun d => !q d) = true) (a : Bool) :
    Lined a text a true := by
  induction text with
  | nil => exact ⟨trivial, rfl, rfl⟩
  | cons c text ih =>
    have other := ne_of_class none (h c List.mem_cons_self)
    simp only [List.forall_mem_cons] at other
    obtain ⟨quote, backslash, opening, closing, colon, left, right, comma, _⟩ := other
    have outside : Scanner.start.inLiteral c = false := Scanner.inLiteral_eq_false rfl quote
    have next : Scanner.start.next c = .start := Scanner.next_ordinary quote backslash
    have first : Lined a [c] a true := by
      refine ⟨⟨?_, trivial⟩, ?_, ?_⟩
      · simp [InArrays, outside, opening, closing, colon]
      · simp [prettyPass, Pass.after, Indenting.next, Indenting.nextLevel, Indenting.nextInArray,
          outside, next, opening, closing, left, right]
      · simp [commasInArrays, comma]
    exact first.append (ih fun d hd => h d (List.mem_cons_of_mem c hd))

/-- Within literals no comma counts. -/
theorem commas_within {s : Indenting} {text : List Char} (within : s.scanner.Within text) :
    commasInArrays s text = true := by
  induction text generalizing s with
  | nil => rfl
  | cons c text ih =>
    have first : s.scanner.inLiteral c = true := within.1
    rw [commasInArrays, first, ih (s := s.next c) within.2]
    rfl

theorem literal {cs content : List Char} (h : Quotes cs content) (a : Bool) :
    Lined a ('"' :: content ++ ['"']) a true := by
  have within := (Scanner.within_literal h.escaped).1
  refine ⟨?_, ?_, commas_within within⟩
  · refine (Scanner.each_iff _ _).mpr fun before c later split => ?_
    have literal := (Scanner.each_iff _ _).mp within before c later split
    rw [InArrays, if_pos literal]
    exact h.ne_feed c (by simp [split])
  · exact (prints_literal "" .lf 0 a h.escaped).after

theorem openArray (a : Bool) : Lined a ['['] true true :=
  ⟨⟨by decide, trivial⟩, rfl, rfl⟩

theorem closeArray (a : Bool) : Lined a [']'] false true :=
  ⟨⟨by decide, trivial⟩, rfl, rfl⟩

theorem comma (a : Bool) : Lined a [','] a a :=
  ⟨⟨by decide, trivial⟩, rfl, by cases a <;> rfl⟩

end Lined

/-! ## Texts for arrays -/

/-- Behind a value that is met in an array or not, the last bracket is an opening one only if the
value has none. -/
def lastOpens (v : Value) (a : Bool) : Bool := !v.isOf .array && a

theorem lined_gap {gap : List Char} (h : Gap gap) (a : Bool) : Lined a gap a true :=
  .of_class h rfl a

section Parts

variable {P : Value → List Char → Prop}
variable (hP : ∀ v text, P v text → v.objectFree = true →
  ∀ a, Lined a text (lastOpens v a) v.arraysLast)

include hP

theorem lined_led {v : Value} {text : List Char} (h : Led P v text) (free : v.objectFree = true)
    (a : Bool) : Lined a text (lastOpens v a) v.arraysLast := by
  obtain ⟨gap, body, hgap, hbody, rfl⟩ := h
  exact (lined_gap hgap a).append (hP v body hbody free a)

/-- What follows an element begins with a comma, unless it closes the array.  Behind an inner array
that comma breaks the line. -/
theorem lined_more {vs : List Value} {text : List Char} (h : More .array P vs text)
    (free : Value.objectFreeElements vs = true) (a : Bool) :
    Lined a text false ((vs.isEmpty || a) && Value.arraysLastElements vs) := by
  induction h generalizing a with
  | close hgap => exact (lined_gap hgap a).append (.closeArray a)
  | @next gap item more v vs hgap hitem _ ih =>
    obtain ⟨first, later⟩ := Bool.and_eq_true_iff.mp free
    have rest := (lined_led hP hitem first a).append (ih later (lastOpens v a))
    have whole := (lined_gap hgap a).append ((Lined.comma a).append rest)
    have same : (true && (a && (v.arraysLast &&
        ((vs.isEmpty || lastOpens v a) && Value.arraysLastElements vs)))) =
          (((v :: vs).isEmpty || a) && Value.arraysLastElements (v :: vs)) := by
      cases a with
      | false => rfl
      | true => simp [lastOpens, Value.arraysLastElements, Bool.and_assoc]
    rw [← same]
    exact whole

theorem lined_items {vs : List Value} {text : List Char} (h : Items .array P vs text)
    (free : Value.objectFreeElements vs = true) :
    Lined true text false (Value.arraysLastElements vs) := by
  cases h with
  | empty hgap => exact (lined_gap hgap true).append (.closeArray true)
  | @listed item more v vs hitem hmore =>
    obtain ⟨first, later⟩ := Bool.and_eq_true_iff.mp free
    have rest := lined_more hP hmore later (lastOpens v true)
    have whole := (lined_led hP hitem first true).append rest
    have same : (v.arraysLast &&
        ((vs.isEmpty || lastOpens v true) && Value.arraysLastElements vs)) =
          Value.arraysLastElements (v :: vs) := by
      simp [lastOpens, Value.arraysLastElements, Bool.and_assoc]
    rw [← same]
    exact whole

end Parts

theorem lined_spelledWith {texts : Option (Value → List Char → Prop)}
    (hP : ∀ P, texts = some P → ∀ v text, P v text → v.objectFree = true →
      ∀ a, Lined a text (lastOpens v a) v.arraysLast)
    {v : Value} {text : List Char} (h : SpelledWith texts v text) (free : v.objectFree = true)
    (a : Bool) : Lined a text (lastOpens v a) v.arraysLast := by
  cases h with
  | null | boolTrue | boolFalse =>
    exact .of_class (q := Char.isAlpha) (List.all_eq_true.mp rfl) rfl a
  | number spells => exact .of_class spells.numeral rfl a
  | string quotes => exact .literal quotes a
  | array texts hitems =>
    exact (Lined.openArray a).append (lined_items (hP _ texts) hitems free)
  | object => cases free

theorem lined_spelled {depth : Nat} {v : Value} {text : List Char} (h : Spelled depth v text)
    (free : v.objectFree = true) (a : Bool) : Lined a text (lastOpens v a) v.arraysLast := by
  induction depth generalizing v text a with
  | zero =>
    refine lined_spelledWith ?_ (show SpelledWith none v text from h) free a
    intro P none
    cases none
  | succ depth ih =>
    refine lined_spelledWith ?_ (show SpelledWith (some (Spelled depth)) v text from h) free a
    intro P inner v text spelled free a
    cases inner
    exact ih spelled free a

/-! ## What is written -/

/-- What is written in an array without objects for the character that stands behind `before`. -/
def linePiece (eol : Eol) (before : List Char) (c : Char) : List Char :=
  if isLiteral before c then [c]
  else if c = '[' then ['[', ' ']
  else if c = ']' then [' ', ']']
  else if c = ',' then if inArray before then [',', ' '] else [','] ++ eol.text.toList
  else if isBlank c then []
  else [c]

section Pieces

variable {text : List Char} (plain : Scanner.start.Each InArrays text)

include plain

theorem inArrays_of_mem {before : List Char} {c : Char} (h : (before, c) ∈ positions text) :
    if isLiteral before c then c ≠ '\n' else c ≠ '{' ∧ c ≠ '}' ∧ c ≠ ':' := by
  obtain ⟨later, split⟩ := mem_positions_iff.mp h
  have here := (Scanner.each_iff _ _).mp plain before c later split
  rwa [InArrays, Scanner.inLiteral_after] at here

/-- Without braces the level stays zero. -/
theorem level_eq_zero {before : List Char} {c : Char} (h : (before, c) ∈ positions text) :
    (level (before ++ [c])).toNat = 0 := by
  obtain ⟨later, split⟩ := mem_positions_iff.mp h
  rw [List.append_cons] at split
  have braceless : Scanner.start.Each Braceless text := by
    refine plain.imp fun s c allowed outside => ?_
    rw [InArrays, outside] at allowed
    exact ⟨allowed.1, allowed.2.1⟩
  rw [split] at braceless
  have level := level_braceless (s := .start) ((Scanner.each_append _ _ _).mp braceless).1
  rwa [prettyPass_after_start] at level

theorem piece_eq_linePiece (unit : String) (eol : Eol) {before : List Char} {c : Char}
    (h : (before, c) ∈ positions text) : piece unit eol before c = linePiece eol before c := by
  have allowed := inArrays_of_mem plain h
  have level := level_eq_zero plain h
  unfold piece linePiece
  split
  · rfl
  · next outside =>
    rw [if_neg outside] at allowed
    simp [allowed, level, lineBreak, indentation]

/-- Only a comma behind an inner array breaks the line. -/
theorem break_mem_linePiece_iff (eol : Eol) {before : List Char} {c : Char}
    (h : (before, c) ∈ positions text) :
    '\n' ∈ linePiece eol before c ↔
      isLiteral before c = false ∧ c = ',' ∧ inArray before = false := by
  have allowed := inArrays_of_mem plain h
  have ends : '\n' ∈ eol.text.toList := by
    cases eol with
    | lf => simp [Eol.text]
    | crlf => simp [Eol.text]
  unfold linePiece
  split
  · next literal =>
    rw [if_pos literal] at allowed
    simp [literal, Ne.symm allowed]
  next outside =>
  rw [Bool.not_eq_true] at outside
  split
  · next opening => simp [opening]
  split
  · next closing => simp [closing]
  split
  · next comma =>
    subst comma
    cases inArray before with
    | true => simp
    | false => simp [outside, ends]
  next other =>
  split
  · simp [other]
  · next visible =>
    have notEnd : c ≠ '\n' := by
      intro same
      subst same
      exact visible rfl
    simp [other, Ne.symm notEnd]

theorem break_notMem_iff (eol : Eol) :
    '\n' ∉ ((positions text).map fun p => linePiece eol p.1 p.2).flatten ↔
      ∀ p ∈ positions text, isLiteral p.1 p.2 = false → p.2 = ',' → inArray p.1 = true := by
  constructor
  · intro unbroken p hp outside comma
    cases array : inArray p.1 with
    | true => rfl
    | false =>
      have within := (break_mem_linePiece_iff plain eol hp).mpr ⟨outside, comma, array⟩
      exact absurd (List.mem_flatten.mpr ⟨_, List.mem_map_of_mem hp, within⟩) unbroken
  · intro arrays broken
    obtain ⟨chars, hchars, within⟩ := List.mem_flatten.mp broken
    obtain ⟨p, hp, rfl⟩ := List.mem_map.mp hchars
    obtain ⟨outside, comma, array⟩ := (break_mem_linePiece_iff plain eol hp).mp within
    rw [arrays p hp outside comma] at array
    cases array

end Pieces

theorem commasInArrays_iff (text : List Char) :
    commasInArrays .start text = true ↔
      ∀ p ∈ positions text, isLiteral p.1 p.2 = false → p.2 = ',' → inArray p.1 = true := by
  induction text using List.reverseRecOn with
  | nil => simp [commasInArrays, positions]
  | append_singleton text c ih =>
    rw [commasInArrays_append, Bool.and_eq_true, ih, positions_concat, List.forall_mem_append,
      List.forall_mem_singleton, prettyPass_after_start]
    refine and_congr_right fun _ => ?_
    simp only [commasInArrays, Scanner.inLiteral_after, Bool.and_true, Bool.or_eq_true, bne_iff_ne]
    cases isLiteral text c with
    | true => simp
    | false =>
      by_cases comma : c = ','
      · simp [comma]
      · simp [comma]

end Layout

open Layout
open Reader
open Text

/-- In the pretty form of a value without objects every bracket stands beside a space, as on one
line.  The commas are followed by a space, too, and no line is broken, exactly if each array in the
value has inner arrays at its end only. -/
theorem prettify_array {text : String} {v : Value} (parsed : parse text = .ok v)
    (free : v.objectFree = true) (unit : String) (eol : Eol) :
    (prettify text unit eol).toList =
        ((positions text.toList).map fun p => linePiece eol p.1 p.2).flatten ∧
      ((∀ p ∈ positions text.toList, isLiteral p.1 p.2 = false → p.2 = ',' → inArray p.1 = true) ↔
        v.arraysLast = true) ∧
      ('\n' ∉ (prettify text unit eol).toList ↔ v.arraysLast = true) := by
  obtain ⟨body, gap, ⟨gap', inner, hgap', spelled, rfl⟩, hgap, split⟩ := parse_eq_ok_iff.mp parsed
  have lined := (lined_gap hgap' false).append
    ((lined_spelled spelled free false).append (lined_gap hgap _))
  rw [← List.append_assoc, ← split, Bool.true_and, Bool.and_true] at lined
  have pieces : (prettify text unit eol).toList =
      ((positions text.toList).map fun p => linePiece eol p.1 p.2).flatten := by
    rw [prettify_toList, printed_start]
    refine congrArg _ (List.map_congr_left fun p hp => ?_)
    exact piece_eq_linePiece lined.plain unit eol hp
  have commas : (∀ p ∈ positions text.toList, isLiteral p.1 p.2 = false → p.2 = ',' →
      inArray p.1 = true) ↔ v.arraysLast = true := by
    rw [← commasInArrays_iff, ← lined.commas]
    rfl
  refine ⟨pieces, commas, ?_⟩
  rw [← commas, pieces]
  exact break_notMem_iff lined.plain eol

/-- Inner arrays at the end, with a line end for the unit: nothing is broken. -/
theorem prettify_array_nested :
    let text := "[true, [null, [\"],[\"]]]"
    let v := Value.array [.bool true, .array [.null, .array [.string "],["]]]
    parse text = .ok v ∧ v.objectFree = true ∧ v.arraysLast = true ∧
      '\n' ∉ (prettify text "\n" .crlf).toList := by
  intro text v
  have parsed : parse text = .ok v := by cbv
  exact ⟨parsed, rfl, rfl, (prettify_array parsed rfl "\n" .crlf).2.2.mpr rfl⟩

/-- An inner array before another element breaks the line, though the value has no objects. -/
theorem prettify_array_broken :
    ∃ v, parse "[[1],2]" = .ok v ∧ v.kind = .array ∧ v.objectFree = true ∧
      prettify "[[1],2]" "  " .lf = "[ [ 1 ],\n2 ]" ∧
      '\n' ∈ (prettify "[[1],2]" "  " .lf).toList := by
  have printed : prettify "[[1],2]" "  " .lf = "[ [ 1 ],\n2 ]" := by cbv
  refine ⟨.array [.array [.number (.whole ⟨1, by decide, by decide⟩)],
    .number (.whole ⟨2, by decide, by decide⟩)], by cbv, rfl, rfl, printed, ?_⟩
  rw [printed]
  simp

end Reprint
