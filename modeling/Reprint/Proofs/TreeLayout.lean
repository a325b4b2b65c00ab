import Reprint.Document
import Reprint.Proofs.Meaning
import Reprint.Proofs.Rendered

set_option autoImplicit false

/-!
# The pretty form of a tree

The pretty form is made of characters, without a tree.  For the compact text of a value it is also
what a printer makes that goes through the value itself: the layout of a value is put together from
the layouts of its elements and members.  The layout still has to hand on, from each value to the
next, whether the last bracket was an opening one, since the comma after an inner array is taken for
one of an object.
-/

namespace Reprint.Layout

open Reprint.Text
open Reprint.Reader

/-! ## Layouts -/

/-- A text, and whether the last bracket up to its end is an opening one. -/
structure Laid where
  text : List Char
  inArray : Bool
  deriving DecidableEq, Repr

section Layout

variable (unit : String) (eol : Eol)

/-- A comma and what is put after it. -/
def separator (inArray : Bool) (level : Nat) : List Char :=
  if inArray then [',', ' '] else ',' :: lineBreak unit eol level

mutual

/-- The layout of a value at a level, when the last bracket before it was an opening one or not.
What is no array and no object is copied. -/
def layout (level : Nat) (inArray : Bool) : Value → Laid
  | .array vs => ⟨['[', ' '] ++ (layoutElements level true vs).text ++ [' ', ']'], false⟩
  | .object ms =>
    let body := layoutMembers (level + 1) inArray ms
    ⟨'{' :: lineBreak unit eol (level + 1) ++ body.text ++ lineBreak unit eol level ++ ['}'],
      body.inArray⟩
  | v => ⟨v.chars, inArray⟩

/-- The layout of the elements of an array: each is told by the one before what the last bracket
was. -/
def layoutElements (level : Nat) (inArray : Bool) : List Value → Laid
  | [] => ⟨[], inArray⟩
  | [v] => layout level inArray v
  | v :: w :: vs =>
    let first := layout level inArray v
    let later := layoutElements level first.inArray (w :: vs)
    ⟨first.text ++ separator unit eol first.inArray level ++ later.text, later.inArray⟩

/-- The layout of the members of an object, with the last bracket handed on in the same way. -/
def layoutMembers (level : Nat) (inArray : Bool) : List (String × Value) → Laid
  | [] => ⟨[], inArray⟩
  | [(k, v)] =>
    let item := layout level inArray v
    ⟨Text.quoted k.toList ++ [' ', ':', ' '] ++ item.text, item.inArray⟩
  | (k, v) :: m :: ms =>
    let item := layout level inArray v
    let later := layoutMembers level item.inArray (m :: ms)
    ⟨Text.quoted k.toList ++ [' ', ':', ' '] ++ item.text ++
      separator unit eol item.inArray level ++ later.text, later.inArray⟩

end

end Layout

/-! ## What single tokens are printed as -/

section Tokens

variable (unit : String) (eol : Eol) (level : Nat) (inArray : Bool)

theorem prints_openArray :
    prettyPass.Prints unit eol ⟨.start, level, inArray⟩ ['['] ['[', ' '] ⟨.start, level, true⟩ :=
  .char rfl rfl

theorem prints_closeArray :
    prettyPass.Prints unit eol ⟨.start, level, inArray⟩ [']'] [' ', ']'] ⟨.start, level, false⟩ :=
  .char rfl rfl

theorem prints_openObject :
    prettyPass.Prints unit eol ⟨.start, level, inArray⟩ ['{']
      ('{' :: lineBreak unit eol (level + 1)) ⟨.start, level + 1, inArray⟩ := by
  apply Pass.Prints.char
  · show '{' :: (lineBreak unit eol (level + 1) ++ []) = _
    rw [List.append_nil]
  · rfl

theorem prints_closeObject :
    prettyPass.Prints unit eol ⟨.start, level + 1, inArray⟩ ['}']
      (lineBreak unit eol level ++ ['}']) ⟨.start, level, inArray⟩ :=
  .char rfl rfl

theorem prints_comma :
    prettyPass.Prints unit eol ⟨.start, level, inArray⟩ [',']
      (separator unit eol inArray level) ⟨.start, level, inArray⟩ := by
  apply Pass.Prints.char
  · cases inArray with
    | true => rfl
    | false =>
      show ',' :: (lineBreak unit eol level ++ []) = _
      rw [List.append_nil]
      rfl
  · rfl

/-- Two states with the same scanner that are settled alike. -/
theorem Indenting.eq_of_settled {s s' : Indenting} (scanner : s.scanner = s'.scanner)
    (settled : { s with scanner := .start } = { s' with scanner := .start }) : s = s' := by
  cases s
  cases s'
  cases settled
  cases scanner
  rfl

/-- A literal is copied, and says nothing about the level and the last bracket. -/
theorem prints_literal {content : List Char} (h : Escaped content) :
    prettyPass.Prints unit eol ⟨.start, level, inArray⟩ ('"' :: content ++ ['"'])
      ('"' :: content ++ ['"']) ⟨.start, level, inArray⟩ := by
  obtain ⟨within, outside⟩ := Scanner.within_literal h
  obtain ⟨printed, settled⟩ := prettyPass_lexical.printed_within
    (s := ⟨.start, level, inArray⟩) within
  refine ⟨printed, ?_⟩
  exact Indenting.eq_of_settled ((prettyPass_lexical.scan_after _ _).trans outside) settled

theorem prints_quoted (cs : List Char) :
    prettyPass.Prints unit eol ⟨.start, level, inArray⟩ (Text.quoted cs) (Text.quoted cs)
      ⟨.start, level, inArray⟩ :=
  prints_literal unit eol level inArray (quotes_escape cs).escaped

theorem prints_name (cs : List Char) :
    prettyPass.Prints unit eol ⟨.start, level, inArray⟩ (Text.quoted cs ++ [':'])
      (Text.quoted cs ++ [' ', ':', ' ']) ⟨.start, level, inArray⟩ :=
  (prints_quoted unit eol level inArray cs).append (.char rfl rfl)

/-- So are ordinary characters. -/
theorem prints_ordinary {text : List Char} (h : ∀ c ∈ text, isOrdinary c = true) :
    prettyPass.Prints unit eol ⟨.start, level, inArray⟩ text text ⟨.start, level, inArray⟩ := by
  induction text with
  | nil => exact .nil
  | cons c text ih =>
    obtain ⟨quote, backslash, visible, unmarked⟩ := isOrdinary_iff.mp (h c List.mem_cons_self)
    simp only [isMark, takesBefore, takesAfter, Bool.or_eq_false_iff, beq_eq_false_iff_ne,
      ne_eq] at unmarked
    have outside : Scanner.start.inLiteral c = false := Scanner.inLiteral_eq_false rfl quote
    have next : Scanner.start.next c = .start := Scanner.next_ordinary quote backslash
    have first : prettyPass.Prints unit eol ⟨.start, level, inArray⟩ [c] [c]
        ⟨.start, level, inArray⟩ := by
      apply Pass.Prints.char
      · simp [Pass.put, prettyPass, Indenting.writes, Write.chars, outside, visible, unmarked]
      · simp [prettyPass, Indenting.next, Indenting.nextLevel, Indenting.nextInArray, outside, next,
          unmarked]
    exact first.append (ih fun d hd => h d (List.mem_cons_of_mem c hd))

end Tokens

/-! ## The pretty form is the layout -/

section Values

variable (unit : String) (eol : Eol)

mutual

/-- The compact text of a value is printed as the layout of the value, and leaves the level as it
was. -/
theorem prints_value (v : Value) (level : Nat) (inArray : Bool) :
    prettyPass.Prints unit eol ⟨.start, level, inArray⟩ v.chars
      (layout unit eol level inArray v).text
      ⟨.start, level, (layout unit eol level inArray v).inArray⟩ := by
  cases v with
  | null => exact prints_ordinary unit eol level inArray (List.all_eq_true.mp rfl)
  | bool b =>
    cases b with
    | true => exact prints_ordinary unit eol level inArray (List.all_eq_true.mp rfl)
    | false => exact prints_ordinary unit eol level inArray (List.all_eq_true.mp rfl)
  | number n =>
    apply prints_ordinary
    intro c hc
    exact isOrdinary_of_isNumeral (n.numeral_text c hc)
  | string s => exact prints_quoted unit eol level inArray s.toList
  | array vs =>
    have opened := prints_openArray unit eol level inArray
    have items := prints_elements vs level true
    have closed := prints_closeArray unit eol level (layoutElements unit eol level true vs).inArray
    rw [Value.chars_array]
    exact (opened.append items).append closed
  | object ms =>
    have opened := prints_openObject unit eol level inArray
    have items := prints_members ms (level + 1) inArray
    have closed := prints_closeObject unit eol level
      (layoutMembers unit eol (level + 1) inArray ms).inArray
    have whole := (opened.append items).append closed
    rw [← List.append_assoc] at whole
    rw [Value.chars_object]
    exact whole

theorem prints_elements (vs : List Value) (level : Nat) (inArray : Bool) :
    prettyPass.Prints unit eol ⟨.start, level, inArray⟩ (Value.elementChars vs)
      (layoutElements unit eol level inArray vs).text
      ⟨.start, level, (layoutElements unit eol level inArray vs).inArray⟩ := by
  match vs with
  | [] => exact .nil
  | [v] =>
    rw [Value.elementChars, Value.moreElements, List.append_nil]
    exact prints_value v level inArray
  | v :: w :: vs =>
    have first := prints_value v level inArray
    have comma := prints_comma unit eol level (layout unit eol level inArray v).inArray
    have later := prints_elements (w :: vs) level (layout unit eol level inArray v).inArray
    have whole := (first.append comma).append later
    rw [List.append_assoc] at whole
    rw [Value.elementChars_cons_cons]
    exact whole

theorem prints_members (ms : List (String × Value)) (level : Nat) (inArray : Bool) :
    prettyPass.Prints unit eol ⟨.start, level, inArray⟩ (Value.memberChars ms)
      (layoutMembers unit eol level inArray ms).text
      ⟨.start, level, (layoutMembers unit eol level inArray ms).inArray⟩ := by
  match ms with
  | [] => exact .nil
  | [(k, v)] =>
    have only := (prints_name unit eol level inArray k.toList).append (prints_value v level inArray)
    rw [List.append_assoc, List.singleton_append] at only
    rw [Value.memberChars, Value.moreMembers, List.append_nil]
    exact only
  | (k, v) :: m :: ms =>
    have name := prints_name unit eol level inArray k.toList
    have item := prints_value v level inArray
    have comma := prints_comma unit eol level (layout unit eol level inArray v).inArray
    have later := prints_members (m :: ms) level (layout unit eol level inArray v).inArray
    have whole := ((name.append item).append comma).append later
    simp only [List.append_assoc, List.singleton_append] at whole
    rw [Value.memberChars_cons_cons]
    simpa only [layoutMembers, List.append_assoc] using whole

end

/-- Printing the compact text of a value in the pretty form is laying out the value: from the
outside, at the first level, with no bracket behind. -/
theorem prettify_render (v : Value) :
    (fun text => prettify text unit eol) <$> render v =
      .ok (String.ofList (layout unit eol 0 false v).text) := by
  have printed : prettify v.text unit eol = String.ofList (layout unit eol 0 false v).text := by
    apply String.toList_injective
    rw [prettify_toList, Value.text, String.toList_ofList, String.toList_ofList]
    exact (prints_value unit eol v 0 false).printed
  exact congrArg Except.ok printed

end Values

/-- The comma after an inner array is laid out like one of an object. -/
example :
    let v := Value.array [.bool true, .array [], .object [("a", .null)], .null]
    (layout "\t" .lf 0 false v).text =
      "[ true, [  ],\n\x7b\n\t\"a\" : null\n\x7d,\nnull ]".toList := by
  decide

end Reprint.Layout
