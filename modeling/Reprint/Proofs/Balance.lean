import Mathlib
import Reprint.Proofs.Meaning

set_option autoImplicit false

/-!
# Documents leave the printers where they started

An object is open at a position when it begins on the left of the position and the reader reads it
to an end on the right.  The pretty form counts braces instead, and of the brackets that it has
passed it remembers the last one only.  While it goes over a text that holds a value the two counts
agree and every brace that closes something closes an object, and at the end of the text nothing is
open: no literal, no object and no array.  So texts that hold values can be printed one by one.
-/

namespace Reprint.Reader

open Reprint.Text

/-! ## Open objects -/

/-- The text begins with an object that ends among the last `count` characters of the text. -/
def endsWithin (count : Nat) (text : List Char) : Bool :=
  text.head? == some '{' &&
    match value maxDepth text with
    | .ok (_, rest) => rest.length < count
    | .error _ => false

/-- How many objects begin in `before`, where the scanner stands, and end among the last `count`
characters of the text that goes on with `after`. -/
def openFrom (count : Nat) (s : Scanner) : (before after : List Char) → Nat
  | [], _ => 0
  | c :: before, after =>
    (!s.inLiteral c && endsWithin count (c :: (before ++ after))).toNat +
      openFrom count (s.next c) before after

/-- How many objects are open at the position that divides a text into `before` and `after`. -/
def openObjects (before after : List Char) : Nat := openFrom after.length .start before after

theorem openFrom_append (count : Nat) (s : Scanner) (t u after : List Char) :
    openFrom count s (t ++ u) after =
      openFrom count s t (u ++ after) + openFrom count (s.after t) u after := by
  induction t generalizing s with
  | nil => simp [openFrom]
  | cons c t ih => simp [openFrom, ih, Nat.add_assoc]

/-- Only braces begin objects. -/
theorem endsWithin_eq_false {count : Nat} {c : Char} (h : c ≠ '{') (text : List Char) :
    endsWithin count (c :: text) = false := by
  simp [endsWithin, h]

end Reprint.Reader

namespace Reprint.Layout

open Reprint.Text
open Reprint.Reader

/-! ## Texts that close what they open -/

/-- The text opens and closes objects in pairs: wherever it stands outside literals, the pretty form
is deeper by the objects of the text that are open. -/
structure Nested (text : List Char) : Prop where
  quoted : Wellquoted text
  /-- No object of the text reaches into what follows. -/
  ended : ∀ (count : Nat) (rest : List Char), count ≤ rest.length →
    openFrom count .start text rest = 0
  level : ∀ s : Indenting, s.scanner = .start → ∀ before after rest, text = before ++ after →
    (prettyPass.after s before).level = s.level + openObjects before (after ++ rest)
  /-- A closing brace closes an object. -/
  closes : ∀ before after rest, text = before ++ '}' :: after →
    (Scanner.start.after before).inLiteral '}' = false →
      0 < openObjects before ('}' :: (after ++ rest))

/-- A character that neither opens nor closes an object. -/
def Braceless (s : Scanner) (c : Char) : Prop := s.inLiteral c = false → c ≠ '{' ∧ c ≠ '}'

theorem openFrom_eq_zero {count : Nat} {s : Scanner} {text : List Char}
    (h : s.Each (fun s c => s.inLiteral c = false → c ≠ '{') text) (rest : List Char) :
    openFrom count s text rest = 0 := by
  induction text generalizing s with
  | nil => rfl
  | cons c text ih =>
    have none : (!s.inLiteral c && endsWithin count (c :: (text ++ rest))) = false := by
      cases literal : s.inLiteral c with
      | true => rfl
      | false => exact endsWithin_eq_false (h.1 literal) _
    rw [openFrom, none, ih h.2]
    rfl

theorem openFrom_braceless {count : Nat} {s : Scanner} {text : List Char}
    (h : s.Each Braceless text) (rest : List Char) : openFrom count s text rest = 0 :=
  openFrom_eq_zero (h.imp fun _ _ braceless outside => (braceless outside).1) rest

theorem level_braceless {s : Indenting} {text : List Char} (h : s.scanner.Each Braceless text) :
    (prettyPass.after s text).level = s.level := by
  induction text generalizing s with
  | nil => rfl
  | cons c text ih =>
    have same : (prettyPass.next s c).level = s.level := by
      show s.nextLevel c = s.level
      cases literal : s.scanner.inLiteral c with
      | true => simp [Indenting.nextLevel, literal]
      | false => simp [Indenting.nextLevel, (h.1 literal).1, (h.1 literal).2]
    rw [Pass.after_cons, ih (s := prettyPass.next s c) h.2, same]

/-- A character of two texts in a row belongs to the second or to the first. -/
theorem split_at_char {t u before after : List Char} {c : Char}
    (h : t ++ u = before ++ c :: after) :
    (∃ before', before = t ++ before' ∧ u = before' ++ c :: after) ∨
      ∃ after', t = before ++ c :: after' ∧ after = after' ++ u := by
  rcases List.append_eq_append_iff.mp h with ⟨before', rfl, rfl⟩ | ⟨more, rfl, split⟩
  · exact .inl ⟨before', rfl, rfl⟩
  · rcases List.cons_eq_append_iff.mp split with ⟨rfl, rfl⟩ | ⟨after', rfl, rfl⟩
    · exact .inl ⟨[], by simp, rfl⟩
    · exact .inr ⟨after', rfl, rfl⟩

/-- Only an opening bracket makes the commas behind it those of an array. -/
theorem inArray_plain {s : Indenting} {text : List Char}
    (h : s.scanner.Each (fun s c => s.inLiteral c = false → c ≠ '[') text)
    (outside : s.inArray = false) : (prettyPass.after s text).inArray = false := by
  induction text generalizing s with
  | nil => exact outside
  | cons c text ih =>
    refine ih (s := prettyPass.next s c) h.2 ?_
    show s.nextInArray c = false
    cases literal : s.scanner.inLiteral c with
    | true => simpa [Indenting.nextInArray, literal] using outside
    | false => simp [Indenting.nextInArray, literal, h.1 literal, outside]

namespace Nested

theorem nil : Nested [] where
  quoted := .nil
  ended _ _ _ := rfl
  level s _ before after rest split := by
    obtain ⟨rfl, rfl⟩ := List.nil_eq_append_iff.mp split
    rfl
  closes before after rest split := by simp at split

/-- The level at the end of the text is the level at its beginning. -/
theorem level_after {text : List Char} (h : Nested text) {s : Indenting}
    (rest : s.scanner = .start) : (prettyPass.after s text).level = s.level := by
  rw [h.level s rest text [] [] (List.append_nil text).symm, openObjects, h.ended _ _ (Nat.le_refl _),
    Nat.add_zero]

theorem scanner_after {text : List Char} (h : Nested text) {s : Indenting}
    (rest : s.scanner = .start) : (prettyPass.after s text).scanner = .start :=
  prettyPass_lexical.scan_after_start rest h.quoted

/-- A text that neither opens nor closes objects. -/
theorem of_braceless {text : List Char} (quoted : Wellquoted text)
    (h : Scanner.start.Each Braceless text) : Nested text where
  quoted := quoted
  ended _ rest _ := openFrom_braceless h rest
  level s start before after rest split := by
    subst split
    have h' := ((Scanner.each_append .start before after).mp h).1
    rw [openObjects, openFrom_braceless h', Nat.add_zero]
    rw [← start] at h'
    exact level_braceless h'
  closes before after rest split outside := by
    have here := (Scanner.each_iff .start text).mp h before '}' after split outside
    exact absurd rfl here.2

theorem append {t u : List Char} (ht : Nested t) (hu : Nested u) : Nested (t ++ u) where
  quoted := ht.quoted.append hu.quoted
  ended count rest short := by
    have short' : count ≤ (u ++ rest).length := by
      rw [List.length_append]
      omega
    rw [openFrom_append, ht.ended count _ short', ht.quoted.after_start, hu.ended count rest short]
  level s start before after rest split := by
    rcases List.append_eq_append_iff.mp split with ⟨before', rfl, rfl⟩ | ⟨after', rfl, rfl⟩
    · -- The position lies in `u`: the objects of `t` have ended before it.
      have later := hu.level _ (ht.scanner_after start) before' after rest rfl
      have ended := ht.ended (after ++ rest).length (before' ++ (after ++ rest)) (by simp)
      rw [Pass.after_append, later, ht.level_after start, openObjects, openObjects,
        openFrom_append, ended, ht.quoted.after_start, Nat.zero_add]
    · have first := ht.level s start before after' (u ++ rest) rfl
      rwa [List.append_assoc]
  closes before after rest split outside := by
    rcases split_at_char split with ⟨before', rfl, rfl⟩ | ⟨after', rfl, rfl⟩
    · rw [Scanner.after_append, ht.quoted.after_start] at outside
      have later := hu.closes before' after rest rfl outside
      have ended := ht.ended ('}' :: (after ++ rest)).length (before' ++ '}' :: (after ++ rest))
        (by simp)
      rw [openObjects, openFrom_append, ended, ht.quoted.after_start, Nat.zero_add]
      exact later
    · have first := ht.closes before after' (u ++ rest) rfl outside
      rwa [List.append_assoc]

section Object

variable {inner : List Char}
variable (reads : ∀ rest, ∃ v, value maxDepth ('{' :: (inner ++ '}' :: rest)) = .ok (v, rest))

include reads

/-- From its first brace on, an object counts as open until its last brace is passed. -/
theorem openFrom_object {count : Nat} {before after rest : List Char}
    (split : before ++ after = inner ++ '}' :: rest) :
    openFrom count .start ('{' :: before) after =
      (decide (rest.length < count)).toNat + openFrom count .start before after := by
  obtain ⟨v, read⟩ := reads rest
  rw [openFrom, split, endsWithin, read]
  rfl

/-- A closing brace inside an object, its last one included, stands where the object is open. -/
theorem closes_object {before after : List Char}
    (split : '{' :: (inner ++ ['}']) = before ++ '}' :: after) (rest : List Char) :
    0 < openObjects before ('}' :: (after ++ rest)) := by
  rcases List.cons_eq_append_iff.mp split with ⟨rfl, wrong⟩ | ⟨before, rfl, later⟩
  · exact absurd (List.cons.inj wrong).1 (by decide)
  · have split' : before ++ '}' :: (after ++ rest) = inner ++ '}' :: rest := by
      have longer := congrArg (· ++ rest) later
      simpa using longer.symm
    have reached : decide (rest.length < ('}' :: (after ++ rest)).length) = true := by
      simp only [List.length_cons, List.length_append, decide_eq_true_eq]
      omega
    rw [openObjects, openFrom_object reads split', reached]
    exact Nat.add_pos_left Nat.zero_lt_one _

variable (h : Nested inner)

include h

theorem ended_object {count : Nat} {rest : List Char} (short : count ≤ rest.length) :
    openFrom count .start ('{' :: (inner ++ ['}'])) rest = 0 := by
  have passed : decide (rest.length < count) = false := decide_eq_false (by omega)
  have within : openFrom count .start inner ('}' :: rest) = 0 :=
    h.ended count _ (Nat.le_succ_of_le short)
  have close : openFrom count .start ['}'] rest = 0 := by
    simp [openFrom, endsWithin_eq_false]
  have split : (inner ++ ['}']) ++ rest = inner ++ '}' :: rest := by simp
  rw [openFrom_object reads split, passed, openFrom_append, h.quoted.after_start, close,
    List.singleton_append, within]
  rfl

/-- Inside an object the pretty form is one level deeper. -/
theorem level_object (s : Indenting) (start : s.scanner = .start) (before after rest : List Char)
    (split : '{' :: (inner ++ ['}']) = before ++ after) :
    (prettyPass.after s before).level = s.level + openObjects before (after ++ rest) := by
  rcases List.cons_eq_append_iff.mp split with ⟨rfl, rfl⟩ | ⟨before, rfl, later⟩
  · rfl
  obtain ⟨scanner, level, inArray⟩ := s
  obtain rfl : scanner = .start := start
  have first : prettyPass.next ⟨.start, level, inArray⟩ '{' = ⟨.start, level + 1, inArray⟩ := rfl
  rw [Pass.after_cons, first]
  rcases List.eq_nil_or_concat after with rfl | ⟨after, c, rfl⟩
  · -- The whole object has been passed: its last brace undoes what its first one did.
    obtain rfl : before = inner ++ ['}'] := by simpa using later.symm
    have scanner := h.scanner_after (s := ⟨.start, level + 1, inArray⟩) rfl
    have inside := h.level_after (s := ⟨.start, level + 1, inArray⟩) rfl
    have last : ∀ s : Indenting, s.scanner = .start → (prettyPass.next s '}').level = s.level - 1 := by
      rintro ⟨_, level, inArray⟩ rfl
      rfl
    have ended := ended_object reads h (Nat.le_refl rest.length)
    rw [Pass.after_append, Pass.after_cons, Pass.after_nil, last _ scanner, inside, openObjects,
      List.nil_append, ended]
    rfl
  · -- The position lies before the last brace, so the object itself is open there.
    rw [List.concat_eq_append, ← List.append_assoc] at later
    obtain ⟨rfl, last⟩ := List.append_inj' later rfl
    obtain rfl : '}' = c := (List.cons.inj last).1
    have inside := h.level ⟨.start, level + 1, inArray⟩ rfl before after ('}' :: rest) rfl
    have reached : decide (rest.length < (after ++ '}' :: rest).length) = true := by
      simp only [List.length_cons, List.length_append, decide_eq_true_eq]
      omega
    have split' : before ++ (after ++ '}' :: rest) = (before ++ after) ++ '}' :: rest := by simp
    have around : (after.concat '}') ++ rest = after ++ '}' :: rest := by simp
    rw [inside, around, openObjects, openObjects, openFrom_object reads split', reached,
      Nat.add_assoc]
    rfl

/-- A text of this kind in braces is of this kind, if it is read as an object. -/
theorem object : Nested ('{' :: (inner ++ ['}'])) where
  quoted := .char (by decide) (by decide) (h.quoted.append (.char (by decide) (by decide) .nil))
  ended _ _ short := ended_object reads h short
  level := level_object reads h
  closes _ _ rest split _ := closes_object reads split rest

end Object

end Nested

/-- The text opens and closes objects in pairs, and every array that it opens it closes. -/
structure Balanced (text : List Char) : Prop extends Nested text where
  inArray : ∀ s : Indenting, s.scanner = .start → s.inArray = false →
    (prettyPass.after s text).inArray = false

namespace Balanced

/-- A text outside which no object and no array reaches leaves the pretty form where it was. -/
theorem after_start {text : List Char} (h : Balanced text) :
    prettyPass.after .start text = .start := by
  have scanner := h.scanner_after (s := .start) rfl
  have level := h.level_after (s := .start) rfl
  have inArray := h.inArray .start rfl rfl
  cases state : prettyPass.after .start text with
  | mk scanner' level' inArray' =>
    rw [state] at scanner level inArray
    cases scanner
    cases level
    cases inArray
    rfl

theorem append {t u : List Char} (ht : Balanced t) (hu : Balanced u) : Balanced (t ++ u) where
  toNested := ht.toNested.append hu.toNested
  inArray s start outside := by
    rw [Pass.after_append]
    exact hu.inArray _ (ht.scanner_after start) (ht.inArray s start outside)

/-- A text with no bracket outside literals but closing brackets of arrays. -/
theorem of_plain {text : List Char} (quoted : Wellquoted text)
    (h : Scanner.start.Each (fun s c => Braceless s c ∧ (s.inLiteral c = false → c ≠ '[')) text) :
    Balanced text where
  toNested := .of_braceless quoted (h.imp fun _ _ plain => plain.1)
  inArray s start outside := by
    rw [← start] at h
    exact inArray_plain (h.imp fun _ _ plain => plain.2) outside

/-- A text of characters that mean nothing to the scanner and do not open or close anything. -/
theorem of_class {q : Char → Bool} {text : List Char} (h : ∀ c ∈ text, q c = true)
    (none : ['"', '\\', '{', '}', '['].all (fun d => !q d) = true) : Balanced text := by
  have other : ∀ d ∈ ['"', '\\', '{', '}', '['], ∀ c ∈ text, c ≠ d :=
    fun d hd c hc => ne_of_class none (h c hc) d hd
  have quoted : Wellquoted text :=
    .of_ordinary fun c hc => ⟨other '"' (by simp) c hc, other '\\' (by simp) c hc⟩
  refine of_plain quoted ((Scanner.each_iff _ _).mpr fun before c after split => ?_)
  have hc : c ∈ text := by simp [split]
  exact ⟨fun _ => ⟨other '{' (by simp) c hc, other '}' (by simp) c hc⟩,
    fun _ => other '[' (by simp) c hc⟩

theorem literal {content : List Char} (h : Escaped content) :
    Balanced ('"' :: content ++ ['"']) := by
  refine of_plain (.of_literal h) ((Scanner.within_literal h).1.imp fun s c within => ?_)
  have inside : s.inLiteral c ≠ false := by simp [within]
  exact ⟨fun outside => absurd outside inside, fun outside => absurd outside inside⟩

end Balanced

/-- Brackets around a text leave no array open, whatever brackets stand in the text. -/
theorem Nested.array {inner : List Char} (h : Nested inner) :
    Balanced ('[' :: (inner ++ [']'])) where
  toNested := by
    have opening : Nested ['['] :=
      .of_braceless (.char (by decide) (by decide) .nil) (And.intro (fun _ => by decide) trivial)
    have closing : Nested [']'] :=
      .of_braceless (.char (by decide) (by decide) .nil) (And.intro (fun _ => by decide) trivial)
    exact opening.append (h.append closing)
  inArray s start _ := by
    have closed : ∀ s : Indenting, s.scanner = .start → (prettyPass.next s ']').inArray = false := by
      rintro ⟨_, level, inArray⟩ rfl
      rfl
    have first : (prettyPass.next s '[').scanner = .start := by
      show s.scanner.next '[' = .start
      rw [start]
      rfl
    rw [Pass.after_cons, Pass.after_append]
    exact closed _ (h.scanner_after first)

theorem Balanced.object {inner : List Char} (h : Balanced inner)
    (reads : ∀ rest, ∃ v, value maxDepth ('{' :: (inner ++ '}' :: rest)) = .ok (v, rest)) :
    Balanced ('{' :: (inner ++ ['}'])) where
  toNested := h.toNested.object reads
  inArray s start outside := by
    obtain ⟨scanner, level, inArray⟩ := s
    obtain rfl : scanner = .start := start
    obtain rfl : inArray = false := outside
    have first : prettyPass.next ⟨.start, level, false⟩ '{' = ⟨.start, level + 1, false⟩ := rfl
    have kept : ∀ s : Indenting, s.scanner = .start → s.inArray = false →
        (prettyPass.next s '}').inArray = false := by
      rintro ⟨_, level, _⟩ rfl rfl
      rfl
    rw [Pass.after_cons, first, Pass.after_append]
    exact kept _ (h.scanner_after rfl) (h.inArray _ rfl rfl)

/-! ## Texts that hold values -/

theorem balanced_gap {gap : List Char} (h : Gap gap) : Balanced gap := .of_class h rfl

/-- What may stand between two values, or between a name and its value. -/
theorem balanced_mark {c : Char} (h : c = ',' ∨ c = ':') : Balanced [c] := by
  rcases h with rfl | rfl
  · exact .of_class (q := (· == ',')) (by simp) rfl
  · exact .of_class (q := (· == ':')) (by simp) rfl

section Parts

variable {α : Type} {P : α → List Char → Prop} (hP : ∀ a text, P a text → Balanced text)

include hP

theorem balanced_led {a : α} {text : List Char} (h : Led P a text) : Balanced text := by
  obtain ⟨gap, body, hgap, hbody, rfl⟩ := h
  exact (balanced_gap hgap).append (hP a body hbody)

theorem balanced_more {e : Enclosure} {as : List α} {text : List Char} (h : More e P as text) :
    ∃ inner, Balanced inner ∧ text = inner ++ [e.close] := by
  induction h with
  | @close gap hgap => exact ⟨gap, balanced_gap hgap, rfl⟩
  | @next gap item more a as hgap hitem _ ih =>
    obtain ⟨inner, hinner, rfl⟩ := ih
    have balanced := (balanced_mark (.inl rfl)).append ((balanced_led hP hitem).append hinner)
    exact ⟨gap ++ ([','] ++ (item ++ inner)), (balanced_gap hgap).append balanced, by simp⟩

theorem balanced_items {e : Enclosure} {as : List α} {text : List Char} (h : Items e P as text) :
    ∃ inner, Balanced inner ∧ text = inner ++ [e.close] := by
  cases h with
  | @empty gap hgap => exact ⟨gap, balanced_gap hgap, rfl⟩
  | @listed item more a as hitem hmore =>
    obtain ⟨inner, hinner, rfl⟩ := balanced_more hP hmore
    exact ⟨item ++ inner, (balanced_led hP hitem).append hinner, by simp⟩

theorem balanced_member {ka : String × α} {text : List Char} (h : Member P ka text) :
    Balanced text := by
  cases h with
  | mk quotes hgap hitem =>
    have colon := (balanced_mark (.inr rfl)).append (balanced_led hP hitem)
    exact (Balanced.literal quotes.escaped).append ((balanced_gap hgap).append colon)

end Parts

theorem balanced_spelledWith {texts : Option (Value → List Char → Prop)}
    (hP : ∀ P, texts = some P → (∀ v text, P v text → Balanced text) ∧
      ∃ depth, depth < maxDepth ∧ P = Spelled depth) {v : Value} {text : List Char}
    (h : SpelledWith texts v text) : Balanced text := by
  cases h with
  | null | boolTrue | boolFalse => exact .of_class (q := Char.isAlpha) (List.all_eq_true.mp rfl) rfl
  | number spells => exact .of_class spells.numeral rfl
  | string quotes => exact .literal quotes.escaped
  | array texts hitems =>
    obtain ⟨inner, hinner, rfl⟩ := balanced_items (hP _ texts).1 hitems
    exact hinner.toNested.array
  | object texts hitems =>
    obtain ⟨balanced, depth, fits, rfl⟩ := hP _ texts
    obtain ⟨inner, hinner, rfl⟩ := balanced_items (fun _ _ => balanced_member balanced) hitems
    refine hinner.object fun rest => ?_
    have deepest := hitems.imp fun _ _ => Member.imp fun _ _ =>
      Spelled.deeper (Nat.le_sub_one_of_lt fits)
    have read := value_object deepest rest
    rw [List.append_assoc] at read
    exact ⟨_, read⟩

theorem balanced_spelled {depth : Nat} (fits : depth ≤ maxDepth) {v : Value} {text : List Char}
    (h : Spelled depth v text) : Balanced text := by
  induction depth generalizing v text with
  | zero =>
    refine balanced_spelledWith ?_ (show SpelledWith none v text from h)
    exact fun P hP => nomatch hP
  | succ depth ih =>
    refine balanced_spelledWith ?_ (show SpelledWith (some (Spelled depth)) v text from h)
    rintro P hP
    cases hP
    exact ⟨fun _ _ => ih (by omega), depth, fits, rfl⟩

/-- A text that holds a value and nothing else closes what it opens. -/
theorem balanced_holds {v : Value} {text : List Char} (h : Holds v text) : Balanced text := by
  obtain ⟨body, gap, hbody, hgap, rfl⟩ := h
  have value := balanced_led (fun _ _ => balanced_spelled (Nat.le_refl maxDepth)) hbody
  exact value.append (balanced_gap hgap)

/-! ## Texts in a row -/

theorem minimal_after_start {text : List Char} (h : Wellquoted text) :
    minimalPass.after .start text = .start :=
  minimalPass_lexical.scan_after_start rfl h

end Reprint.Layout

namespace Reprint

open Reprint.Layout
open Reprint.Reader
open Reprint.Text

theorem balanced_of_parse {text : String} {v : Value} (h : parse text = .ok v) :
    Balanced text.toList :=
  balanced_holds (parse_eq_ok_iff.mp h)

/-- A text that holds a value is printed without regard to what follows it. -/
theorem print_append {text : String} (h : Balanced text.toList) (u : String) (o : Options) :
    o.print (text ++ u) = o.print text ++ o.print u := by
  apply String.toList_injective
  unfold Options.print
  split
  · rw [String.toList_append, minify_toList, minify_toList, minify_toList, String.toList_append,
      Pass.printed_append, minimal_after_start h.quoted]
  · rw [String.toList_append, prettify_toList, prettify_toList, prettify_toList,
      String.toList_append, Pass.printed_append, h.after_start]

/-- Nothing is printed for white space alone. -/
theorem print_gap {gap : String} (white : Gap gap.toList) (o : Options) : o.print gap = "" := by
  apply String.toList_injective
  unfold Options.print
  split
  · rw [minify_toList, ← List.append_nil gap.toList,
      (minimalPass_lexical.printed_gap (s := .start) rfl white []).1]
    rfl
  · rw [prettify_toList, ← List.append_nil gap.toList,
      (prettyPass_lexical.printed_gap (s := .start) rfl white []).1]
    rfl

theorem print_join {texts : List String} (h : ∀ t ∈ texts, Balanced t.toList) (o : Options) :
    o.print (String.join texts) = String.join (texts.map o.print) := by
  induction texts with
  | nil =>
    have none : Gap "".toList := gap_nil
    exact print_gap none o
  | cons t texts ih =>
    rw [String.join_cons, print_append (h t List.mem_cons_self),
      ih fun u hu => h u (List.mem_cons_of_mem t hu), List.map_cons, String.join_cons]

/-- While the pretty form goes over a text that holds a value, its level is the number of open
objects and every closing brace lowers it; at the end both forms are in the state in which they
began.  So what follows such a text is printed as if it stood alone, and several such texts in a row
are printed like each of them. -/
theorem document_leaves_start :
    (∀ (text : String) (v : Value), parse text = .ok v →
      (∀ before after, text.toList = before ++ after →
        (prettyPass.after .start before).level = openObjects before after) ∧
      (∀ before after, text.toList = before ++ '}' :: after →
        (Scanner.start.after before).inLiteral '}' = false →
          0 < (prettyPass.after .start before).level) ∧
      prettyPass.after .start text.toList = .start ∧
      minimalPass.after .start text.toList = .start ∧
      ∀ (u : String) (o : Options), o.print (text ++ u) = o.print text ++ o.print u) ∧
    ∀ texts : List String, (∀ t ∈ texts, ∃ v, parse t = .ok v) →
      ∀ o : Options, o.print (String.join texts) = String.join (texts.map o.print) := by
  refine ⟨fun text v parsed => ?_, fun texts parsed o => ?_⟩
  · have balanced := balanced_of_parse parsed
    have level : ∀ before after, text.toList = before ++ after →
        (prettyPass.after .start before).level = openObjects before after := by
      intro before after split
      have counted := balanced.level .start rfl before after [] split
      rwa [List.append_nil, show Indenting.start.level = 0 from rfl, Nat.zero_add] at counted
    refine ⟨level, ?_, balanced.after_start, minimal_after_start balanced.quoted,
      print_append balanced⟩
    intro before after split outside
    have closes := balanced.closes before after [] split outside
    rwa [List.append_nil, ← level before _ split] at closes
  · refine print_join (fun t ht => ?_) o
    obtain ⟨v, parsed⟩ := parsed t ht
    exact balanced_of_parse parsed

/-- An object in an array in an object, with a brace in a literal, and at the end an array in an
array: before the number two objects are open. -/
theorem document_leaves_start_nested :
    let text := "\x7b\"a\":[[1],\x7b\"\x7d\":2\x7d],\"b\":[[]]\x7d"
    let v := Value.object
      [("a", .array [.array [.number (.whole ⟨1, by decide, by decide⟩)],
          .object [("\x7d", .number (.whole ⟨2, by decide, by decide⟩))]]),
        ("b", .array [.array []])]
    let before := "\x7b\"a\":[[1],\x7b\"\x7d\":".toList
    let after := "2\x7d],\"b\":[[]]\x7d".toList
    let o : Options := ⟨.pretty, "\t", .lf⟩
    parse text = .ok v ∧ text.toList = before ++ after ∧
      (prettyPass.after .start before).level = openObjects before after ∧
      (prettyPass.after .start before).level = 2 ∧
      o.print (text ++ "[]\x7d") = o.print text ++ o.print "[]\x7d" := by
  intro text v before after o
  have parsed : parse text = .ok v := by cbv
  have split : text.toList = before ++ after := by decide
  obtain ⟨level, _, _, _, next⟩ := document_leaves_start.1 text v parsed
  exact ⟨parsed, split, level before after split, by decide, next "[]\x7d" o⟩

end Reprint
