import Reprint.Proofs.Literal
import Reprint.Proofs.Numeral
import Reprint.Reader.Value

set_option autoImplicit false

/-!
# The texts that hold a value

`Spelled depth v body` says that `body` is a text for the value `v` with at most `depth` arrays and
objects inside one another, and no white space before or after it.  White space stands before values
and names, and after them where a comma, a colon or a bracket follows.

The reader is sound and complete for it: what it takes off a text spells the value that it gives,
and a text that spells a value is read as that value, whatever follows it that does not go on with a
number.
-/

namespace Reprint.Reader

open Reprint.Text

variable {α : Type}

/-! ## White space -/

/-- A row of the white space that JSON allows between tokens. -/
def Gap (text : List Char) : Prop := ∀ c ∈ text, isGap c = true

theorem gap_nil : Gap [] := nofun

theorem Gap.append {t u : List Char} (ht : Gap t) (hu : Gap u) : Gap (t ++ u) := by
  intro c hc
  rcases List.mem_append.mp hc with hc | hc
  · exact ht c hc
  · exact hu c hc

theorem Gap.blank {text : List Char} (h : Gap text) : ∀ c ∈ text, isBlank c = true :=
  fun c hc => isBlank_of_isGap (h c hc)

theorem Gap.wellquoted {text : List Char} (h : Gap text) : Wellquoted text :=
  .of_blanks h.blank

/-- A text is the white space at its front and what is left after skipping it. -/
theorem exists_gap (text : List Char) : ∃ gap, Gap gap ∧ text = gap ++ skipGap text := by
  refine ⟨text.takeWhile isGap, ?_, List.takeWhile_append_dropWhile.symm⟩
  intro c hc
  exact List.all_eq_true.mp List.all_takeWhile c hc

theorem skipGap_append {gap : List Char} (h : Gap gap) (rest : List Char) :
    skipGap (gap ++ rest) = skipGap rest :=
  List.dropWhile_append_of_pos h

theorem skipGap_cons {c : Char} (h : isGap c = false) (rest : List Char) :
    skipGap (c :: rest) = c :: rest :=
  List.dropWhile_cons_of_neg (by simp [h])

/-- A text with white space before it. -/
def Led (P : α → List Char → Prop) (a : α) (text : List Char) : Prop :=
  ∃ gap body, Gap gap ∧ P a body ∧ text = gap ++ body

theorem Led.of {P : α → List Char → Prop} {a : α} {text : List Char} (h : P a text) :
    Led P a text :=
  ⟨[], text, gap_nil, h, rfl⟩

theorem Led.prepend {P : α → List Char → Prop} {a : α} {gap text : List Char} (hgap : Gap gap)
    (h : Led P a text) : Led P a (gap ++ text) := by
  obtain ⟨gap', body, hgap', hbody, rfl⟩ := h
  exact ⟨gap ++ gap', body, hgap.append hgap', hbody, (List.append_assoc ..).symm⟩

/-! ## The grammar -/

/-- What may follow an item of a list: other items, each after its comma, and the closing
bracket. -/
inductive More (e : Enclosure) (P : α → List Char → Prop) : List α → List Char → Prop where
  | close {gap : List Char} : Gap gap → More e P [] (gap ++ [e.close])
  | next {gap item more : List Char} {a : α} {as : List α} :
      Gap gap → Led P a item → More e P as more → More e P (a :: as) (gap ++ ',' :: (item ++ more))

/-- What may follow an opening bracket. -/
inductive Items (e : Enclosure) (P : α → List Char → Prop) : List α → List Char → Prop where
  | empty {gap : List Char} : Gap gap → Items e P [] (gap ++ [e.close])
  | listed {item more : List Char} {a : α} {as : List α} :
      Led P a item → More e P as more → Items e P (a :: as) (item ++ more)

theorem Items.prepend {e : Enclosure} {P : α → List Char → Prop} {gap text : List Char}
    {as : List α} (hgap : Gap gap) (h : Items e P as text) : Items e P as (gap ++ text) := by
  cases h with
  | empty hgap' =>
    rw [← List.append_assoc]
    exact .empty (hgap.append hgap')
  | listed hitem hmore =>
    rw [← List.append_assoc]
    exact .listed (hitem.prepend hgap) hmore

/-- A name, a colon and a value. -/
inductive Member (P : α → List Char → Prop) : String × α → List Char → Prop where
  | mk {cs content gap item : List Char} {a : α} :
      Quotes cs content → Gap gap → Led P a item →
        Member P (String.ofList cs, a) (('"' :: content ++ ['"']) ++ (gap ++ ':' :: item))

/-- A text for a value; `inner` are the texts for the values inside it, if there may be any. -/
inductive SpelledWith (inner : Option (Value → List Char → Prop)) : Value → List Char → Prop where
  | null : SpelledWith inner .null ['n', 'u', 'l', 'l']
  | boolTrue : SpelledWith inner (.bool true) ['t', 'r', 'u', 'e']
  | boolFalse : SpelledWith inner (.bool false) ['f', 'a', 'l', 's', 'e']
  | number {n : Number} {body : List Char} :
      Spells number n body → SpelledWith inner (.number n) body
  | string {cs content : List Char} :
      Quotes cs content → SpelledWith inner (.string (String.ofList cs)) ('"' :: content ++ ['"'])
  | array {P : Value → List Char → Prop} {vs : List Value} {body : List Char} :
      inner = some P → Items .array P vs body → SpelledWith inner (.array vs) ('[' :: body)
  | object {P : Value → List Char → Prop} {ms : List (String × Value)} {body : List Char} :
      inner = some P → Items .object (Member P) ms body →
        SpelledWith inner (.object (Members.ofList ms)) ('{' :: body)

/-- A text for a value that holds at most `depth` arrays and objects inside one another. -/
def Spelled : Nat → Value → List Char → Prop
  | 0 => SpelledWith none
  | depth + 1 => SpelledWith (some (Spelled depth))

/-- A text that holds a value and nothing else. -/
def Holds (v : Value) (text : List Char) : Prop :=
  ∃ body gap, Led (Spelled maxDepth) v body ∧ Gap gap ∧ text = body ++ gap

/-! ## Soundness -/

theorem word_eq_ok_iff {letters text rest : List Char} :
    word letters text = .ok rest ↔ text = letters ++ rest := by
  fun_induction word letters text with
  | case1 text =>
    exact ⟨fun h => Except.ok.inj h, fun h => congrArg _ h⟩
  | case2 => exact ⟨nofun, nofun⟩
  | case3 l letters text ih => simpa using ih
  | case4 l letters c text hc => simp [hc]

theorem Sound.led {P : α → List Char → Prop} {step : Step α} (h : Sound P step) :
    Sound (Led P) step := by
  intro text a rest read
  obtain ⟨body, split, hbody⟩ := h text a rest read
  exact ⟨body, split, .of hbody⟩

theorem moreItems_sound (e : Enclosure) {P : α → List Char → Prop} {item : Step α}
    (hitem : Sound (Led P) item) (bound : List Char) :
    Sound (More e P) (moreItems e item bound) := by
  induction bound with
  | nil =>
    intro text as rest h
    cases h
  | cons b bound ih =>
    intro text as rest h
    obtain ⟨gap, hgap, split⟩ := exists_gap text
    unfold moreItems at h
    split at h
    · cases h
    · rename_i c rest₁ skipped
      rw [skipped] at split
      split at h
      · rename_i close
        cases h
        exact ⟨gap ++ [e.close], by rw [split, close]; simp, .close hgap⟩
      · split at h
        · cases h
        · rename_i comma
          obtain rfl : c = ',' := Classical.not_not.mp comma
          obtain ⟨gap', hgap', split'⟩ := exists_gap rest₁
          split at h
          · cases h
          · rename_i c' next skipped'
            rw [skipped'] at split'
            split at h
            · cases h
            · split at h
              · cases h
              · rename_i a after read
                obtain ⟨as', readMore, rfl⟩ := (found_eq_ok_iff _).mp h
                obtain ⟨body, hbody, spelled⟩ := hitem _ _ _ read
                obtain ⟨more, rfl, hmore⟩ := ih after as' rest readMore
                refine ⟨_, ?_, .next hgap (spelled.prepend hgap') hmore⟩
                rw [split, split', hbody]
                simp

theorem items_sound (e : Enclosure) {P : α → List Char → Prop} {item : Step α}
    (hitem : Sound (Led P) item) : Sound (Items e P) (items e item) := by
  intro text as rest h
  obtain ⟨gap, hgap, split⟩ := exists_gap text
  unfold items at h
  split at h
  · cases h
  · rename_i c rest₁ skipped
    rw [skipped] at split
    split at h
    · rename_i close
      cases h
      exact ⟨gap ++ [e.close], by rw [split, close]; simp, .empty hgap⟩
    · split at h
      · cases h
      · rename_i a after read
        obtain ⟨as', readMore, rfl⟩ := (found_eq_ok_iff _).mp h
        obtain ⟨body, hbody, spelled⟩ := hitem _ _ _ read
        obtain ⟨more, rfl, hmore⟩ := moreItems_sound e hitem text after as' rest readMore
        refine ⟨_, ?_, .listed (spelled.prepend hgap) hmore⟩
        rw [split, hbody]
        simp

theorem member_sound {P : α → List Char → Prop} {value : Step α}
    (hvalue : Sound (Led P) value) : Sound (Member P) (member value) := by
  intro text ka rest h
  unfold member at h
  split at h
  · cases h
  · rename_i name after readName
    unfold quoted at readName
    split at readName
    · rename_i text'
      obtain ⟨cs, read, rfl⟩ := (found_eq_ok_iff _).mp readName
      obtain ⟨content, rfl, quotes⟩ := literal_sound read
      obtain ⟨gap, hgap, split⟩ := exists_gap after
      split at h
      · cases h
      · rename_i rest₁ skipped
        rw [skipped] at split
        obtain ⟨a, readValue, rfl⟩ := (found_eq_ok_iff _).mp h
        obtain ⟨item, rfl, hitem⟩ := hvalue _ _ _ readValue
        refine ⟨_, ?_, .mk quotes hgap hitem⟩
        rw [split]
        simp
      · cases h
    · cases readName

/-- The texts for the values inside a value are right for the step that reads those. -/
def Inner (Q : (Value → List Char → Prop) → Step Value → Prop)
    (texts : Option (Value → List Char → Prop)) (step : Option (Step Value)) : Prop :=
  match texts, step with
  | none, none => True
  | some P, some value => Q (Led P) value
  | _, _ => False

theorem wordValue_sound {c : Char} {letters : List Char} {v : Value}
    {text rest : List Char} {w : Value} (h : wordValue letters v text = .ok (w, rest)) :
    c :: text = (c :: letters) ++ rest ∧ w = v := by
  unfold wordValue at h
  cases read : word letters text with
  | error f =>
    rw [read] at h
    cases h
  | ok rest' =>
    rw [read] at h
    cases h
    exact ⟨congrArg (c :: ·) (word_eq_ok_iff.mp read), rfl⟩

theorem valueFrom_sound {texts : Option (Value → List Char → Prop)} {inner : Option (Step Value)}
    (hinner : Inner Sound texts inner) {c : Char} {text rest : List Char} {v : Value}
    (h : valueFrom inner c text = .ok (v, rest)) :
    ∃ body, c :: text = body ++ rest ∧ SpelledWith texts v body := by
  unfold valueFrom at h
  split at h
  · subst c
    obtain ⟨split, rfl⟩ := wordValue_sound h
    exact ⟨_, split, .null⟩
  split at h
  · subst c
    obtain ⟨split, rfl⟩ := wordValue_sound h
    exact ⟨_, split, .boolTrue⟩
  split at h
  · subst c
    obtain ⟨split, rfl⟩ := wordValue_sound h
    exact ⟨_, split, .boolFalse⟩
  split at h
  · subst c
    obtain ⟨cs, read, rfl⟩ := (found_eq_ok_iff _).mp h
    obtain ⟨content, rfl, quotes⟩ := literal_sound read
    exact ⟨_, by simp, .string quotes⟩
  split at h
  · obtain ⟨n, read, rfl⟩ := (found_eq_ok_iff _).mp h
    obtain ⟨body, split, spells⟩ := number_sound _ _ _ read
    exact ⟨body, split, .number spells⟩
  split at h
  · subst c
    unfold nested at h
    split at h
    · cases h
    · rename_i value
      obtain _ | P := texts
      · exact hinner.elim
      obtain ⟨vs, read, rfl⟩ := (found_eq_ok_iff _).mp h
      obtain ⟨body, rfl, hitems⟩ := items_sound .array hinner _ _ _ read
      exact ⟨'[' :: body, rfl, .array rfl hitems⟩
  split at h
  · subst c
    unfold nested at h
    split at h
    · cases h
    · rename_i value
      obtain _ | P := texts
      · exact hinner.elim
      obtain ⟨ms, read, rfl⟩ := (found_eq_ok_iff _).mp h
      have hmember : Sound (Led (Member P)) (member value) := (member_sound hinner).led
      obtain ⟨body, rfl, hitems⟩ := items_sound .object hmember _ _ _ read
      exact ⟨'{' :: body, rfl, .object rfl hitems⟩
  · cases h

theorem valueWith_sound (texts : Option (Value → List Char → Prop)) {inner : Option (Step Value)}
    (hinner : Inner Sound texts inner) : Sound (Led (SpelledWith texts)) (valueWith inner) := by
  intro text v rest h
  obtain ⟨gap, hgap, split⟩ := exists_gap text
  unfold valueWith at h
  split at h
  · cases h
  · rename_i c rest₁ skipped
    obtain ⟨body, hbody, spelled⟩ := valueFrom_sound hinner h
    refine ⟨gap ++ body, ?_, gap, body, hgap, spelled, rfl⟩
    rw [split, skipped, hbody, List.append_assoc]

/-- What the reader takes for a value spells that value. -/
theorem value_sound (depth : Nat) : Sound (Led (Spelled depth)) (value depth) := by
  induction depth with
  | zero => exact valueWith_sound none trivial
  | succ depth ih => exact valueWith_sound (some (Spelled depth)) ih

/-! ## Completeness -/

/-- Whatever follows a text that `G` has for `a`, if it does not go on with a number, the step
takes exactly that text off. -/
def Complete (G : α → List Char → Prop) (step : Step α) : Prop :=
  ∀ (a : α) (body rest : List Char), G a body → Ends rest → step (body ++ rest) = .ok (a, rest)

theorem Complete.of_led {P : α → List Char → Prop} {step : Step α} (h : Complete (Led P) step) :
    Complete P step :=
  fun a body rest hbody => h a body rest (.of hbody)

theorem isNumeral_of_isGap {c : Char} (h : isGap c = true) : isNumeral c = false := by
  simp only [isGap, Bool.or_eq_true, beq_iff_eq] at h
  rcases h with ((rfl | rfl) | rfl) | rfl <;> rfl

/-- White space ends a number, and so does what may follow the white space. -/
theorem ends_gap {gap rest : List Char} (hgap : Gap gap) (h : Ends rest) : Ends (gap ++ rest) := by
  cases gap with
  | nil => exact h
  | cons c gap => exact ends_cons (isNumeral_of_isGap (hgap c List.mem_cons_self))

/-- The closing bracket of a list is taken for nothing else. -/
structure Enclosure.Clear (e : Enclosure) : Prop where
  gap : isGap e.close = false
  comma : e.close ≠ ','
  numeral : isNumeral e.close = false

theorem Enclosure.array_clear : Enclosure.array.Clear := ⟨rfl, by decide, rfl⟩

theorem Enclosure.object_clear : Enclosure.object.Clear := ⟨rfl, by decide, rfl⟩

/-- Every item begins with a character that is neither white space nor the closing bracket. -/
def Heads (e : Enclosure) (P : α → List Char → Prop) : Prop :=
  ∀ (a : α) (body : List Char), P a body →
    ∃ c text, body = c :: text ∧ isGap c = false ∧ c ≠ e.close

section Lists

variable {e : Enclosure} {P : α → List Char → Prop} {item : Step α}

theorem More.ends (clear : e.Clear) {as : List α} {text : List Char} (h : More e P as text)
    (rest : List Char) : Ends (text ++ rest) := by
  cases h with
  | close hgap =>
    rw [List.append_assoc]
    exact ends_gap hgap (ends_cons clear.numeral)
  | next hgap _ _ =>
    rw [List.append_assoc]
    exact ends_gap hgap (ends_cons rfl)

theorem moreItems_complete (clear : e.Clear) (hitem : Complete P item) (heads : Heads e P)
    {as : List α} {text : List Char} (h : More e P as text) :
    ∀ bound rest, (text ++ rest).length ≤ bound.length →
      moreItems e item bound (text ++ rest) = .ok (as, rest) := by
  induction h with
  | @close gap hgap =>
    intro bound rest long
    cases bound with
    | nil => simp at long
    | cons b bound =>
      have skip : skipGap ((gap ++ [e.close]) ++ rest) = e.close :: rest := by
        rw [List.append_assoc, skipGap_append hgap]
        exact skipGap_cons clear.gap rest
      simp only [moreItems, skip, if_true]
  | @next gap item' more a as hgap hled hmore ih =>
    intro bound rest long
    cases bound with
    | nil => simp at long
    | cons b bound =>
      obtain ⟨gap', body, hgap', hbody, rfl⟩ := hled
      obtain ⟨c, t, rfl, visible, open_⟩ := heads a body hbody
      have skip : skipGap ((gap ++ ',' :: ((gap' ++ c :: t) ++ more)) ++ rest) =
          ',' :: (gap' ++ c :: (t ++ (more ++ rest))) := by
        rw [List.append_assoc, skipGap_append hgap, List.cons_append, skipGap_cons rfl]
        simp
      have skip' : skipGap (gap' ++ c :: (t ++ (more ++ rest))) = c :: (t ++ (more ++ rest)) := by
        rw [skipGap_append hgap', skipGap_cons visible]
      have read : item (c :: (t ++ (more ++ rest))) = .ok (a, more ++ rest) :=
        hitem a (c :: t) (more ++ rest) hbody (hmore.ends clear rest)
      have shorter : (more ++ rest).length ≤ bound.length := by
        simp only [List.length_append, List.length_cons] at long ⊢
        omega
      simp only [moreItems, skip, skip', if_neg clear.comma.symm, ne_eq, not_true_eq_false,
        if_false, if_neg open_, read, ih bound rest shorter, found_ok]

theorem items_complete (clear : e.Clear) (hitem : Complete P item) (heads : Heads e P)
    {as : List α} {text : List Char} (h : Items e P as text) (rest : List Char) :
    items e item (text ++ rest) = .ok (as, rest) := by
  cases h with
  | @empty gap hgap =>
    have skip : skipGap ((gap ++ [e.close]) ++ rest) = e.close :: rest := by
      rw [List.append_assoc, skipGap_append hgap]
      exact skipGap_cons clear.gap rest
    simp only [items, skip, if_true]
  | @listed item' more a as hled hmore =>
    obtain ⟨gap, body, hgap, hbody, rfl⟩ := hled
    obtain ⟨c, t, rfl, visible, open_⟩ := heads a body hbody
    have skip : skipGap (((gap ++ c :: t) ++ more) ++ rest) = c :: (t ++ (more ++ rest)) := by
      rw [List.append_assoc, List.append_assoc, skipGap_append hgap]
      exact skipGap_cons visible _
    have read : item (c :: (t ++ (more ++ rest))) = .ok (a, more ++ rest) :=
      hitem a (c :: t) (more ++ rest) hbody (hmore.ends clear rest)
    have long : (more ++ rest).length ≤ (((gap ++ c :: t) ++ more) ++ rest).length := by
      simp only [List.length_append, List.length_cons]
      omega
    have readMore := moreItems_complete clear hitem heads hmore _ rest long
    simp only [items, skip, if_neg open_, read, readMore, found_ok]

end Lists

theorem member_complete {P : α → List Char → Prop} {value : Step α}
    (hvalue : Complete (Led P) value) : Complete (Member P) (member value) := by
  intro ka text rest h ends
  cases h with
  | @mk cs content gap item a quotes hgap hitem =>
    have name : quoted (('"' :: content ++ ['"']) ++ (gap ++ ':' :: item) ++ rest) =
        .ok (String.ofList cs, gap ++ ':' :: (item ++ rest)) := by
      have read := quotes.reads (gap ++ ':' :: (item ++ rest))
      simp only [List.cons_append, List.append_assoc, List.nil_append] at read ⊢
      rw [quoted, read, found_ok]
    have skip : skipGap (gap ++ ':' :: (item ++ rest)) = ':' :: (item ++ rest) := by
      rw [skipGap_append hgap, skipGap_cons rfl]
    simp only [member, name, skip, hvalue a item rest hitem ends, found_ok]

/-- The first character of a text for a value. -/
def isFirst (c : Char) : Bool :=
  c == 'n' || c == 't' || c == 'f' || c == '"' || (c == '-' || c.isDigit) || c == '[' || c == '{'

theorem SpelledWith.first {texts : Option (Value → List Char → Prop)} {v : Value}
    {body : List Char} (h : SpelledWith texts v body) :
    ∃ c text, body = c :: text ∧ isFirst c = true := by
  cases h with
  | null | boolTrue | boolFalse | string | array | object => exact ⟨_, _, rfl, rfl⟩
  | number spells =>
    have read := spells.reads [] ends_nil
    rw [List.append_nil] at read
    cases body with
    | nil => cases read
    | cons c text =>
      refine ⟨c, text, rfl, ?_⟩
      rcases number_head read with rfl | digit
      · rfl
      · simp [isFirst, digit]

theorem Spelled.first {depth : Nat} {v : Value} {body : List Char} (h : Spelled depth v body) :
    ∃ c text, body = c :: text ∧ isFirst c = true := by
  cases depth with
  | zero => exact SpelledWith.first h
  | succ depth => exact SpelledWith.first h

theorem isGap_eq_false_of_isFirst {c : Char} (h : isFirst c = true) : isGap c = false := by
  cases gap : isGap c with
  | false => rfl
  | true =>
    simp only [isGap, Bool.or_eq_true, beq_iff_eq] at gap
    rcases gap with ((rfl | rfl) | rfl) | rfl <;> exact absurd h (by decide)

theorem SpelledWith.heads (texts : Option (Value → List Char → Prop)) :
    Heads .array (SpelledWith texts) := by
  intro v body h
  obtain ⟨c, text, rfl, first⟩ := h.first
  refine ⟨c, text, rfl, isGap_eq_false_of_isFirst first, ?_⟩
  rintro rfl
  exact absurd first (by decide)

theorem Member.heads (P : α → List Char → Prop) : Heads .object (Member P) := by
  intro ka body h
  cases h with
  | mk => exact ⟨'"', _, rfl, rfl, by decide⟩

theorem wordValue_append (letters rest : List Char) (v : Value) :
    wordValue letters v (letters ++ rest) = .ok (v, rest) := by
  rw [wordValue, word_eq_ok_iff.mpr rfl]
  rfl

theorem valueFrom_number (inner : Option (Step Value)) {c : Char} {text rest : List Char}
    {n : Number} (h : number (c :: text) = .ok (n, rest)) :
    valueFrom inner c text = .ok (.number n, rest) := by
  have first : c = '-' ∨ c.isDigit = true := number_head h
  have others : ∀ d : Char, d ≠ '-' → d.isDigit = false → c ≠ d := by
    rintro d minus digit rfl
    rcases first with rfl | first
    · exact minus rfl
    · cases digit.symm.trans first
  rw [valueFrom, if_neg (others 'n' (by decide) rfl), if_neg (others 't' (by decide) rfl),
    if_neg (others 'f' (by decide) rfl), if_neg (others '"' (by decide) rfl), if_pos first, h,
    found_ok]

/-- A text for a value is read as that value; what follows it matters only after a number. -/
theorem valueWith_reads {texts : Option (Value → List Char → Prop)} {inner : Option (Step Value)}
    (hinner : Inner Complete texts inner) (heads : ∀ P, texts = some P → Heads .array P) {v : Value}
    {text rest : List Char} (h : Led (SpelledWith texts) v text)
    (ends : v.kind = .number → Ends rest) : valueWith inner (text ++ rest) = .ok (v, rest) := by
  obtain ⟨gap, body, hgap, hbody, rfl⟩ := h
  obtain ⟨c, t, rfl, first⟩ := hbody.first
  have skip : skipGap ((gap ++ c :: t) ++ rest) = c :: (t ++ rest) := by
    rw [List.append_assoc, skipGap_append hgap]
    exact skipGap_cons (isGap_eq_false_of_isFirst first) _
  simp only [valueWith, skip]
  cases hbody with
  | null => exact wordValue_append ['u', 'l', 'l'] rest .null
  | boolTrue => exact wordValue_append ['r', 'u', 'e'] rest (.bool true)
  | boolFalse => exact wordValue_append ['a', 'l', 's', 'e'] rest (.bool false)
  | number spells => exact valueFrom_number inner (spells.reads rest (ends rfl))
  | @string cs content quotes =>
    show found _ (literal ((content ++ ['"']) ++ rest)) = _
    rw [List.append_assoc, List.singleton_append, quotes.reads, found_ok]
    rfl
  | @array P vs body texts hitems =>
    subst texts
    obtain _ | value := inner
    · exact hinner.elim
    show found _ (items .array value (t ++ rest)) = _
    rw [items_complete Enclosure.array_clear hinner.of_led (heads P rfl) hitems, found_ok]
  | @object P ms body texts hitems =>
    subst texts
    obtain _ | value := inner
    · exact hinner.elim
    show found _ (items .object (member value) (t ++ rest)) = _
    rw [items_complete Enclosure.object_clear (member_complete hinner) (Member.heads P) hitems,
      found_ok]
    rfl

theorem valueWith_complete {texts : Option (Value → List Char → Prop)}
    {inner : Option (Step Value)} (hinner : Inner Complete texts inner)
    (heads : ∀ P, texts = some P → Heads .array P) :
    Complete (Led (SpelledWith texts)) (valueWith inner) :=
  fun _ _ _ h ends => valueWith_reads hinner heads h fun _ => ends

theorem Spelled.heads (depth : Nat) : Heads .array (Spelled depth) := by
  cases depth <;> exact SpelledWith.heads _

/-- The items of a text are such as their own texts are for. -/
theorem Spelled.inner_heads (depth : Nat) :
    ∀ P, some (Spelled depth) = some P → Heads .array P := by
  intro P same
  cases same
  exact Spelled.heads depth

/-- A text that spells a value is read as that value. -/
theorem value_complete (depth : Nat) : Complete (Led (Spelled depth)) (value depth) := by
  induction depth with
  | zero =>
    have inner : Inner Complete none none := trivial
    exact valueWith_complete inner nofun
  | succ depth ih =>
    have inner : Inner Complete (some (Spelled depth)) (some (value depth)) := ih
    exact valueWith_complete inner (Spelled.inner_heads depth)

/-- What follows a text for a value matters only if the value is a number. -/
theorem value_reads {depth : Nat} {v : Value} {text rest : List Char}
    (h : Led (Spelled depth) v text) (ends : v.kind = .number → Ends rest) :
    value depth (text ++ rest) = .ok (v, rest) := by
  cases depth with
  | zero =>
    have inner : Inner Complete none none := trivial
    exact valueWith_reads inner nofun h ends
  | succ depth =>
    have inner : Inner Complete (some (Spelled depth)) (some (value depth)) := value_complete depth
    exact valueWith_reads inner (Spelled.inner_heads depth) h ends

/-- The reader accepts exactly the texts that hold a value and nothing else. -/
theorem document_eq_ok_iff {text : List Char} {v : Value} :
    document text = .ok v ↔ Holds v text := by
  constructor
  · intro h
    unfold document at h
    split at h
    · cases h
    · rename_i v' after read
      obtain ⟨body, rfl, spelled⟩ := value_sound maxDepth _ _ _ read
      obtain ⟨gap, hgap, split⟩ := exists_gap after
      split at h
      · rename_i skipped
        cases h
        rw [skipped, List.append_nil] at split
        exact ⟨body, gap, spelled, hgap, by rw [split]⟩
      · cases h
  · rintro ⟨body, gap, spelled, hgap, rfl⟩
    have ends : Ends gap := by
      have := ends_gap hgap ends_nil
      rwa [List.append_nil] at this
    have skip : skipGap gap = [] := by
      have := skipGap_append hgap []
      rwa [List.append_nil] at this
    rw [document, value_complete maxDepth v body gap spelled ends]
    simp only [skip]

/-! ## What is spelled -/

section Each

variable {P : α → List Char → Prop} {Q : α → Prop} (hP : ∀ a text, P a text → Q a)

include hP

theorem Led.each {a : α} {text : List Char} (h : Led P a text) : Q a := by
  obtain ⟨gap, body, _, hbody, _⟩ := h
  exact hP a body hbody

theorem More.each {e : Enclosure} {as : List α} {text : List Char} (h : More e P as text) :
    ∀ a ∈ as, Q a := by
  induction h with
  | close _ => exact List.forall_mem_nil _
  | next _ hitem _ ih => exact List.forall_mem_cons.mpr ⟨hitem.each hP, ih⟩

/-- What holds of all that is spelled holds of every item of a list. -/
theorem Items.each {e : Enclosure} {as : List α} {text : List Char} (h : Items e P as text) :
    ∀ a ∈ as, Q a := by
  cases h with
  | empty _ => exact List.forall_mem_nil _
  | listed hitem hmore => exact List.forall_mem_cons.mpr ⟨hitem.each hP, hmore.each hP⟩

theorem Member.each {ka : String × α} {text : List Char} (h : Member P ka text) : Q ka.2 := by
  cases h with
  | mk _ _ hitem => exact hitem.each hP

end Each

/-! ## Deeper grammars -/

section Imp

variable {P Q : α → List Char → Prop} (incl : ∀ a text, P a text → Q a text)

include incl

theorem Led.imp {a : α} {text : List Char} (h : Led P a text) : Led Q a text := by
  obtain ⟨gap, body, hgap, hbody, split⟩ := h
  exact ⟨gap, body, hgap, incl a body hbody, split⟩

theorem More.imp {e : Enclosure} {as : List α} {text : List Char} (h : More e P as text) :
    More e Q as text := by
  induction h with
  | close hgap => exact .close hgap
  | next hgap hitem _ ih => exact .next hgap (hitem.imp incl) ih

theorem Items.imp {e : Enclosure} {as : List α} {text : List Char} (h : Items e P as text) :
    Items e Q as text := by
  cases h with
  | empty hgap => exact .empty hgap
  | listed hitem hmore => exact .listed (hitem.imp incl) (hmore.imp incl)

theorem Member.imp {ka : String × α} {text : List Char} (h : Member P ka text) :
    Member Q ka text := by
  cases h with
  | mk quotes hgap hitem => exact .mk quotes hgap (hitem.imp incl)

end Imp

/-- A text for a value stays one when more texts may stand inside it. -/
theorem SpelledWith.imp {texts texts' : Option (Value → List Char → Prop)}
    (imp : ∀ P, texts = some P → ∃ Q, texts' = some Q ∧ ∀ v text, P v text → Q v text) {v : Value}
    {body : List Char} (h : SpelledWith texts v body) : SpelledWith texts' v body := by
  cases h with
  | null => exact .null
  | boolTrue => exact .boolTrue
  | boolFalse => exact .boolFalse
  | number spells => exact .number spells
  | string quotes => exact .string quotes
  | array inner hitems =>
    obtain ⟨Q, inner', deeper⟩ := imp _ inner
    exact .array inner' (hitems.imp deeper)
  | object inner hitems =>
    obtain ⟨Q, inner', deeper⟩ := imp _ inner
    exact .object inner' (hitems.imp fun _ _ => Member.imp deeper)

theorem Spelled.succ {depth : Nat} {v : Value} {body : List Char} (h : Spelled depth v body) :
    Spelled (depth + 1) v body := by
  induction depth generalizing v body with
  | zero =>
    refine SpelledWith.imp ?_ (show SpelledWith none v body from h)
    exact fun P hP => nomatch hP
  | succ depth ih =>
    refine SpelledWith.imp ?_ (show SpelledWith (some (Spelled depth)) v body from h)
    rintro P hP
    cases hP
    exact ⟨Spelled (depth + 1), rfl, fun _ _ => ih⟩

/-- A text for a value is one wherever more arrays and objects may stand inside one another. -/
theorem Spelled.deeper {depth depth' : Nat} (le : depth ≤ depth') {v : Value} {body : List Char}
    (h : Spelled depth v body) : Spelled depth' v body := by
  induction le with
  | refl => exact h
  | step _ ih => exact ih.succ

/-- An object is read from its first brace to its last, whatever follows. -/
theorem value_object {depth : Nat} {ms : List (String × Value)} {body : List Char}
    (h : Items .object (Member (Spelled depth)) ms body) (rest : List Char) :
    value (depth + 1) ('{' :: (body ++ rest)) = .ok (.object (Members.ofList ms), rest) := by
  have members := member_complete (value_complete depth)
  have skip : skipGap ('{' :: (body ++ rest)) = '{' :: (body ++ rest) := skipGap_cons rfl _
  simp only [value, valueWith, skip]
  show found _ (items .object (member (value depth)) (body ++ rest)) = _
  rw [items_complete Enclosure.object_clear members (Member.heads _) h, found_ok]
  rfl

/-! ## Classes of texts -/

/-- A class of texts that has all literals, all characters but quotation marks and backslashes, and
whatever is joined from texts of the class. -/
structure Joins (R : List Char → Prop) : Prop where
  nil : R []
  append : ∀ {t u : List Char}, R t → R u → R (t ++ u)
  char : ∀ {c : Char}, c ≠ '"' → c ≠ '\\' → R [c]
  literal : ∀ {cs content : List Char}, Quotes cs content → R ('"' :: content ++ ['"'])

namespace Joins

variable {R : List Char → Prop} (joins : Joins R)

include joins

theorem of_ordinary {text : List Char} (h : ∀ c ∈ text, c ≠ '"' ∧ c ≠ '\\') : R text := by
  induction text with
  | nil => exact joins.nil
  | cons c text ih =>
    obtain ⟨quote, backslash⟩ := h c List.mem_cons_self
    exact joins.append (joins.char quote backslash) (ih fun d hd => h d (List.mem_cons_of_mem c hd))

theorem gap {text : List Char} (h : Gap text) : R text :=
  joins.of_ordinary fun c hc =>
    ⟨Scanner.ne_quote_of_isBlank (h.blank c hc), Scanner.ne_backslash_of_isBlank (h.blank c hc)⟩

theorem numeral {text : List Char} (h : ∀ c ∈ text, isNumeral c = true) : R text := by
  have none : ['"', '\\'].all (fun d => !isNumeral d) = true := rfl
  refine joins.of_ordinary fun c hc => ?_
  have other := ne_of_class none (h c hc)
  exact ⟨other '"' (by simp), other '\\' (by simp)⟩

section Parts

variable {P : α → List Char → Prop} (hP : ∀ a text, P a text → R text)

include hP

theorem led {a : α} {text : List Char} (h : Led P a text) : R text := by
  obtain ⟨gap, body, hgap, hbody, rfl⟩ := h
  exact joins.append (joins.gap hgap) (hP a body hbody)

theorem more {e : Enclosure} (close : R [e.close]) {as : List α} {text : List Char}
    (h : More e P as text) : R text := by
  induction h with
  | close hgap => exact joins.append (joins.gap hgap) close
  | next hgap hitem _ ih =>
    have comma := joins.char (c := ',') (by decide) (by decide)
    exact joins.append (joins.gap hgap)
      (joins.append comma (joins.append (joins.led hP hitem) ih))

theorem items {e : Enclosure} (close : R [e.close]) {as : List α} {text : List Char}
    (h : Items e P as text) : R text := by
  cases h with
  | empty hgap => exact joins.append (joins.gap hgap) close
  | listed hitem hmore => exact joins.append (joins.led hP hitem) (joins.more hP close hmore)

theorem member {ka : String × α} {text : List Char} (h : Member P ka text) : R text := by
  cases h with
  | mk quotes hgap hitem =>
    have colon := joins.char (c := ':') (by decide) (by decide)
    exact joins.append (joins.literal quotes)
      (joins.append (joins.gap hgap) (joins.append colon (joins.led hP hitem)))

end Parts

theorem spelledWith {texts : Option (Value → List Char → Prop)}
    (hP : ∀ P, texts = some P → ∀ v text, P v text → R text) {v : Value} {text : List Char}
    (h : SpelledWith texts v text) : R text := by
  cases h with
  | null | boolTrue | boolFalse => exact joins.of_ordinary (by simp)
  | number spells => exact joins.numeral spells.numeral
  | string quotes => exact joins.literal quotes
  | array texts hitems =>
    have opens := joins.char (c := '[') (by decide) (by decide)
    exact joins.append opens (joins.items (hP _ texts) (joins.char (by decide) (by decide)) hitems)
  | @object P ms body texts hitems =>
    have opens := joins.char (c := '{') (by decide) (by decide)
    have members : ∀ m text, Member P m text → R text := fun _ _ => joins.member (hP P texts)
    exact joins.append opens (joins.items members (joins.char (by decide) (by decide)) hitems)

theorem spelled {depth : Nat} {v : Value} {text : List Char} (h : Spelled depth v text) :
    R text := by
  induction depth generalizing v text with
  | zero =>
    refine joins.spelledWith ?_ (show SpelledWith none v text from h)
    exact fun P hP => nomatch hP
  | succ depth ih =>
    refine joins.spelledWith ?_ (show SpelledWith (some (Spelled depth)) v text from h)
    rintro P hP v text hbody
    cases hP
    exact ih hbody

/-- All texts that hold a value belong to the class. -/
theorem holds {v : Value} {text : List Char} (h : Holds v text) : R text := by
  obtain ⟨body, gap, spelled, hgap, rfl⟩ := h
  exact joins.append (joins.led (fun _ _ => joins.spelled) spelled) (joins.gap hgap)

end Joins

/-! ## Quotation marks and backslashes -/

theorem joins_wellquoted : Joins Wellquoted where
  nil := .nil
  append := .append
  char quote backslash := .char quote backslash .nil
  literal quotes := .of_literal quotes.escaped

section Wellquoted

variable {P : α → List Char → Prop} (hP : ∀ a text, P a text → Wellquoted text)

include hP

theorem Led.wellquoted {a : α} {text : List Char} (h : Led P a text) : Wellquoted text :=
  joins_wellquoted.led hP h

theorem Member.wellquoted {ka : String × α} {text : List Char} (h : Member P ka text) :
    Wellquoted text :=
  joins_wellquoted.member hP h

end Wellquoted

/-- Quotation marks and backslashes occur in the literals of a value only. -/
theorem Spelled.wellquoted {depth : Nat} {v : Value} {text : List Char}
    (h : Spelled depth v text) : Wellquoted text :=
  joins_wellquoted.spelled h

theorem Holds.wellquoted {v : Value} {text : List Char} (h : Holds v text) : Wellquoted text :=
  joins_wellquoted.holds h

end Reprint.Reader
