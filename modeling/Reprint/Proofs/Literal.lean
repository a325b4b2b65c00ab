import Reprint.Proofs.Scanning
import Reprint.Reader.Literal

set_option autoImplicit false

/-!
# Reading a literal

The reader finds the end of a literal by its escapes, and the scanner by the backslashes before each
quotation mark.  They agree because what the reader takes for the content of a literal is
`Text.Escaped`.
-/

namespace Reprint.Reader

open Reprint.Text

/-- Between quotation marks, `content` stands for the characters `cs`. -/
structure Quotes (cs content : List Char) : Prop where
  escaped : Escaped content
  /-- Control characters are written as escapes. -/
  visible : ∀ c ∈ content, 0x20 ≤ c.toNat
  reads : ∀ rest, literal (content ++ '"' :: rest) = .ok (cs, rest)

/-- A literal stands on one line. -/
theorem Quotes.ne_feed {cs content : List Char} (h : Quotes cs content) :
    ∀ c ∈ '"' :: content ++ ['"'], c ≠ '\n' := by
  intro c hc same
  subst same
  have inside : '\n' ∈ content := by simpa using hc
  exact absurd (h.visible _ inside) (by decide)

/-- A hexadecimal digit needs no escape. -/
theorem hexDigit?_ordinary {c : Char} {n : Nat} (h : hexDigit? c = some n) :
    c ≠ '"' ∧ c ≠ '\\' := by
  have quote : hexDigit? '"' = none := by decide
  have backslash : hexDigit? '\\' = none := by decide
  constructor
  · rintro rfl
    cases quote.symm.trans h
  · rintro rfl
    cases backslash.symm.trans h

theorem hexDigit?_visible {c : Char} {n : Nat} (h : hexDigit? c = some n) : 0x20 ≤ c.toNat := by
  have above : ∀ d : Char, 0x20 ≤ d.toNat → d ≤ c → 0x20 ≤ c.toNat :=
    fun d hd le => Nat.le_trans hd (UInt32.le_iff_toNat_le.mp le)
  unfold hexDigit? at h
  split at h
  · next digit => exact above '0' (by decide) digit.1
  split at h
  · next lower => exact above 'a' (by decide) lower.1
  split at h
  · next upper => exact above 'A' (by decide) upper.1
  · cases h

theorem shortEscape?_visible {c d : Char} (h : shortEscape? c = some d) : 0x20 ≤ c.toNat := by
  unfold shortEscape? at h
  split at h
  case h_9 => cases h
  all_goals decide

/-- Hexadecimal digits are visible. -/
theorem hexValue?_visible {a b c d : Char} {n : Nat} (h : hexValue? a b c d = some n) :
    ∀ x ∈ [a, b, c, d], 0x20 ≤ x.toNat := by
  simp only [hexValue?, Option.bind_eq_bind, Option.pure_def, Option.bind_eq_some_iff] at h
  obtain ⟨_, ha, _, hb, _, hc, _, hd, _⟩ := h
  simp [hexDigit?_visible ha, hexDigit?_visible hb, hexDigit?_visible hc, hexDigit?_visible hd]

/-- Four hexadecimal digits can stand before anything in a literal. -/
theorem escaped_hex {a b c d : Char} {n : Nat} (h : hexValue? a b c d = some n)
    {text : List Char} (escaped : Escaped text) : Escaped (a :: b :: c :: d :: text) := by
  simp only [hexValue?, Option.bind_eq_bind, Option.pure_def, Option.bind_eq_some_iff] at h
  obtain ⟨_, ha, _, hb, _, hc, _, hd, _⟩ := h
  obtain ⟨a₁, a₂⟩ := hexDigit?_ordinary ha
  obtain ⟨b₁, b₂⟩ := hexDigit?_ordinary hb
  obtain ⟨c₁, c₂⟩ := hexDigit?_ordinary hc
  obtain ⟨d₁, d₂⟩ := hexDigit?_ordinary hd
  exact .plain a₁ a₂ (.plain b₁ b₂ (.plain c₁ c₂ (.plain d₁ d₂ escaped)))

theorem noHex_ne_ok {α : Type} (text : List Char) (a : α) : noHex text ≠ .ok a := by
  intro h
  cases h

theorem noPair_ne_ok {α : Type} (text : List Char) (a : α) : noPair text ≠ .ok a := by
  unfold noPair
  intro h
  split at h <;> cases h

/-- A piece of a literal before some content, when the reader passes the piece whatever follows. -/
theorem quotes_piece (piece : List Char) {text cs rest : List Char} {f : List Char → List Char}
    (escaped : ∀ t, Escaped t → Escaped (piece ++ t)) (visible : ∀ c ∈ piece, 0x20 ≤ c.toNat)
    (same : ∀ t, literal (piece ++ t) = found f (literal t))
    (ih : ∀ {cs : List Char}, literal text = .ok (cs, rest) →
      ∃ content, text = content ++ '"' :: rest ∧ Quotes cs content)
    (h : found f (literal text) = .ok (cs, rest)) :
    ∃ content, piece ++ text = content ++ '"' :: rest ∧ Quotes cs content := by
  obtain ⟨cs', read, rfl⟩ := (found_eq_ok_iff f).mp h
  obtain ⟨content, rfl, quotes⟩ := ih read
  refine ⟨piece ++ content, (List.append_assoc ..).symm, escaped _ quotes.escaped,
    List.forall_mem_append.mpr ⟨visible, quotes.visible⟩, fun rest' => ?_⟩
  rw [List.append_assoc, same, quotes.reads, found_ok]

/-- What the reader takes for a literal ends with a quotation mark, and its end does not depend on
what follows. -/
theorem literal_sound {text cs rest : List Char} (h : literal text = .ok (cs, rest)) :
    ∃ content, text = content ++ '"' :: rest ∧ Quotes cs content := by
  fun_induction literal text generalizing cs with
  | case2 =>
    cases h
    exact ⟨[], rfl, .nil, nofun, fun _ => by simp [literal]⟩
  | case4 | case6 | case9 | case12 => exact absurd h (noHex_ne_ok _ _)
  | case10 => exact absurd h (noPair_ne_ok _ _)
  | case7 a b c d n value trailing leading a' b' c' d' text m value' trailing' ih =>
    -- A surrogate pair, written as two escapes.
    refine quotes_piece ['\\', 'u', a, b, c, d, '\\', 'u', a', b', c', d'] ?_ ?_ ?_ ih h
    · intro t ht
      exact .pair (escaped_hex value (.pair (escaped_hex value' ht)))
    · have first := hexValue?_visible value
      have second := hexValue?_visible value'
      simp_all
    · intro t
      simp [literal, value, trailing, leading, value', trailing']
  | case11 a b c d text n value trailing leading ih =>
    refine quotes_piece ['\\', 'u', a, b, c, d] ?_ ?_ ?_ ih h
    · intro t ht
      exact .pair (escaped_hex value ht)
    · have digits := hexValue?_visible value
      simp_all
    · intro t
      simp [literal, value, trailing, leading]
  | case14 c text _ notU c' short ih =>
    refine quotes_piece ['\\', c] ?_ ?_ ?_ ih h
    · intro t ht
      exact .pair ht
    · have letter := shortEscape?_visible short
      simp_all
    · intro t
      simp only [List.cons_append, List.nil_append]
      rw [literal]
      · rw [short]
      all_goals simp_all
  | case16 c text quote alone _ _ backslash visible ih =>
    have ordinary : c ≠ '\\' := by
      rintro rfl
      cases text with
      | nil => exact alone rfl rfl
      | cons d text => exact backslash d text rfl rfl
    refine quotes_piece [c] ?_ ?_ ?_ ih h
    · intro t ht
      exact .plain quote ordinary ht
    · simpa using visible
    · intro t
      simp only [List.cons_append, List.nil_append]
      rw [literal]
      · rw [if_neg visible]
      all_goals simp_all
  | _ => cases h

/-! ## Reading what is written -/

theorem escaped_escape (c : Char) : Escaped (escape c) := by
  unfold escape
  iterate 7 (split; · exact .pair .nil)
  split
  · next control => exact .pair (escaped_hex (hexValue?_control ⟨c.toNat, control⟩) .nil)
  · next quote backslash _ _ _ _ _ _ => exact .plain quote backslash .nil

theorem visible_escape (c : Char) : ∀ d ∈ escape c, 0x20 ≤ d.toNat := by
  unfold escape
  iterate 7 (split; · simp)
  split
  · next control =>
    have digits := hexValue?_visible (hexValue?_control ⟨c.toNat, control⟩)
    simp_all
  · next visible => simpa using visible

/-- The written form of a text stands for the text. -/
theorem quotes_escape (cs : List Char) : Quotes cs (cs.flatMap escape) where
  escaped := by
    induction cs with
    | nil => exact .nil
    | cons c cs ih => exact (escaped_escape c).append ih
  visible d hd := by
    obtain ⟨c, _, within⟩ := List.mem_flatMap.mp hd
    exact visible_escape c d within
  reads := literal_quoted cs

end Reprint.Reader
