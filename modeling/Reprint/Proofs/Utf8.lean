import Mathlib.Tactic.SplitIfs
import Reprint.Reader.Source

set_option autoImplicit false

/-!
# UTF-8

The form of a text is the forms of its characters in a row.  A character is a lead byte and as many
continuation bytes as the lead byte calls for, and the bits of all of them make up its code point.
Bytes that are not the form of a text are one up to some place, and what stands there is defective
in one of a few ways.
-/

namespace Reprint

theorem toUTF8_toList (s : String) : s.toUTF8.toList = s.toList.flatMap String.utf8EncodeChar := by
  have form : s.toUTF8 = (s.toList.flatMap String.utf8EncodeChar).toByteArray := by
    rw [String.toUTF8_eq_toByteArray]
    have same := String.toByteArray_ofList (l := s.toList)
    rwa [String.ofList_toList] at same
  rw [Reader.bytes_toList, form]
  simp

namespace Utf8

/-! ## Lead bytes and continuation bytes -/

/-- A continuation byte. -/
def Continues (b : UInt8) : Prop := 0x80 ≤ b.toNat ∧ b.toNat < 0xC0

instance (b : UInt8) : Decidable (Continues b) := inferInstanceAs (Decidable (_ ∧ _))

/-- The byte is a lead byte that calls for so many continuation bytes. -/
inductive Leads (b : UInt8) : Nat → Prop where
  | alone : b.toNat < 0x80 → Leads b 0
  | one : 0xC0 ≤ b.toNat → b.toNat < 0xE0 → Leads b 1
  | two : 0xE0 ≤ b.toNat → b.toNat < 0xF0 → Leads b 2
  | three : 0xF0 ≤ b.toNat → b.toNat < 0xF8 → Leads b 3

/-- The bits of a lead byte that do not say how many continuation bytes it calls for. -/
def leadBits (b : UInt8) : Nat → Nat
  | 0 => b.toNat
  | 1 => b.toNat % 32
  | 2 => b.toNat % 16
  | _ => b.toNat % 8

/-- The number that the bits of a lead byte and of its continuation bytes make up. -/
def number (b : UInt8) (cs : List UInt8) : Nat :=
  cs.foldl (fun n c => n * 64 + c.toNat % 64) (leadBits b cs.length)

/-- The least number that needs so many continuation bytes. -/
def least : Nat → Nat
  | 0 => 0
  | 1 => 0x80
  | 2 => 0x800
  | _ => 0x10000

/-- A lead byte and the continuation bytes that it calls for. -/
structure Led (b : UInt8) (cs : List UInt8) : Prop where
  called : Leads b cs.length
  continued : ∀ c ∈ cs, Continues c

/-- What stands at the beginning cannot be the beginning of a text. -/
inductive Defect : List UInt8 → Prop where
  /-- A continuation byte that no lead byte calls for. -/
  | stray {b : UInt8} {rest : List UInt8} : Continues b → Defect (b :: rest)
  /-- A byte that is no lead byte and no continuation byte. -/
  | unused {b : UInt8} {rest : List UInt8} : 0xF8 ≤ b.toNat → Defect (b :: rest)
  /-- The bytes end before all continuation bytes are there. -/
  | truncated {b : UInt8} {cs : List UInt8} {n : Nat} : Leads b n → cs.length < n →
      (∀ c ∈ cs, Continues c) → Defect (b :: cs)
  /-- Something else stands where a continuation byte is called for. -/
  | missing {b c : UInt8} {cs rest : List UInt8} {n : Nat} : Leads b n → cs.length < n →
      (∀ c ∈ cs, Continues c) → ¬ Continues c → Defect (b :: (cs ++ c :: rest))
  /-- A number in more bytes than it needs. -/
  | overlong {b : UInt8} {cs rest : List UInt8} : Led b cs → number b cs < least cs.length →
      Defect (b :: (cs ++ rest))
  | surrogate {b : UInt8} {cs rest : List UInt8} : Led b cs → 0xD800 ≤ number b cs →
      number b cs < 0xE000 → Defect (b :: (cs ++ rest))
  /-- A number above all code points. -/
  | beyond {b : UInt8} {cs rest : List UInt8} : Led b cs → 0x10FFFF < number b cs →
      Defect (b :: (cs ++ rest))

theorem Leads.unique {b : UInt8} {m n : Nat} (h : Leads b m) (h' : Leads b n) : m = n := by
  cases h <;> cases h' <;> omega

theorem Leads.not_continues {b : UInt8} {n : Nat} (h : Leads b n) : ¬ Continues b := by
  unfold Continues
  cases h <;> omega

theorem Leads.used {b : UInt8} {n : Nat} (h : Leads b n) : b.toNat < 0xF8 := by
  cases h <;> omega

/-- A byte that is in use is a lead byte or a continuation byte. -/
theorem leads_of {b : UInt8} (other : ¬ Continues b) (used : b.toNat < 0xF8) :
    ∃ n, Leads b n := by
  unfold Continues at other
  by_cases alone : b.toNat < 0x80
  · exact ⟨0, .alone alone⟩
  by_cases one : b.toNat < 0xE0
  · exact ⟨1, .one (by omega) one⟩
  by_cases two : b.toNat < 0xF0
  · exact ⟨2, .two (by omega) two⟩
  · exact ⟨3, .three (by omega) used⟩

/-- It is known which continuation bytes belong to a lead byte. -/
theorem Led.unique {b : UInt8} {cs ds r r' : List UInt8} (h : Led b cs) (h' : Led b ds)
    (same : cs ++ r = ds ++ r') : cs = ds :=
  (List.append_inj same (h.called.unique h'.called)).1

/-- Where all continuation bytes are there, none is missing. -/
theorem Led.not_missing {b c : UInt8} {cs ds r r' : List UInt8} {n : Nat} (h : Led b cs)
    (called : Leads b n) (few : ds.length < n) (other : ¬ Continues c) :
    cs ++ r ≠ ds ++ c :: r' := by
  intro same
  have fewer : ds.length < cs.length := by rwa [h.called.unique called]
  have here : (cs ++ r)[ds.length]? = some c := by
    rw [same]
    simp
  rw [List.getElem?_append_left fewer] at here
  exact other (h.continued c (List.mem_of_getElem? here))

/-! ## Characters -/

theorem byte_eq {n : Nat} {b : UInt8} (h : n = b.toNat) : UInt8.ofNat n = b := by
  rw [h, UInt8.ofNat_toNat]

/-- A character is a lead byte with its continuation bytes, and none of these could be spared. -/
theorem encode_led (c : Char) :
    ∃ b cs, String.utf8EncodeChar c = b :: cs ∧ Led b cs ∧ number b cs = c.toNat ∧
      least cs.length ≤ c.toNat := by
  have bound : c.val.toNat < 0x110000 := by
    rcases c.valid with h | h <;> omega
  unfold String.utf8EncodeChar
  change ∃ b cs, _ ∧ _ ∧ _ = c.val.toNat ∧ _ ≤ c.val.toNat
  generalize c.val.toNat = n at *
  simp only
  split_ifs with alone one two
  · have same : (UInt8.ofNat n).toNat = n := UInt8.toNat_ofNat_of_lt' (show n < 256 by omega)
    exact ⟨_, [], rfl, ⟨.alone (by omega), List.forall_mem_nil _⟩, same, Nat.zero_le n⟩
  all_goals
    refine ⟨_, _, rfl, ⟨?_, ?_⟩, ?_, ?_⟩
    · constructor <;> rw [UInt8.toNat_ofNat'] <;> omega
    · simp only [List.forall_mem_cons, List.not_mem_nil, false_implies, implies_true, and_true,
        Continues, UInt8.toNat_ofNat']
      omega
    · simp only [number, leadBits, List.length_cons, List.length_nil, List.foldl_cons,
        List.foldl_nil, UInt8.toNat_ofNat', Nat.reduceAdd]
      omega
    · simp only [least, List.length_cons, List.length_nil, Nat.reduceAdd]
      omega

/-- A lead byte with its continuation bytes is a character, unless a byte could be spared or the
number is no code point of a character. -/
theorem led_encode {b : UInt8} {cs : List UInt8} (h : Led b cs)
    (needed : least cs.length ≤ number b cs) (valid : (number b cs).isValidChar) :
    ∃ c : Char, String.utf8EncodeChar c = b :: cs := by
  have bound : number b cs < 0x110000 := by
    rcases valid with h | h <;> omega
  refine ⟨Char.ofNatAux _ valid, ?_⟩
  have value : (Char.ofNatAux _ valid).val.toNat = number b cs := rfl
  unfold String.utf8EncodeChar
  rw [value]
  clear value
  generalize made : number b cs = n at *
  obtain ⟨called, continued⟩ := h
  rcases cs with _ | ⟨c, _ | ⟨d, _ | ⟨e, _ | _⟩⟩⟩
  · cases called
    have same : n = b.toNat := made.symm
    rw [if_pos (by omega), byte_eq same]
  all_goals cases called
  all_goals simp only [List.forall_mem_cons, List.not_mem_nil, false_implies, implies_true,
    and_true, Continues, number, leadBits, least, List.length_cons, List.length_nil,
    List.foldl_cons, List.foldl_nil, Nat.reduceAdd] at *
  · rw [if_neg (by omega), if_pos (by omega)]
    simp only [List.cons.injEq, and_true]
    exact ⟨byte_eq (by omega), byte_eq (by omega)⟩
  · rw [if_neg (by omega), if_neg (by omega), if_pos (by omega)]
    simp only [List.cons.injEq, and_true]
    exact ⟨byte_eq (by omega), byte_eq (by omega), byte_eq (by omega)⟩
  · rw [if_neg (by omega), if_neg (by omega), if_neg (by omega)]
    simp only [List.cons.injEq, and_true]
    exact ⟨byte_eq (by omega), byte_eq (by omega), byte_eq (by omega), byte_eq (by omega)⟩

/-- A character is read in one way. -/
theorem encode_append_inj {c d : Char} {r r' : List UInt8}
    (same : String.utf8EncodeChar c ++ r = String.utf8EncodeChar d ++ r') : c = d ∧ r = r' := by
  obtain ⟨b, cs, form, led, spelled, _⟩ := encode_led c
  obtain ⟨b', cs', form', led', spelled', _⟩ := encode_led d
  rw [form, form', List.cons_append, List.cons_append, List.cons.injEq] at same
  obtain ⟨rfl, same⟩ := same
  obtain rfl : cs = cs' := led.unique led' same
  exact ⟨Char.toNat_inj.mp (spelled.symm.trans spelled'), List.append_cancel_left same⟩

/-- The continuation bytes that are called for are all there, or the bytes end before, or another
byte comes before. -/
theorem continuation (n : Nat) (bs : List UInt8) :
    (∃ cs rest, bs = cs ++ rest ∧ cs.length = n ∧ ∀ c ∈ cs, Continues c) ∨
      (bs.length < n ∧ ∀ c ∈ bs, Continues c) ∨
      ∃ cs c rest, bs = cs ++ c :: rest ∧ cs.length < n ∧ (∀ c ∈ cs, Continues c) ∧
        ¬ Continues c := by
  induction n generalizing bs with
  | zero => exact .inl ⟨[], bs, rfl, rfl, List.forall_mem_nil _⟩
  | succ n ih =>
    cases bs with
    | nil => exact .inr (.inl ⟨Nat.succ_pos n, List.forall_mem_nil _⟩)
    | cons b bs =>
      by_cases continues : Continues b
      · rcases ih bs with ⟨cs, rest, rfl, full, all⟩ | ⟨few, all⟩ |
          ⟨cs, c, rest, rfl, few, all, other⟩
        · exact .inl ⟨b :: cs, rest, rfl, congrArg Nat.succ full,
            List.forall_mem_cons.mpr ⟨continues, all⟩⟩
        · exact .inr (.inl ⟨Nat.succ_lt_succ few, List.forall_mem_cons.mpr ⟨continues, all⟩⟩)
        · exact .inr (.inr ⟨b :: cs, c, rest, rfl, Nat.succ_lt_succ few,
            List.forall_mem_cons.mpr ⟨continues, all⟩, other⟩)
      · exact .inr (.inr ⟨[], b, bs, rfl, Nat.succ_pos n, List.forall_mem_nil _, continues⟩)

/-- What is not defective begins with a character. -/
theorem encode_or_defect {q : List UInt8} (some : q ≠ []) :
    (∃ c rest, q = String.utf8EncodeChar c ++ rest) ∨ Defect q := by
  obtain ⟨b, bs, rfl⟩ := List.exists_cons_of_ne_nil some
  by_cases stray : Continues b
  · exact .inr (.stray stray)
  by_cases unused : 0xF8 ≤ b.toNat
  · exact .inr (.unused unused)
  obtain ⟨n, called⟩ := leads_of stray (by omega)
  rcases continuation n bs with ⟨cs, rest, rfl, rfl, all⟩ | ⟨few, all⟩ |
    ⟨cs, c, rest, rfl, few, all, other⟩
  · have led : Led b cs := ⟨called, all⟩
    by_cases overlong : number b cs < least cs.length
    · exact .inr (.overlong led overlong)
    by_cases beyond : 0x10FFFF < number b cs
    · exact .inr (.beyond led beyond)
    by_cases surrogate : 0xD800 ≤ number b cs ∧ number b cs < 0xE000
    · exact .inr (.surrogate led surrogate.1 surrogate.2)
    have valid : (number b cs).isValidChar := by
      unfold Nat.isValidChar
      omega
    obtain ⟨c, form⟩ := led_encode led (by omega) valid
    exact .inl ⟨c, rest, by rw [form, List.cons_append]⟩
  · exact .inr (.truncated called few all)
  · exact .inr (.missing called few all other)

theorem not_defect_nil : ¬ Defect [] := by
  intro h
  cases h

/-- What begins with a character is not defective: the lead byte of a defect would call for the same
continuation bytes, and these have the bits of a code point. -/
theorem not_defect_encode (c : Char) (r : List UInt8) :
    ¬ Defect (String.utf8EncodeChar c ++ r) := by
  obtain ⟨b, cs, form, led, spelled, needed⟩ := encode_led c
  have valid : c.toNat < 0xD800 ∨ 0xDFFF < c.toNat ∧ c.toNat < 0x110000 := c.valid
  rw [form, List.cons_append]
  intro h
  generalize whole : cs ++ r = bs at h
  cases h with
  | stray stray => exact led.called.not_continues stray
  | unused unused => exact absurd led.called.used (by omega)
  | truncated called few _ =>
    have calls := called.unique led.called
    rw [← whole, List.length_append] at few
    omega
  | missing called few _ other => exact led.not_missing called few other whole
  | overlong led' overlong =>
    rw [← led.unique led' whole, spelled] at overlong
    omega
  | surrogate led' low high =>
    rw [← led.unique led' whole, spelled] at low high
    omega
  | beyond led' beyond =>
    rw [← led.unique led' whole, spelled] at beyond
    omega

/-! ## Texts -/

/-- The bytes are the form of a text up to some place, and defective there. -/
def Malformed (bs : List UInt8) : Prop :=
  ∃ (s : String) (q : List UInt8), bs = s.toUTF8.toList ++ q ∧ Defect q

/-- Characters are taken off as long as there is one. -/
theorem text_or_defect (bs : List UInt8) :
    ∃ (cs : List Char) (q : List UInt8), bs = cs.flatMap String.utf8EncodeChar ++ q ∧
      (q = [] ∨ Defect q) := by
  by_cases none : bs = []
  · exact ⟨[], [], none, .inl rfl⟩
  rcases encode_or_defect none with ⟨c, rest, rfl⟩ | defect
  · have shorter : rest.length < (String.utf8EncodeChar c ++ rest).length := by
      have some := List.length_pos_iff.mpr (String.utf8EncodeChar_ne_nil (c := c))
      rw [List.length_append]
      omega
    obtain ⟨cs, q, rfl, ends⟩ := text_or_defect rest
    exact ⟨c :: cs, q, by rw [List.flatMap_cons, List.append_assoc], ends⟩
  · exact ⟨[], bs, rfl, .inr defect⟩
termination_by bs.length

theorem not_defect_of_text {cs ds : List Char} {q : List UInt8}
    (same : cs.flatMap String.utf8EncodeChar = ds.flatMap String.utf8EncodeChar ++ q) :
    ¬ Defect q := by
  induction ds generalizing cs with
  | nil =>
    rw [List.flatMap_nil, List.nil_append] at same
    rw [← same]
    cases cs with
    | nil => exact not_defect_nil
    | cons c cs =>
      rw [List.flatMap_cons]
      exact not_defect_encode c _
  | cons d ds ih =>
    cases cs with
    | nil =>
      rw [List.flatMap_nil, List.flatMap_cons, List.append_assoc] at same
      exact absurd (List.append_eq_nil_iff.mp same.symm).1 String.utf8EncodeChar_ne_nil
    | cons c cs =>
      rw [List.flatMap_cons, List.flatMap_cons, List.append_assoc] at same
      exact ih (encode_append_inj same).2

/-- Bytes are malformed when they are not the form of a text. -/
theorem malformed_iff {bs : List UInt8} : Malformed bs ↔ ¬ ∃ s : String, bs = s.toUTF8.toList := by
  constructor
  · rintro ⟨s, q, rfl, defect⟩ ⟨t, same⟩
    rw [toUTF8_toList, toUTF8_toList] at same
    exact not_defect_of_text same.symm defect
  · intro other
    obtain ⟨cs, q, rfl, ends⟩ := text_or_defect bs
    have form : (String.ofList cs).toUTF8.toList = cs.flatMap String.utf8EncodeChar := by
      rw [toUTF8_toList, String.toList_ofList]
    rcases ends with rfl | defect
    · exact absurd ⟨String.ofList cs, by rw [form, List.append_nil]⟩ other
    · exact ⟨String.ofList cs, q, by rw [form], defect⟩

end Utf8

end Reprint
