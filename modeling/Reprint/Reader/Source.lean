import Reprint.Reader.Value

set_option autoImplicit false

/-!
# Reader: byte sources

A source hands out its bytes in pieces, may ask to be read again, and may fail.  A text can be read
from it when all its bytes together are UTF-8.
-/

namespace Reprint.Reader

/-- What one read from a source gives.  A read that gives no bytes ends the source. -/
inductive Piece where
  | bytes (bs : List UInt8)
  /-- Nothing was read, and reading may go on. -/
  | interrupted
  /-- The source is broken. -/
  | failed (reason : String)
  deriving DecidableEq, Repr

/-- Why no text can be read from a source. -/
inductive SourceFault where
  | failed (reason : String)
  | notUtf8
  deriving DecidableEq, Repr

/-- What is said about a source. -/
def SourceFault.message : SourceFault → String
  | .failed reason => reason
  | .notUtf8 => "stream did not contain valid UTF-8"

/-- All bytes of a source, given what its reads give one after the other. -/
def gatherBytes : List Piece → Except SourceFault (List UInt8)
  | [] => .ok []
  | .interrupted :: ps => gatherBytes ps
  | .failed reason :: _ => .error (.failed reason)
  | .bytes [] :: _ => .ok []
  | .bytes (b :: bs) :: ps => do return b :: bs ++ (← gatherBytes ps)

/-- The text that some bytes stand for. -/
def decode (bytes : List UInt8) : Except SourceFault String :=
  match String.fromUTF8? ⟨bytes.toArray⟩ with
  | some text => .ok text
  | none => .error .notUtf8

theorem toList_loop_eq (b : ByteArray) (i : Nat) (seen : List UInt8) :
    ByteArray.toList.loop b i seen = seen.reverse ++ b.data.toList.drop i := by
  fun_induction ByteArray.toList.loop b i seen with
  | case1 i seen more ih =>
    have inside : i < b.data.toList.length := by simpa using more
    have here : b.get! i = b.data.toList[i] := by simp [ByteArray.get!, getElem!_pos, more]
    rw [ih, List.drop_eq_getElem_cons inside, here]
    simp
  | case2 i seen done =>
    have past : b.data.toList.length ≤ i := by simpa using done
    rw [List.drop_eq_nil_of_le past, List.append_nil]

theorem bytes_toList (b : ByteArray) : b.toList = b.data.toList := toList_loop_eq b 0 []

/-- Bytes stand for a text when they are its UTF-8 form, and then for no other. -/
theorem decode_eq_ok_iff {bytes : List UInt8} {text : String} :
    decode bytes = .ok text ↔ bytes = text.toUTF8.toList := by
  have decoded : decode bytes = .ok text ↔ String.fromUTF8? ⟨bytes.toArray⟩ = some text := by
    unfold decode
    split
    · next found => simp [found]
    · next found => simp [found]
  rw [decoded, bytes_toList, String.fromUTF8?, Option.dite_none_right_eq_some]
  constructor
  · rintro ⟨valid, found⟩
    rw [← Option.some.inj found]
    rfl
  · rintro rfl
    exact ⟨text.isValidUTF8, rfl⟩

/-- The text of a source. -/
def readText (pieces : List Piece) : Except SourceFault String := do
  decode (← gatherBytes pieces)

end Reprint.Reader
