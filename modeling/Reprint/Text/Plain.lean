set_option autoImplicit false

/-!
# Text: without control sequences

Terminals take some runs of characters as orders: an escape character and what follows it, up to an
end that depends on the kind of order.  A text for a place that is no terminal is written without
them, and without any other control characters but white space.

White space that interrupts an order is shown, and with it all that follows up to the next control
character; there the order goes on.
-/

namespace Reprint.Text

/-- How far an order has come. -/
inductive Order where
  /-- There is none. -/
  | none
  /-- An escape character has been met. -/
  | escape
  /-- Between an escape character and the letter that ends the order. -/
  | short
  /-- After an escape character and `[`: up to a letter or a similar mark. -/
  | control
  /-- After an escape character and `P`: a letter will begin a string. -/
  | device
  /-- After that and a number: marks may follow. -/
  | deviceNumbers
  /-- After that and a mark: no more numbers may follow. -/
  | deviceMarks
  /-- A string without meaning here, up to its terminator. -/
  | string
  /-- After an escape character and `]`: a string that a bell ends as well. -/
  | command
  deriving DecidableEq, Repr

namespace Order

/-- The control characters that count as white space. -/
def isSpacing (c : Char) : Bool := c == '\t' || c == '\n' || c == '\x0C' || c == '\r'

/-- A character that is shown where there is no order. -/
def isVisible (c : Char) : Bool :=
  (0x20 ≤ c.toNat && c.toNat ≠ 0x7F) || isSpacing c

/-- One of the bytes that write the character ends a string. -/
def terminates (c : Char) : Bool := 0x80 ≤ c.toNat && c.toString.toUTF8.toList.contains 0x9C

/-- How far the order has come after a character that does not begin or give up an order. -/
def after (o : Order) (c : Char) : Order :=
  let n := c.toNat
  match o with
  | none => none
  | escape =>
    if n < 0x20 || 0x7F ≤ n then escape
    else if n < 0x30 then short
    else match c with
      | '[' => control
      | ']' => command
      | 'P' => device
      | 'X' | '^' | '_' => string
      | _ => none
  | short => if 0x30 ≤ n && n < 0x7F then none else short
  | control => if 0x40 ≤ n && n < 0x7F then none else control
  | device =>
    if n < 0x20 || 0x7F ≤ n then device
    else if n < 0x30 then deviceMarks
    else if n < 0x40 then deviceNumbers
    else string
  | deviceNumbers =>
    if n < 0x20 || 0x7F ≤ n then deviceNumbers
    else if n < 0x30 then deviceMarks
    else if n < 0x3C then deviceNumbers
    else string
  | deviceMarks => if 0x30 ≤ n && n < 0x7F then string else deviceMarks
  | string => if terminates c then none else string
  | command => if c = '\x07' then none else command

/-- White space interrupts the order. -/
def isOpen : Order → Bool
  | escape | short | control => true
  | _ => false

end Order

/-- The characters that are shown. `interrupted` says that they are shown although an order has not
come to its end. -/
def visible (o : Order) (interrupted : Bool) : List Char → List Char
  | [] => []
  | c :: cs =>
    if c = '\x1B' then visible .escape false cs
    else if c = '\x18' || c = '\x1A' then visible .none false cs
    else if o = .none || interrupted then
      if Order.isVisible c then
        c :: (if 0x80 ≤ c.toNat then visible .none false cs else visible o interrupted cs)
      else visible o false cs
    else if o.isOpen && Order.isSpacing c then c :: visible o true cs
    else visible (o.after c) false cs

/-- Visible characters outside of orders are all shown. -/
theorem visible_eq_self {cs : List Char} (h : ∀ c ∈ cs, Order.isVisible c = true) :
    visible .none false cs = cs := by
  induction cs with
  | nil => rfl
  | cons c cs ih =>
    have hc : Order.isVisible c = true := h c (List.mem_cons_self ..)
    have hcs : visible .none false cs = cs := ih fun d hd => h d (List.mem_cons_of_mem c hd)
    have hescape : c ≠ '\x1B' := by rintro rfl; revert hc; decide
    have hcancel : c ≠ '\x18' := by rintro rfl; revert hc; decide
    have hsubstitute : c ≠ '\x1A' := by rintro rfl; revert hc; decide
    simp [visible, hescape, hcancel, hsubstitute, hc, hcs]

/-- A text as it is written where there is no terminal. -/
def plain (s : String) : String := String.ofList (visible .none false s.toList)

/-- A text of visible characters is written as it is. -/
theorem plain_eq_self {s : String} (h : ∀ c ∈ s.toList, Order.isVisible c = true) :
    plain s = s := by
  rw [plain, visible_eq_self h, String.ofList_toList]

end Reprint.Text
