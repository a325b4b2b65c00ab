import Reprint.Error
import Reprint.Layout.Printer
import Reprint.Native.Decode
import Reprint.Value.Text

set_option autoImplicit false

/-!
# Documents

Texts, values and native data, and the ways from one to the other: a text is printed or parsed, a
value is converted to native data, and data is rendered as a text.
-/

namespace Reprint

open Layout

namespace Layout.Options

/-- The form of a text that the options select; without a text there is nothing to print. -/
def printInput (o : Options) : Option String → Except Error String
  | some text => .ok (o.print text)
  | none => .error .noText

end Layout.Options

/-- The value that a text holds. -/
def parse (text : String) : Except Error Value :=
  (Value.parse text).mapError .notJson

/-- The value that the text of a byte source holds. -/
def parseSource (pieces : List Reader.Piece) : Except Error Value := do
  parse (← (Reader.readText pieces).mapError .source)

/-- The data of some type that a value holds. -/
def toNative (α : Type) [FromValue α] (v : Value) : Except Error α :=
  (fromValue v : Except Mismatch α).mapError .mismatch

section Render

variable {α : Type} [ToValue α]

/-- The compact text of some data. -/
def render (a : α) : Except Error String :=
  (Value.text <$> toValue a).mapError .name

/-- The pretty text of some data, with the recommended options. -/
def renderPretty (a : α) : Except Error String := do
  return prettify (← render a) Options.recommended.indent Options.recommended.eol

/-- The text of some data in the form that the options select. -/
def renderWith (o : Options) (a : α) : Except Error String := do
  return o.print (← render a)

end Render

end Reprint
