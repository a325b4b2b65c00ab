import Reprint.Native.Encode
import Reprint.Native.Mismatch
import Reprint.Reader.Source
import Reprint.Value.Edit

set_option autoImplicit false

/-!
# Errors

Everything that can go wrong when texts and values are handled, and the wording of each case.
-/

namespace Reprint

/-- Why something cannot be done. -/
inductive Error where
  /-- There is no text to work on. -/
  | noText
  /-- A value cannot be edited. -/
  | edit (fault : EditFault)
  /-- A text is not JSON. -/
  | notJson (fault : Reader.SyntaxFault)
  /-- A value does not hold data of the wanted type. -/
  | mismatch (reason : Mismatch)
  /-- Some data has no JSON text. -/
  | name (fault : NameFault)
  /-- No text can be read from a source. -/
  | source (fault : Reader.SourceFault)

/-- What is said about an error. -/
def Error.message : Error → String
  | .noText => "invalid argument: json must not be absent"
  | .edit fault => fault.message
  | .notJson fault => "JSON error: " ++ fault.message
  | .mismatch reason => "JSON error: " ++ reason.message
  | .name fault => "JSON error: " ++ fault.message
  | .source fault => "I/O error: " ++ fault.message

end Reprint
