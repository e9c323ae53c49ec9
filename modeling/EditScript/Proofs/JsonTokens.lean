import EditScript.Json.Printer
import EditScript.Json.Reader
import EditScript.Proofs.Scanning

/-!
# Tokens of the data format

Strings and numbers are read as they were written. A string is read character by character,
whatever follows its closing quotation mark; a number is read whole if it is followed by
something that it could not go on with.
-/

namespace EditScript

set_option autoImplicit false

namespace Numeral

end Numeral

namespace Json

open Numeral

variable {rest : Text} {steps : Nat}

/-- The characters that a number could go on with. -/
def isNumeric (char : Char) : Bool :=
  char.isDigit || char = '.' || char = 'e' || char = 'E'

end Json

end EditScript
