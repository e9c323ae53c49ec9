import EditScript.Failure
import EditScript.Operation.Record

/-!
# Loading operations

Operations from data that names its kind, and from the fields of a kind that is
known beforehand. The two differ in how faults are located.
-/

namespace EditScript

def Kind.ofData (members : Json.Members) : Except Failure Kind :=
  match Json.lookup? Field.kind.name.toList members with
  | none => .error (.value .missingKind)
  | some (.string name) =>
    match Kind.ofName? name with
    | some kind => .ok kind
    | none => .error (Failure.ofUnknownKind (.string name))
  | some value => .error (Failure.ofUnknownKind value)

namespace Operation

def construct (kind : Kind) (members : Json.Members) : Except Failure Operation :=
  (ofMembers kind members).toExcept none

/-- The operation that data describes; the data names its kind. -/
def ofData (members : Json.Members) : Except Failure Operation := do
  let kind ← Kind.ofData members
  (ofMembers kind members).toExcept (some kind)

end Operation

end EditScript
