import EditScript.Log
import EditScript.Operation.Execute

/-!
# Executing scripts

The operations of a script are executed one after the other, each on the result
of the one before. The first that does not fit its text ends the execution.
-/

namespace EditScript

/-- The effect of an operation on a text, or how it fails. -/
def Operation.execute (operation : Operation) (text : Text) : Except Failure Text :=
  (operation.result text).mapError (Failure.ofRange (some operation))

/-- The canonical notation, unless a number of it is too long to be written. -/
def Operation.write (operation : Operation) : Except Failure Text :=
  if operation.writable then .ok operation.canonical else .error Failure.unwritable

namespace Script

def apply : Script → Text → Traced Text
  | [], text => return text
  | operation :: rest, text => do
    let result ← Traced.ofExcept (operation.execute text)
    Traced.log (.applied operation result)
    apply rest result

def render (script : Script) : Except Failure (List Text) :=
  script.mapM Operation.write

end Script

end EditScript
