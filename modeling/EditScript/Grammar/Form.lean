import EditScript.Grammar.Cursor
import EditScript.Operation.Printer

/-!
# The forms of the notation

Each kind of operation has a form: a description, coordinates, the operator and
its operand, with blanks between them. A form is looked for at every place of a
text, from the left, and at one place there is at most one way to read it.
-/

namespace EditScript

def Kind.takesLength : Kind → Bool
  | .insert _ => false
  | _ => true

namespace Grammar

inductive Operand where
  | delete
  | insert (side : Side) (content : Capture)
  | replace (content : Capture)
  | move (side : Side) (target : Capture)
  | swap (described : Option Capture) (position : Capture) (length : Option Capture)
  deriving DecidableEq, Repr

def Operand.kind : Operand → Kind
  | delete => .delete
  | insert side _ => .insert side
  | replace _ => .replace
  | move side _ => .move side
  | swap _ _ _ => .swap

structure Match where
  /-- The text of the whole form, and its offset. -/
  whole : Capture
  described : Option Capture
  position : Capture
  length : Option Capture
  operand : Operand
  deriving DecidableEq, Repr

def Match.stop (found : Match) : Nat :=
  found.whole.offset + found.whole.text.length

def operand? (kind : Kind) (cursor : Cursor) : Option (Operand × Cursor) :=
  match kind with
  | .delete => some (.delete, cursor)
  | .insert side => do
    let (content, behind) ← cursor.skipBlanks.quoted?
    some (.insert side content, behind)
  | .replace => do
    let (content, behind) ← cursor.skipBlanks.quoted?
    some (.replace content, behind)
  | .move side => do
    let (target, behind) ← cursor.skipBlanks.position?
    some (.move side target, behind)
  | .swap => do
    let (described, behind) ← cursor.skipBlanks.description?
    let (position, behind) ← behind.position?
    let (length, behind) := behind.length?
    some (.swap described position length, behind)

def matchAt? (kind : Kind) (cursor : Cursor) : Option Match := do
  let (described, behind) ← cursor.description?
  let (position, behind) ← behind.position?
  let (length, behind) := if kind.takesLength then behind.length? else (none, behind)
  let behind ← behind.skipBlanks.token? kind.operator
  let (operand, behind) ← operand? kind behind
  some {
    whole := ⟨cursor.rest.take (behind.offset - cursor.offset), cursor.offset⟩
    described, position, length, operand }

/-- The first form of a kind in a text whose offset is given. -/
def findFrom? (kind : Kind) : (offset : Nat) → Text → Option Match
  | _, [] => none
  | offset, char :: rest =>
    match matchAt? kind ⟨offset, char :: rest⟩ with
    | some found => some found
    | none => findFrom? kind (offset + 1) rest

def find? (kind : Kind) (text : Text) : Option Match :=
  findFrom? kind 0 text

def Match.parts (found : Match) : List (String × Option Capture) :=
  let lead := [("input", found.described), ("at", some found.position)]
  let length := ("run", found.length)
  match found.operand with
  | .delete => lead ++ [length]
  | .insert _ content => lead ++ [("text", some content)]
  | .replace content => lead ++ [length, ("text", some content)]
  | .move _ target => lead ++ [length, ("to", some target)]
  | .swap described position second =>
    lead ++ [length, ("input2", described), ("at2", some position), ("run2", second)]

/-- Kinds in the order in which their operators are looked for. An operator comes
before the operators that are parts of it. -/
def operatorOrder : List Kind :=
  [.delete, .insert .before, .insert .after, .swap, .move .after, .move .before, .replace]

/-- The kind of operation that a text writes: the first one whose operator stands
outside all literal regions. -/
def detect? (text : Text) : Option Kind :=
  operatorOrder.find? fun kind => Text.occursIn kind.operator (maskLiterals text)

end Grammar

end EditScript
