import EditScript.Grammar.Form
import EditScript.Log

/-!
# Parsing

Operations from their notation. The kind is told by the operator outside all
literal regions; the form of the kind is looked for in the text without notes
and tag lists; and note and tags are taken from the whole text. Every failure
says which part of the text is at fault.
-/

namespace EditScript

namespace Grammar

/-- A number of a form. One that is left out has a value of its own or is asked
for; a number below the least one is at fault together with its offset. -/
def number (found : Match) (part : Option Capture) (label : String) (least : Int)
    (absent : Option Int) : Except Failure Int :=
  match part with
  | none =>
    match absent with
    | some value => .ok value
    | none =>
      .error (.parse ⟨.missing label, some found.whole.text, some found.whole.offset⟩)
  | some capture =>
    match Numeral.read capture.text with
    | .error fault => .error (.value (.numeral fault))
    | .ok value =>
      if value < least then
        .error (.parse ⟨.tooSmall label least, some capture.text, some capture.offset⟩)
      else .ok value

def textOf (part : Option Capture) : Option Text :=
  part.map Capture.text

def positionOf (found : Match) (part : Capture) (label : String) (least : Int) :
    Except Failure Int :=
  number found (some part) label least none

/-- A length that has been read; it is one when it is left out. -/
def lengthOf (found : Match) (part : Option Capture) (label : String) : Except Failure Int :=
  number found part label 1 (some 1)

/-- The numbers of the coordinates and the fields of the operand, in reading order. -/
def numbersOf (found : Match) : Except Failure (Int × Int × Draft.Body) :=
  match found.operand with
  | .delete => do
    let start ← positionOf found found.position "Position" 1
    let length ← lengthOf found found.length "Length"
    return (start, length, .delete)
  | .insert side content => do
    let start ← positionOf found found.position "Position" 0
    return (start, 1, .insert side (.valid content.text))
  | .replace content => do
    let start ← positionOf found found.position "Position" 1
    let length ← lengthOf found found.length "Length"
    return (start, length, .replace (.valid content.text))
  | .move side target => do
    let start ← positionOf found found.position "Position" 1
    let length ← lengthOf found found.length "Length"
    let target ← positionOf found target "Target position" 1
    return (start, length, .move side (.valid target))
  | .swap described position second => do
    let start ← positionOf found found.position "First position" 1
    let length ← lengthOf found found.length "First length"
    let secondStart ← positionOf found position "Second position" 1
    let secondLength ← lengthOf found second "Second length"
    return (start, length,
      .swap (.valid secondStart) (.valid secondLength) (.valid (textOf described)))

def draftOf (text : Text) (found : Match) : Except Failure Draft := do
  let (start, length, body) ← numbersOf found
  return {
    described := .valid (textOf found.described)
    start := .valid start
    length := .valid length
    note := .valid (note? text)
    tags := .valid (tags text)
    kind := .valid ()
    body }

/-- The operation that fields make. The first fault of a field is a fault of the text. -/
def assemble (kind : Kind) (text : Text) (draft : Draft) : Except Failure Operation :=
  match draft.operation with
  | .valid operation => .ok operation
  | .outOfRange fault => .error (.range fault none)
  | .invalid fault _ => .error (.parse ⟨.refused kind fault.problem, some text, none⟩)

def parseKind (kind : Kind) (text : Text) : Except Failure Operation :=
  match find? kind (maskAnnotations text) with
  | none => .error (.parse ⟨.form kind, some text, none⟩)
  | some found => do
    let draft ← draftOf text found
    assemble kind text draft

/-- A text that is there and not blank. -/
def present (text : Option Text) : Except Failure Text :=
  match text with
  | none => .error (.parse ⟨.empty, none, none⟩)
  | some text =>
    if (Text.strip text).isEmpty then .error (.parse ⟨.empty, some text, none⟩) else .ok text

def detect (text : Text) : Except Failure Kind :=
  match detect? text with
  | none => .error (.parse ⟨.unknownOperator, some text, none⟩)
  | some kind => .ok kind

end Grammar

namespace Operation

open Grammar

/-- Reads a text as an operation of a given kind, whatever its operator. -/
def parseAs (kind : Kind) (text : Option Text) : Except Failure Operation := do
  let text ← present text
  parseKind kind text

def parse (text : Option Text) : Traced Operation := do
  let text ← Traced.ofExcept (present text)
  let kind ← Traced.ofExcept (detect text)
  let operation ← Traced.ofExcept (parseKind kind text)
  Traced.log (.parsed operation)
  return operation

end Operation

namespace Script

/-- Reads a text as an operation. Unless reading is strict, a text that does not
parse is logged and gives none; other failures are failures in either case. -/
def parseOne (strict : Bool) (text : Text) : Traced (Option Operation) :=
  let reading := Operation.parse (some text)
  match strict, reading.outcome with
  | false, .error (.parse fault) => do
    Traced.logAll reading.events
    Traced.log (.skipped text fault)
    return none
  | _, _ => some <$> reading

def parse (strict : Bool) : List Text → Traced Script
  | [] => return []
  | text :: rest => do
    let first ← parseOne strict text
    let others ← parse strict rest
    return first.toList ++ others

end Script

end EditScript
