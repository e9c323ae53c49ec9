import EditScript.Json.Value
import EditScript.Operation.Draft

/-!
# Failures

Everything that can go wrong, by cause: a notation that does not parse,
coordinates that do not fit, fields that do not make an operation, and values
that are no numbers or kinds. The wording is in the `message` functions alone.
-/

namespace EditScript

def Kind.expectedForm : Kind → String
  | .delete => "\"text\"@position! or @position!"
  | .insert .before => "@position+=\"text\""
  | .insert .after => "@position=+\"text\""
  | .replace => "\"oldtext\"@position=\"newtext\" or @position=\"newtext\""
  | .move .before => "\"text\"@position>@target or @position>@target"
  | .move .after => "\"text\"@position->@target or @position->@target"
  | .swap => "\"text1\"@position1<>\"text2\"@position2"

inductive ParseCause where
  | empty
  | unknownOperator
  | form (kind : Kind)
  /-- A number is asked for that the notation leaves out. -/
  | missing (label : String)
  | tooSmall (label : String) (least : Int)
  /-- The parts make no operation of the kind. -/
  | refused (kind : Kind) (problem : FieldProblem)
  deriving DecidableEq, Repr

/-- A notation that does not parse, with the text at fault and its offset. -/
structure ParseFault where
  cause : ParseCause
  text : Option Text
  offset : Option Nat
  deriving DecidableEq, Repr

/-- Values that are no numbers, no kinds or no levels, or too long. -/
inductive ValueFault where
  | numeral (fault : Numeral.Fault)
  | missingKind
  | unknownKind (value : Json.Value)
  | unknownLevel (text : Text)
  /-- What is taken for a level is neither a number nor a text. -/
  | notLevel (shown : Text)

inductive Failure where
  | parse (fault : ParseFault)
  /-- Coordinates do not fit a text, or are too small to fit any; the operation
  is known in the first case. -/
  | range (fault : RangeFault) (operation : Option Operation)
  /-- Fields do not make an operation. The kind is known if the data named it. -/
  | fields (kind : Option Kind) (faults : List FieldFault)
  | value (fault : ValueFault)

def ParseCause.message : ParseCause → String
  | empty => "DSL text cannot be empty"
  | unknownOperator => "Unknown operation type"
  | form kind =>
    "Invalid " ++ kind.label ++ " operation format. Expected: " ++ kind.expectedForm
  | missing label => label ++ " is missing"
  | tooSmall label least => requirement label least
  | refused kind problem => "Invalid " ++ kind.name ++ " operation: " ++ problem.message

def ParseFault.message (fault : ParseFault) : String :=
  match fault.text with
  | none => fault.cause.message
  | some text =>
    let located := fault.cause.message ++ ": " ++ String.ofList (Text.quoted text)
    match fault.offset with
    | none => located
    | some offset => located ++ " (at offset " ++ Numeral.shown offset ++ ")"

def ValueFault.message : ValueFault → String
  | numeral fault => fault.message
  | missingKind => "Operation data has no 'kind'"
  | unknownKind value => String.ofList value.shown ++ " is not a valid OperationKind"
  | unknownLevel text => "Unknown level: " ++ String.ofList (Text.quoted text)
  | notLevel shown => "Level not an integer or a valid string: " ++ String.ofList shown

namespace Failure

def unwritable : Failure :=
  .value (.numeral .unwritable)

/-- A refusal of coordinates, if its message can be written. -/
def ofRange (operation : Option Operation) (fault : RangeFault) : Failure :=
  if fault.writable then .range fault operation else unwritable

/-- The kind that data names is not known. -/
def ofUnknownKind (value : Json.Value) : Failure :=
  if value.writable then .value (.unknownKind value) else unwritable

def message : Failure → String
  | parse fault => fault.message
  | range fault _ => fault.message
  | fields _ faults => Numeral.shown faults.length ++ " validation error(s)"
  | value fault => fault.message

end Failure

def Check.toExcept {α : Type} (kind : Option Kind) : Check α → Except Failure α
  | valid value => .ok value
  | invalid first others => .error (.fields kind (first :: others))
  | outOfRange fault => .error (.range fault none)

end EditScript
