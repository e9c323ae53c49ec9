import EditScript.Operation.Range

/-!
# From fields to operations

An operation is built from fields that may be missing, of the wrong type, or
outside what they may hold. Each field is checked in the order in which fields
are declared. A coordinate below its least value ends the building at once; all
other faults are collected, in the same order, before the building fails.
-/

namespace EditScript

inductive Field where
  | described
  | position
  | length
  | note
  | tags
  | kind
  | insertedText
  | replacementText
  | target
  | secondPosition
  | secondLength
  | secondDescribed
  deriving DecidableEq, Repr

/-- The name of a field in data. -/
def Field.name : Field → String
  | .described => "input_text"
  | .position => "at"
  | .length => "run"
  | .note => "note"
  | .tags => "tags"
  | .kind => "kind"
  | .insertedText => "text"
  | .replacementText => "replacement_text"
  | .target => "to"
  | .secondPosition => "at2"
  | .secondLength => "run2"
  | .secondDescribed => "input_text2"

def Coordinate.field : Coordinate → Field
  | .position => .position
  | .length => .length
  | .target => .target
  | .secondPosition => .secondPosition
  | .secondLength => .secondLength

inductive FieldProblem where
  | missing
  | notText
  | notInteger
  | fractional
  | unreadableInteger
  | oversizedInteger
  | infinite
  | notList
  | otherKind (expected : Kind)
  | invalidTag (tag : Text)
  /-- The value is too small and too long to be named in a message. -/
  | unwritable
  deriving DecidableEq, Repr

namespace FieldProblem

/-- The class of a problem. -/
def label : FieldProblem → String
  | missing => "missing"
  | notText => "string_type"
  | notInteger => "int_type"
  | fractional => "int_from_float"
  | unreadableInteger => "int_parsing"
  | oversizedInteger => "int_parsing_size"
  | infinite => "finite_number"
  | notList => "list_type"
  | otherKind _ => "literal_error"
  | invalidTag _ => "value_error"
  | unwritable => "value_error"

def message : FieldProblem → String
  | missing => "Field required"
  | notText => "Input should be a valid string"
  | notInteger => "Input should be a valid integer"
  | fractional => "Input should be a valid integer, got a number with a fractional part"
  | unreadableInteger =>
    "Input should be a valid integer, unable to parse string as an integer"
  | oversizedInteger =>
    "Unable to parse input string as an integer, exceeded maximum size"
  | infinite => "Input should be a finite number"
  | notList => "Input should be a valid list"
  | otherKind expected =>
    "Input should be <OperationKind." ++ expected.name.map Char.toUpper ++ ": " ++
      String.ofList (Text.quoted expected.name.toList) ++ ">"
  | invalidTag tag =>
    "Value error, Invalid tag " ++ String.ofList (Text.quoted tag) ++
      ": tags cannot be empty or contain spaces or brackets"
  | unwritable => "Value error, " ++ Numeral.Fault.unwritable.message

end FieldProblem

/-- A fault of a field, or of one item of it. -/
structure FieldFault where
  field : Field
  item : Option Nat
  problem : FieldProblem
  deriving DecidableEq, Repr

inductive Check (α : Type) where
  | valid (value : α)
  /-- Some fields are at fault: a first one, and perhaps others. -/
  | invalid (first : FieldFault) (others : List FieldFault)
  /-- A coordinate is too small, whatever else is wrong. -/
  | outOfRange (fault : RangeFault)
  deriving DecidableEq, Repr

namespace Check

variable {α β : Type}

def refuse (field : Field) (problem : FieldProblem) : Check α :=
  .invalid ⟨field, none, problem⟩ []

def map (f : α → β) : Check α → Check β
  | valid value => .valid (f value)
  | invalid first others => .invalid first others
  | outOfRange fault => .outOfRange fault

def andThen (check : Check α) (next : α → Check β) : Check β :=
  match check with
  | valid value => next value
  | invalid first others => .invalid first others
  | outOfRange fault => .outOfRange fault

/-- Two checks in order: faults are collected, unless a coordinate is too small. -/
def both : Check α → Check β → Check (α × β)
  | outOfRange fault, _ => .outOfRange fault
  | _, outOfRange fault => .outOfRange fault
  | invalid first others, invalid next more => .invalid first (others ++ next :: more)
  | invalid first others, valid _ => .invalid first others
  | valid _, invalid first others => .invalid first others
  | valid left, valid right => .valid (left, right)

end Check

/-- An empty description is none. -/
def describing (text : Option Text) : Option Text :=
  if text = some [] then none else text

/-- A note without the blanks at its ends; a blank note is none. -/
def annotating (note : Option Text) : Option Text :=
  note.bind fun text =>
    if (Text.strip text).isEmpty then none else some (Text.strip text)

def coordinate (which : Coordinate) (least : Nat) (value : Int) : Check Nat :=
  if (least : Int) ≤ value then .valid value.toNat
  else if Numeral.writable value then .outOfRange (.tooSmall which least value)
  else .refuse which.field .unwritable

/-- Tags that are words without brackets; the first other one is named. -/
def taggedWith (tags : List Text) : Check (List Text) :=
  match tags.find? fun tag => !isTag tag with
  | none => .valid tags
  | some tag => .refuse .tags (.invalidTag tag)

/-- The fields of an operation besides those that every kind has. -/
inductive Draft.Body where
  | delete
  | insert (side : Side) (text : Check Text)
  | replace (text : Check Text)
  | move (side : Side) (target : Check Int)
  | swap (start length : Check Int) (described : Check (Option Text))

/-- The fields of an operation as far as their types have been checked. -/
structure Draft where
  described : Check (Option Text)
  start : Check Int
  length : Check Int
  note : Check (Option Text)
  tags : Check (List Text)
  /-- Whether the kind that the fields name, if any, is the kind in question. -/
  kind : Check Unit
  body : Draft.Body

namespace Draft

def Body.kind : Body → Kind
  | delete => .delete
  | insert side _ => .insert side
  | replace _ => .replace
  | move side _ => .move side
  | swap _ _ _ => .swap

def action (draft : Draft) : Check Action :=
  match draft.body with
  | .delete => draft.kind.map fun _ => .delete
  | .insert side text => (draft.kind.both text).map fun (_, text) => .insert side text
  | .replace text => (draft.kind.both text).map fun (_, text) => .replace text
  | .move side target =>
    ((target.andThen (coordinate .target 1)).both draft.kind).map
      fun (target, _) => .move side target
  | .swap start length described =>
    (draft.kind.both
      ((start.andThen (coordinate .secondPosition 1)).both
        ((length.andThen (coordinate .secondLength 1)).both
          (described.map describing)))).map
      fun (_, start, length, described) => .swap ⟨start, length⟩ described

def operation (draft : Draft) : Check Operation :=
  ((draft.described.map describing).both
    ((draft.start.andThen (coordinate .position draft.body.kind.leastPosition)).both
      ((draft.length.andThen (coordinate .length 1)).both
        ((draft.note.map annotating).both
          ((draft.tags.andThen taggedWith).both draft.action))))).map
    fun (described, start, length, note, tags, action) =>
      { described, span := ⟨start, length⟩, note, tags, action }

end Draft

end EditScript
