import EditScript.Json.Value
import EditScript.Operation.Draft
import EditScript.Text.WholeNumeral

/-!
# Operations as data

The members that an operation is written as, and the operation that members
describe. Members of other names are passed over. Text fields take strings, and
the optional ones null as well; number fields take whole numbers of any size,
truth values, numbers without a fractional part, and numerals.
-/

namespace EditScript

open Json

/-- A number written with a point or an exponent is taken for a whole number only
if its magnitude is less than this. -/
def wholeNumberBound : Nat := 1 <<< 63

namespace Field

def required {α : Type} (field : Field) (read : Value → Check α) (members : Members) :
    Check α :=
  match lookup? field.name.toList members with
  | none => .refuse field .missing
  | some value => read value

/-- A field with a value of its own when it is absent. -/
def optional {α : Type} (field : Field) (absent : α) (read : Value → Check α)
    (members : Members) : Check α :=
  match lookup? field.name.toList members with
  | none => .valid absent
  | some value => read value

def text (field : Field) : Value → Check Text
  | .string text => .valid text
  | _ => .refuse field .notText

def textOrNull (field : Field) : Value → Check (Option Text)
  | .string text => .valid (some text)
  | .null => .valid none
  | _ => .refuse field .notText

def wholeNumber (field : Field) : Value → Check Int
  | .integer number => .valid number
  | .bool flag => .valid (if flag then 1 else 0)
  | .real number =>
    match number.worth with
    | .infinite _ => .refuse field .infinite
    | .finite negative significand exponent =>
      match wholeNumber? negative significand exponent with
      | none => .refuse field .fractional
      | some whole =>
        if whole.natAbs < wholeNumberBound then .valid whole
        else .refuse field .oversizedInteger
  | .string text =>
    match Numeral.readWhole text with
    | .ok number => .valid number
    | .error (.tooLong _) => .refuse field .oversizedInteger
    | .error _ => .refuse field .unreadableInteger
  | _ => .refuse field .notInteger

/-- The faults of the items of a list of strings, from a given index on. -/
def itemFaults (field : Field) : (index : Nat) → List Value → List FieldFault
  | _, [] => []
  | index, .string _ :: rest => itemFaults field (index + 1) rest
  | index, _ :: rest => ⟨field, some index, .notText⟩ :: itemFaults field (index + 1) rest

def textList (field : Field) : Value → Check (List Text)
  | .array items =>
    match itemFaults field 0 items with
    | [] => .valid (items.filterMap fun item =>
        match item with
        | .string text => some text
        | _ => none)
    | first :: others => .invalid first others
  | _ => .refuse field .notList

/-- The name of a kind, which has to be the expected one. -/
def kindNamed (expected : Kind) : Value → Check Unit
  | .string name =>
    if name = expected.name.toList then .valid () else .refuse .kind (.otherKind expected)
  | _ => .refuse .kind (.otherKind expected)

end Field

def Draft.Body.ofMembers (kind : Kind) (members : Members) : Draft.Body :=
  match kind with
  | .delete => .delete
  | .insert side => .insert side (Field.required .insertedText (Field.text .insertedText) members)
  | .replace =>
    .replace (Field.required .replacementText (Field.text .replacementText) members)
  | .move side => .move side (Field.required .target (Field.wholeNumber .target) members)
  | .swap =>
    .swap (Field.required .secondPosition (Field.wholeNumber .secondPosition) members)
      (Field.optional .secondLength 1 (Field.wholeNumber .secondLength) members)
      (Field.optional .secondDescribed none (Field.textOrNull .secondDescribed) members)

def Draft.ofMembers (kind : Kind) (members : Members) : Draft where
  described := Field.optional .described none (Field.textOrNull .described) members
  start := Field.required .position (Field.wholeNumber .position) members
  length := Field.optional .length 1 (Field.wholeNumber .length) members
  note := Field.optional .note none (Field.textOrNull .note) members
  tags := Field.optional .tags [] (Field.textList .tags) members
  kind := Field.optional .kind () (Field.kindNamed kind) members
  body := Draft.Body.ofMembers kind members

namespace Operation

def ofMembers (kind : Kind) (members : Members) : Check Operation :=
  (Draft.ofMembers kind members).operation

def member (field : Field) (value : Value) : Text × Value :=
  (field.name.toList, value)

/-- The members that only the kind of an action has, with the kind among them. -/
def actionMembers (action : Action) : Members :=
  let kind := member .kind (.string action.kind.name.toList)
  match action with
  | .delete => [kind]
  | .insert _ text => [kind, member .insertedText (.string text)]
  | .replace text => [kind, member .replacementText (.string text)]
  | .move _ target => [member .target (.integer target), kind]
  | .swap other described =>
    [kind, member .secondPosition (.integer other.start),
      member .secondLength (.integer other.length),
      member .secondDescribed (ofText? described)]

/-- The members of an operation, in the order of its fields. -/
def members (operation : Operation) : Members :=
  [member .described (ofText? operation.described),
    member .position (.integer operation.span.start),
    member .length (.integer operation.span.length),
    member .note (ofText? operation.note),
    member .tags (.array (operation.tags.map .string))] ++ actionMembers operation.action

end Operation

end EditScript
