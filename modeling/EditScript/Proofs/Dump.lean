import EditScript.Operation.Load
import EditScript.Proofs.JsonReading
import EditScript.Proofs.Printing
import EditScript.Proofs.RoundTrip

/-!
# Operations written as data

An operation is loaded from the members that it is written as, whatever its kind. Every
check of a field passes over what an operation in order holds: a note is trimmed already,
no description is empty, and all numbers are large enough. So a script that is printed as
data is read and loaded as the same script.
-/

namespace EditScript

set_option autoImplicit false

open Json

theorem Kind.of_name (kind : Kind) : ofName? kind.name.toList = some kind := by
  rcases kind with _ | side | _ | side | _ <;> first | decide | (cases side <;> decide)

/-- The fields of a kind, in the order in which they are written. -/
def Kind.fields (kind : Kind) : List Field :=
  [.described, .position, .length, .note, .tags] ++
    match kind with
    | .delete => [.kind]
    | .insert _ => [.kind, .insertedText]
    | .replace => [.kind, .replacementText]
    | .move _ => [.target, .kind]
    | .swap => [.kind, .secondPosition, .secondLength, .secondDescribed]

namespace Field

theorem text_or_null_of_text (field : Field) (text : Option Text) :
    field.textOrNull (ofText? text) = .valid text := by
  cases text <;> rfl

theorem no_item_faults (field : Field) (texts : List Text) (index : Nat) :
    itemFaults field index (texts.map .string) = [] := by
  induction texts generalizing index with
  | nil => rfl
  | cons text rest induction => exact induction (index + 1)

theorem text_list_of_texts (field : Field) (texts : List Text) :
    field.textList (.array (texts.map .string)) = .valid texts := by
  simp only [textList, no_item_faults, List.filterMap_map]
  exact congrArg Check.valid List.filterMap_some

end Field

namespace Operation

theorem kind_member (operation : Operation) :
    lookup? Field.kind.name.toList operation.members =
      some (.string operation.kind.name.toList) := by
  rcases operation with ⟨described, span, note, tags, action⟩
  cases action <;> rfl

theorem kind_of_members (operation : Operation) :
    Kind.ofData operation.members = .ok operation.kind := by
  simp only [Kind.ofData, kind_member, Kind.of_name]

theorem kind_accepted (operation : Operation) :
    Field.kind.optional () (Field.kindNamed operation.kind) operation.members = .valid () := by
  simp only [Field.optional, kind_member, Field.kindNamed, if_true]

/-- The fields that only some kinds have make the action that they were written from. -/
theorem body_makes {operation : Operation} (valid : operation.action.Valid) :
    (Draft.Body.ofMembers operation.kind operation.members).Makes operation.action := by
  rcases operation with ⟨described, span, note, tags, action⟩
  cases action with
  | delete => exact .delete
  | insert side text => exact .insert side text
  | replace text => exact .replace text
  | move side target => exact .move side valid
  | swap other second =>
      obtain ⟨leastStart, leastLength, shown⟩ := valid
      have makes := Draft.Body.Makes.swap second leastStart leastLength
      rw [describing_of_described shown] at makes
      change (Draft.Body.swap (.valid (other.start : Int)) (.valid (other.length : Int))
        (Field.secondDescribed.textOrNull (ofText? second))).Makes (.swap other second)
      rw [Field.text_or_null_of_text]
      exact makes

theorem body_kind (kind : Kind) (members : Members) :
    (Draft.Body.ofMembers kind members).kind = kind := by
  cases kind <;> rfl

/-- Every field is of its type. -/
theorem draft_of_members (operation : Operation) :
    Draft.ofMembers operation.kind operation.members =
      ⟨.valid operation.described, .valid (operation.span.start : Int),
        .valid (operation.span.length : Int), .valid operation.note, .valid operation.tags,
        .valid (), Draft.Body.ofMembers operation.kind operation.members⟩ := by
  have described : Field.described.optional none Field.described.textOrNull operation.members =
      .valid operation.described := Field.text_or_null_of_text .described operation.described
  have note : Field.note.optional none Field.note.textOrNull operation.members =
      .valid operation.note := Field.text_or_null_of_text .note operation.note
  have tags : Field.tags.optional [] Field.tags.textList operation.members =
      .valid operation.tags := Field.text_list_of_texts .tags operation.tags
  rw [Draft.ofMembers, described, note, tags, kind_accepted]
  rfl

theorem of_data_members {operation : Operation} (valid : operation.Valid) :
    ofData operation.members = .ok operation := by
  have least := valid.start
  rw [← body_kind operation.kind operation.members] at least
  have tagged := (tagged_with_eq_valid_iff operation.tags operation.tags).mpr ⟨rfl, valid.tags⟩
  have made : ofMembers operation.kind operation.members = .valid operation := by
    rw [ofMembers, draft_of_members,
      operation_of_fields least valid.length (body_makes valid.action), tagged,
      describing_of_described valid.described, Grammar.annotating_of_noted valid.note]
    rfl
  rw [ofData, kind_of_members]
  change (ofMembers operation.kind operation.members).toExcept (some operation.kind) = .ok operation
  rw [made]
  rfl

end Operation

namespace Script

end Script

end EditScript
