import EditScript.Proofs.RoundTrip

/-!
# Layout

An operation can be spelled in many ways. Blanks, a note and a tag list may stand at both
ends, on both sides of the operator and between a quoted text and its coordinates; numerals
may start with zeros, and a length of one may be left out. All these spellings are read as
the operation. What stands in a region may look like any other operation, as long as it
does not hold the delimiter that closes it.
-/

namespace EditScript.Grammar

set_option autoImplicit false

namespace Spelling

/-- The contents of the notes that stand in the gaps, from left to right. -/
def noteRegions (spelling : Spelling) : List Text :=
  spelling.gaps.filterMap (Piece.content? [.parentheses, .braces])

def tagRegions (spelling : Spelling) : List Text :=
  spelling.gaps.filterMap (Piece.content? [.brackets])

/-- A spelling has the tokens of an operation, at most one note, which is the note of the
operation but for blanks around it, and at most one list of tags, which are its tags. -/
structure LaysOut (spelling : Spelling) (operation : Operation) : Prop where
  proper : spelling.Proper
  described : describing spelling.described = operation.described
  start : SpellsNumber spelling.coordinates.position operation.span.start
  length : SpellsLength spelling.coordinates.length operation.span.length
  operand : spelling.operand.Spells operation.action
  note : ∃ region : Option Text, spelling.noteRegions = region.toList ∧
    annotating region = operation.note
  tags : ∃ region : Option Text, spelling.tagRegions = region.toList ∧
    listedTags region = operation.tags

variable {spelling : Spelling} {operation : Operation}

/-- The only region of some forms is the first one. -/
theorem first_of_only {forms : List Delimiter} {region : Option Text}
    (only : spelling.gaps.filterMap (Piece.content? forms) = region.toList) :
    spelling.gaps.findSome? (Piece.content? forms) = region := by
  rw [← List.head?_filterMap, only]
  cases region <;> rfl

theorem LaysOut.spells (lays : spelling.LaysOut operation) : spelling.Spells operation where
  described := lays.described
  start := lays.start
  length := lays.length
  operand := lays.operand
  note := by
    rcases lays.note with ⟨region, only, noted⟩
    rw [first_of_only only, noted]
  tags := by
    rcases lays.tags with ⟨region, only, tagged⟩
    rw [first_of_only only, tagged]

/-- A text that is read as an operation is also read so with the kind that its operator
tells. -/
theorem parse_as_of_parse {text : Text} {kind : Kind} {operation : Operation}
    (detected : detect? text = some kind)
    (read : (Operation.parse (some text)).outcome = .ok operation) :
    Operation.parseAs kind (some text) = .ok operation := by
  rcases (parse_eq_ok_iff text operation).mp read with ⟨filled, other, same, form⟩
  cases same.symm.trans detected
  refine (bind_eq_ok_iff _ _ _).mpr ⟨text, ?_, (parse_kind_eq_ok_iff _ _ _).mpr form⟩
  exact (present_eq_ok_iff _ _).mpr ⟨rfl, filled⟩

/-- However the tokens of an operation are laid out, they are read as the operation, with
or without its kind being given. -/
theorem layout_immaterial (lays : spelling.LaysOut operation) (valid : operation.Valid) :
    (Operation.parse (some spelling.text)).outcome = .ok operation ∧
      Operation.parseAs operation.kind (some spelling.text) = .ok operation := by
  have read := lays.proper.parse_text lays.spells valid
  have kind : spelling.kind = operation.kind := kind_of_spells lays.operand
  refine ⟨read, parse_as_of_parse ?_ read⟩
  rw [lays.proper.detected, kind]

/-- A swap with a gap at every place that may have one. -/
def spreadSwap : Spelling where
  lead := [.plain ' ']
  described := some "a@1!".toList
  inner := [.plain '\t']
  coordinates := ⟨"007".toList, some ('×', "01".toList)⟩
  before := [.literal .parentheses " see \"<>\" [x".toList]
  after := [.plain ' ', .literal .brackets " u  v ".toList]
  operand := .swap (some "!".toList) [.plain ' '] ⟨"10".toList, some ('X', "2".toList)⟩
  trail := [.plain '\n']

def spreadOperation : Operation where
  described := some "a@1!".toList
  span := ⟨7, 1⟩
  note := some "see \"<>\" [x".toList
  tags := [['u'], ['v']]
  action := .swap ⟨10, 2⟩ (some "!".toList)

theorem spread_operation_valid : spreadOperation.Valid where
  described := nofun
  start := by decide
  length := by decide
  note := by
    rintro _ ⟨⟩
    decide
  tags := by decide
  action := ⟨by decide, by decide, nofun⟩

theorem spread_swap_proper : spreadSwap.Proper where
  spacing := by decide
  quoted := by decide
  coordinates := ⟨⟨by decide, List.all_eq_true.mp rfl⟩, by
    rintro _ ⟨⟩
    exact ⟨by decide, by decide, List.all_eq_true.mp rfl⟩⟩
  single := nofun
  operand := ⟨⟨by decide, List.all_eq_true.mp rfl⟩, by
    rintro _ ⟨⟩
    exact ⟨by decide, by decide, List.all_eq_true.mp rfl⟩⟩

theorem spread_swap_lays_out : spreadSwap.LaysOut spreadOperation where
  proper := spread_swap_proper
  described := rfl
  start := ⟨by decide, by decide⟩
  length := ⟨by decide, by decide⟩
  operand := .swap _ _ ⟨by decide, by decide⟩ ⟨by decide, by decide⟩
  note := ⟨some " see \"<>\" [x".toList, by decide, by decide⟩
  tags := ⟨some " u  v ".toList, by decide, by decide⟩

theorem spread_swap_read :
    spreadSwap.text =
        " \"a@1!\"\t@007×01( see \"<>\" [x)<> [ u  v ]\"!\" @10X2\n".toList ∧
      spreadSwap.LaysOut spreadOperation ∧ spreadOperation.Valid ∧
      (Operation.parse (some spreadSwap.text)).outcome = .ok spreadOperation ∧
      Operation.parseAs .swap (some spreadSwap.text) = .ok spreadOperation := by
  refine ⟨by decide, spread_swap_lays_out, spread_operation_valid, ?_⟩
  exact layout_immaterial spread_swap_lays_out spread_operation_valid

end Spelling

end EditScript.Grammar
