import EditScript.Proofs.Assembly
import EditScript.Proofs.Detection
import EditScript.Proofs.Regions
import EditScript.Proofs.Scanning

/-!
# Spellings

A spelling of an operation is made of its tokens with gaps between them. A gap holds
blanks, notes and tag lists in any order. Whatever stands in the gaps, the operator
is found, the form of its kind is found at the first token, and its parts are the
tokens that were spelled: so the operation is read back, with the note and the tags
that the gaps hold first.
-/

namespace EditScript.Grammar

set_option autoImplicit false

/-- Coordinates as they are spelled: the digits of the position, and a sign with the
digits of the length unless the length is left out. -/
structure Coordinates where
  position : Text
  length : Option (Char × Text)

namespace Coordinates

def lengthText (coordinates : Coordinates) : Text :=
  match coordinates.length with
  | none => []
  | some (sign, digits) => sign :: digits

def text (coordinates : Coordinates) : Text :=
  '@' :: (coordinates.position ++ coordinates.lengthText)

structure Proper (coordinates : Coordinates) : Prop where
  position : Numeral.Digits coordinates.position
  length : ∀ part ∈ coordinates.length,
    Cursor.isLengthSign part.1 = true ∧ Numeral.Digits part.2

end Coordinates

/-- What is spelled behind an operator. -/
inductive SpelledOperand where
  | delete
  | insert (side : Side) (content : Text)
  | replace (content : Text)
  | move (side : Side) (target : Text)
  | swap (described : Option Text) (gap : List Piece) (coordinates : Coordinates)

/-- A text in quotation marks, if there is one. -/
def quotation (text : Option Text) : List Piece :=
  text.toList.map (Piece.literal .quotes)

namespace SpelledOperand

def kind : SpelledOperand → Kind
  | delete => .delete
  | insert side _ => .insert side
  | replace _ => .replace
  | move side _ => .move side
  | swap _ _ _ => .swap

def gap : SpelledOperand → List Piece
  | swap _ gap _ => gap
  | _ => []

def quotedTexts : SpelledOperand → List Text
  | insert _ content => [content]
  | replace content => [content]
  | swap described _ _ => described.toList
  | _ => []

def pieces : SpelledOperand → List Piece
  | delete => []
  | insert _ content => [.literal .quotes content]
  | replace content => [.literal .quotes content]
  | move _ target => plainly ('@' :: target)
  | swap described gap coordinates => quotation described ++ gap ++ plainly coordinates.text

/-- The numerals of an operand are rows of digits. -/
def Proper : SpelledOperand → Prop
  | move _ target => Numeral.Digits target
  | swap _ _ coordinates => coordinates.Proper
  | _ => True

end SpelledOperand

/-- The tokens of an operation with the gaps between them. -/
structure Spelling where
  lead : List Piece
  described : Option Text
  inner : List Piece
  coordinates : Coordinates
  before : List Piece
  after : List Piece
  operand : SpelledOperand
  trail : List Piece

namespace Spelling

def kind (spelling : Spelling) : Kind :=
  spelling.operand.kind

/-- The pieces up to the operator. -/
def front (spelling : Spelling) : List Piece :=
  spelling.lead ++ quotation spelling.described ++ spelling.inner ++
    plainly spelling.coordinates.text ++ spelling.before

/-- The pieces behind the operator. -/
def back (spelling : Spelling) : List Piece :=
  spelling.after ++ spelling.operand.pieces ++ spelling.trail

def pieces (spelling : Spelling) : List Piece :=
  spelling.front ++ plainly spelling.kind.operator ++ spelling.back

def text (spelling : Spelling) : Text :=
  spelling.pieces.flatMap Piece.text

/-- Everything that stands in gaps, from left to right. -/
def gaps (spelling : Spelling) : List Piece :=
  spelling.lead ++ spelling.inner ++ spelling.before ++ spelling.after ++
    spelling.operand.gap ++ spelling.trail

def quotedTexts (spelling : Spelling) : List Text :=
  spelling.described.toList ++ spelling.operand.quotedTexts

/-- A spelling whose tokens and gaps can be told apart. -/
structure Proper (spelling : Spelling) : Prop where
  spacing : ∀ piece ∈ spelling.gaps, piece.Spacing
  quoted : ∀ text ∈ spelling.quotedTexts, '"' ∉ text
  coordinates : spelling.coordinates.Proper
  single : spelling.kind.takesLength = false → spelling.coordinates.length = none
  operand : spelling.operand.Proper

end Spelling

/-- The characters of coordinates. -/
def isCoordinateChar (char : Char) : Bool :=
  char == '@' || char.isDigit || Cursor.isLengthSign char

theorem coordinate_char_of_digits {digits : Text} (row : Numeral.Digits digits) :
    ∀ char ∈ digits, isCoordinateChar char = true := by
  intro char member
  simp [isCoordinateChar, row.digit char member]

theorem coordinate_char_of_position {digits : Text} (row : Numeral.Digits digits) :
    ∀ char ∈ '@' :: digits, isCoordinateChar char = true :=
  List.forall_mem_cons.mpr ⟨rfl, coordinate_char_of_digits row⟩

theorem Coordinates.Proper.chars {coordinates : Coordinates} (proper : coordinates.Proper) :
    ∀ char ∈ coordinates.text, isCoordinateChar char = true := by
  have position := coordinate_char_of_position proper.position
  rcases coordinates with ⟨digits, length⟩
  cases length with
  | none => simpa [Coordinates.text, Coordinates.lengthText] using position
  | some part =>
      rcases proper.length part rfl with ⟨signed, row⟩
      have inLengthText : ∀ char ∈ part.1 :: part.2, isCoordinateChar char = true := by
        rw [List.forall_mem_cons]
        exact ⟨by simp [isCoordinateChar, signed], coordinate_char_of_digits row⟩
      intro char member
      change char ∈ ('@' :: digits) ++ part.1 :: part.2 at member
      rcases List.mem_append.mp member with inPosition | inLength
      · exact position char inPosition
      · exact inLengthText char inLength

/-- A piece that neither opens a region nor holds an operator outside regions. -/
inductive Inert : Piece → Prop
  | spacing {piece : Piece} (spacing : piece.Spacing) : Inert piece
  | quoted {content : Text} (closed : '"' ∉ content) : Inert (.literal .quotes content)
  | coordinate {char : Char} (inside : isCoordinateChar char = true) : Inert (.plain char)

theorem Inert.closed {piece : Piece} (inert : Inert piece) : piece.Closed := by
  cases inert with
  | spacing spacing => exact spacing.closed
  | quoted closed => exact closed
  | coordinate inside =>
      exact ordinary_of_class (by intro delimiter; cases delimiter <;> decide) inside

theorem Inert.quiet {piece : Piece} (inert : Inert piece) : Quiet piece.withoutLiterals := by
  cases inert with
  | spacing spacing =>
      have apart : operatorSigns.any Text.isBlank = false := by decide
      apply quiet_of_class apart
      intro char member
      apply blank_of_mem_masked (List.forall_mem_singleton.mpr spacing)
      rw [← literals_eq_annotations (List.forall_mem_singleton.mpr spacing)]
      simpa using member
  | quoted closed =>
      exact quiet_of_class (by decide) fun char member => blank_of_mem_spaces member
  | coordinate inside =>
      exact quiet_of_class (by decide) (List.forall_mem_singleton.mpr inside)

theorem quiet_of_inert {parts : List Piece} (inert : ∀ piece ∈ parts, Inert piece) :
    Quiet (parts.flatMap Piece.withoutLiterals) := by
  intro char member
  rcases List.mem_flatMap.mp member with ⟨piece, inside, found⟩
  exact (inert piece inside).quiet char found

theorem inert_quotation {text : Option Text} (closed : ∀ content ∈ text, '"' ∉ content) :
    ∀ piece ∈ quotation text, Inert piece := by
  intro piece member
  rcases List.mem_map.mp member with ⟨content, inside, rfl⟩
  exact .quoted (closed content (Option.mem_toList.mp inside))

theorem inert_plainly {text : Text} (inside : ∀ char ∈ text, isCoordinateChar char = true) :
    ∀ piece ∈ plainly text, Inert piece := by
  intro piece member
  rcases List.mem_map.mp member with ⟨char, found, rfl⟩
  exact .coordinate (inside char found)

theorem inert_operand {operand : SpelledOperand} (proper : operand.Proper)
    (spacing : ∀ piece ∈ operand.gap, piece.Spacing)
    (quoted : ∀ text ∈ operand.quotedTexts, '"' ∉ text) :
    ∀ piece ∈ operand.pieces, Inert piece := by
  cases operand with
  | delete => exact List.forall_mem_nil _
  | insert side content =>
      exact List.forall_mem_singleton.mpr (.quoted (quoted content List.mem_cons_self))
  | replace content =>
      exact List.forall_mem_singleton.mpr (.quoted (quoted content List.mem_cons_self))
  | move side target => exact inert_plainly (coordinate_char_of_position proper)
  | swap described gap coordinates =>
      intro piece member
      rcases List.mem_append.mp member with inFront | inCoordinates
      · rcases List.mem_append.mp inFront with inQuotation | inGap
        · apply inert_quotation _ piece inQuotation
          intro content shown
          exact quoted content (Option.mem_toList.mpr shown)
        · exact .spacing (spacing piece inGap)
      · exact inert_plainly proper.chars piece inCoordinates

namespace Spelling

variable {spelling : Spelling}

theorem Proper.front_inert (proper : spelling.Proper) : ∀ piece ∈ spelling.front, Inert piece := by
  intro piece member
  have spaced : piece ∈ spelling.gaps → Inert piece := fun inside =>
    .spacing (proper.spacing piece inside)
  simp only [front, List.mem_append] at member
  rcases member with (((inLead | inQuotation) | inInner) | inCoordinates) | inBefore
  · exact spaced (by simp [gaps, inLead])
  · apply inert_quotation _ piece inQuotation
    intro content shown
    exact proper.quoted content (List.mem_append_left _ (Option.mem_toList.mpr shown))
  · exact spaced (by simp [gaps, inInner])
  · exact inert_plainly proper.coordinates.chars piece inCoordinates
  · exact spaced (by simp [gaps, inBefore])

theorem Proper.back_inert (proper : spelling.Proper) : ∀ piece ∈ spelling.back, Inert piece := by
  intro piece member
  have spaced : piece ∈ spelling.gaps → Inert piece := fun inside =>
    .spacing (proper.spacing piece inside)
  simp only [back, List.mem_append] at member
  rcases member with (inAfter | inOperand) | inTrail
  · exact spaced (by simp [gaps, inAfter])
  · apply inert_operand proper.operand _ _ piece inOperand
    · intro other inside
      exact proper.spacing other (by simp [gaps, inside])
    · intro text inside
      exact proper.quoted text (List.mem_append_right _ inside)
  · exact spaced (by simp [gaps, inTrail])

theorem ordinary_of_operator (kind : Kind) :
    ∀ char ∈ kind.operator, Delimiter.ofOpening? char = none := by
  have ordinary : kind.operator.all (fun char => (Delimiter.ofOpening? char).isNone) = true := by
    rcases kind with _ | side | _ | side | _ <;> first | decide | (cases side <;> decide)
  intro char member
  exact Option.isNone_iff_eq_none.mp (List.all_eq_true.mp ordinary char member)

theorem Proper.closed (proper : spelling.Proper) : ∀ piece ∈ spelling.pieces, piece.Closed := by
  intro piece member
  simp only [Spelling.pieces, List.mem_append] at member
  rcases member with (inFront | inOperator) | inBack
  · exact (proper.front_inert piece inFront).closed
  · exact closed_plainly (ordinary_of_operator spelling.kind) piece inOperator
  · exact (proper.back_inert piece inBack).closed

/-- The pieces of a spelling are found again in its text. -/
theorem Proper.pieces_text (proper : spelling.Proper) :
    Grammar.pieces spelling.text = spelling.pieces :=
  pieces_of_closed proper.closed

/-- The operator is found although gaps and quoted texts may hold others. -/
theorem Proper.detected (proper : spelling.Proper) :
    detect? spelling.text = some spelling.kind := by
  have masked : maskLiterals spelling.text =
      spelling.front.flatMap Piece.withoutLiterals ++
        (spelling.kind.operator ++ spelling.back.flatMap Piece.withoutLiterals) := by
    rw [maskLiterals, proper.pieces_text, Spelling.pieces, List.flatMap_append, List.flatMap_append,
      flat_map_plainly fun _ => rfl, List.append_assoc]
  rw [detect?, masked]
  exact operator_among_quiet spelling.kind (quiet_of_inert proper.front_inert)
    (quiet_of_inert proper.back_inert)

end Spelling

/-- The content of a piece that is a region of one of the given forms. -/
def Piece.content? (forms : List Delimiter) : Piece → Option Text
  | literal delimiter content => if delimiter ∈ forms then some content else none
  | plain _ => none

theorem first_region_eq (forms : List Delimiter) (text : Text) :
    firstRegion? forms text = (pieces text).findSome? (Piece.content? forms) := by
  rw [firstRegion?]
  apply congrArg (List.findSome? · (pieces text))
  funext piece
  cases piece <;> rfl

section

variable {forms : List Delimiter}

theorem no_content_plainly (text : Text) :
    (plainly text).findSome? (Piece.content? forms) = none := by
  rw [List.findSome?_eq_none_iff]
  intro piece member
  rcases List.mem_map.mp member with ⟨char, _, rfl⟩
  rfl

theorem no_content_quotation (unquoted : .quotes ∉ forms) (text : Option Text) :
    (quotation text).findSome? (Piece.content? forms) = none := by
  rw [List.findSome?_eq_none_iff]
  intro piece member
  rcases List.mem_map.mp member with ⟨content, _, rfl⟩
  exact if_neg unquoted

theorem content_operand (unquoted : .quotes ∉ forms) (operand : SpelledOperand) :
    operand.pieces.findSome? (Piece.content? forms) =
      operand.gap.findSome? (Piece.content? forms) := by
  cases operand with
  | delete => rfl
  | insert side content => exact no_content_quotation unquoted (some content)
  | replace content => exact no_content_quotation unquoted (some content)
  | move side target => exact no_content_plainly _
  | swap described gap coordinates =>
      simp only [SpelledOperand.pieces, SpelledOperand.gap, List.findSome?_append,
        no_content_quotation unquoted, no_content_plainly, Option.none_or, Option.or_none]

/-- Notes and tag lists stand in gaps only. -/
theorem Spelling.content_pieces (unquoted : .quotes ∉ forms) (spelling : Spelling) :
    spelling.pieces.findSome? (Piece.content? forms) =
      spelling.gaps.findSome? (Piece.content? forms) := by
  simp only [Spelling.pieces, Spelling.front, Spelling.back, Spelling.gaps, List.findSome?_append,
    no_content_quotation unquoted, no_content_plainly, content_operand unquoted, Option.or_none,
    Option.or_assoc]

theorem Spelling.Proper.first_region {spelling : Spelling} (proper : spelling.Proper)
    (unquoted : .quotes ∉ forms) :
    firstRegion? forms spelling.text = spelling.gaps.findSome? (Piece.content? forms) := by
  rw [first_region_eq, proper.pieces_text, Spelling.content_pieces unquoted]

end

end EditScript.Grammar
