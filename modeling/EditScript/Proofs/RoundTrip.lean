import EditScript.Proofs.Captures
import EditScript.Proofs.Reading
import EditScript.Script.Apply

/-!
# Reading canonical notations back

The canonical notation carries an operation exactly if nothing in a quoted text or a
note ends it early and an insertion has the length one, which is never written. That
this suffices follows from reading spellings: the canonical notation is one of them.
That it is necessary is seen on what is read: no quoted text that is read holds a
quotation mark, an insertion is read with the length one, and a note that is cut short
is read as a shorter one.
-/

namespace EditScript

set_option autoImplicit false

def Action.quotedTexts : Action → List Text
  | .insert _ text => [text]
  | .replace text => [text]
  | .swap _ described => described.toList
  | _ => []

namespace Operation

/-- The form of region in which the canonical notation has the note. -/
def noteForm (operation : Operation) : Grammar.Delimiter :=
  match operation.action with
  | .swap _ _ => .braces
  | _ => .parentheses

/-- The texts that the canonical notation puts in quotation marks. -/
def quotedTexts (operation : Operation) : List Text :=
  operation.described.toList ++ operation.action.quotedTexts

/-- Nothing of an operation is lost in its canonical notation. -/
structure Notatable (operation : Operation) : Prop where
  quoted : ∀ text ∈ operation.quotedTexts, '"' ∉ text
  note : ∀ text ∈ operation.note, operation.noteForm.closing ∉ text
  single : ∀ side text, operation.action = .insert side text → operation.span.length = 1

end Operation

namespace Text

theorem fields_behind_separator {isSeparator : Char → Bool} {char : Char}
    (separator : isSeparator char = true) (front back : Text) :
    fields isSeparator (front ++ char :: back) =
      fields isSeparator front ++ fields isSeparator back := by
  induction front with
  | nil => simp [fields, separator]
  | cons first rest induction =>
      by_cases separates : isSeparator first = true
      · simp [fields, separates, induction]
      · rw [List.cons_append, fields, fields, if_neg separates, if_neg separates, induction]
        cases parts : fields isSeparator rest with
        | nil => exact absurd parts (fields_ne_nil isSeparator rest)
        | cons field others => rfl

theorem fields_of_whole {isSeparator : Char → Bool} {text : Text}
    (whole : ∀ char ∈ text, isSeparator char = false) : fields isSeparator text = [text] := by
  induction text with
  | nil => rfl
  | cons first rest induction =>
      have later := induction fun char member => whole char (List.mem_cons_of_mem first member)
      rw [fields, whole first List.mem_cons_self, later]
      rfl

theorem words_behind_blank {char : Char} (blank : isBlank char = true) (front back : Text) :
    words (front ++ char :: back) = words front ++ words back := by
  rw [words, fields_behind_separator blank, List.filter_append]
  rfl

theorem words_of_whole {text : Text} (nonempty : text ≠ [])
    (whole : ∀ char ∈ text, isBlank char = false) : words text = [text] := by
  rw [words, fields_of_whole whole]
  simp [nonempty]

theorem unwords_cons (first second : Text) (others : List Text) :
    unwords (first :: second :: others) = first ++ ' ' :: unwords (second :: others) := by
  simp [unwords, List.intercalate]

/-- Words are found again between the spaces that separate them. -/
theorem words_unwords {parts : List Text}
    (whole : ∀ part ∈ parts, part ≠ [] ∧ ∀ char ∈ part, isBlank char = false) :
    words (unwords parts) = parts := by
  induction parts with
  | nil => rfl
  | cons first rest induction =>
      have here := whole first List.mem_cons_self
      have later := induction fun part member => whole part (List.mem_cons_of_mem first member)
      cases rest with
      | nil =>
          change words (first ++ []) = _
          rw [List.append_nil, words_of_whole here.1 here.2]
      | cons second others =>
          rw [unwords_cons, words_behind_blank (by decide), later, words_of_whole here.1 here.2]
          rfl

theorem not_mem_unwords {parts : List Text} {char : Char} (visible : char ≠ ' ')
    (absent : ∀ part ∈ parts, char ∉ part) : char ∉ unwords parts := by
  induction parts with
  | nil => exact List.not_mem_nil
  | cons first rest induction =>
      have here := absent first List.mem_cons_self
      have later := induction fun part member => absent part (List.mem_cons_of_mem first member)
      cases rest with
      | nil =>
          change char ∉ first ++ []
          rw [List.append_nil]
          exact here
      | cons second others =>
          rw [unwords_cons, List.mem_append, List.mem_cons]
          intro member
          rcases member with inFirst | space | inOthers
          · exact here inFirst
          · exact visible space
          · exact later inOthers

end Text

theorem describing_of_described {described : Option Text} (valid : Described described) :
    describing described = described :=
  if_neg valid

namespace Operation

open Grammar

/-- The note of an operation as a piece behind a space. -/
def notePieces (operation : Operation) : List Piece :=
  match operation.note with
  | none => []
  | some text => [.plain ' ', .literal operation.noteForm text]

/-- The tag list of an operation as a piece behind a space. -/
def tagPieces (operation : Operation) : List Piece :=
  if operation.tags.isEmpty then []
  else [.plain ' ', .literal .brackets (Text.unwords operation.tags)]

/-- A swap has its tags in front of its note. -/
def annotationPieces (operation : Operation) : List Piece :=
  match operation.action with
  | .swap _ _ => operation.tagPieces ++ operation.notePieces
  | _ => operation.notePieces ++ operation.tagPieces

end Operation

/-- The coordinates of a span, with a length only if it is more than one. -/
def Span.spelled (span : Span) : Grammar.Coordinates where
  position := Numeral.decimal span.start
  length := if 1 < span.length then some ('x', Numeral.decimal span.length) else none

def Action.spelled : Action → Grammar.SpelledOperand
  | .delete => .delete
  | .insert side text => .insert side text
  | .replace text => .replace text
  | .move side target => .move side (Numeral.decimal target)
  | .swap other described => .swap described [] other.spelled

namespace Operation

open Grammar

/-- The canonical notation up to its annotations. -/
def bareSpelling (operation : Operation) : Spelling where
  lead := []
  described := operation.described
  inner := []
  coordinates :=
    match operation.action with
    | .insert _ _ => ⟨Numeral.decimal operation.span.start, none⟩
    | _ => operation.span.spelled
  before := []
  after := []
  operand := operation.action.spelled
  trail := []

/-- The canonical notation with its note and its tags in the last gap. -/
def canonicalSpelling (operation : Operation) : Spelling :=
  { operation.bareSpelling with trail := operation.annotationPieces }

theorem plainly_text (text : Text) : (plainly text).flatMap Piece.text = text :=
  flat_map_plainly (fun _ => rfl) text

theorem quotation_text (text : Text) :
    (quotation (some text)).flatMap Piece.text = Notation.inQuotes text :=
  List.append_nil _

theorem description_text {described : Option Text} (valid : Described described) :
    Notation.description described = (quotation described).flatMap Piece.text := by
  cases described with
  | none => rfl
  | some text =>
      rw [quotation_text]
      cases text with
      | nil => exact absurd rfl valid
      | cons first rest => rfl

theorem span_text (span : Span) : Notation.span span = span.spelled.text := by
  rcases span with ⟨start, length⟩
  by_cases more : 1 < length
  · have moreInt : (1 : Int) < length := Int.ofNat_lt.mpr more
    simp only [Notation.span, Notation.coordinates, moreInt, if_true, Span.spelled, more]
    rfl
  · have lessInt : ¬(1 : Int) < length := fun less => more (Int.ofNat_lt.mp less)
    simp only [Notation.span, Notation.coordinates, lessInt, if_false, Span.spelled, more,
      Coordinates.text, Coordinates.lengthText, List.append_nil]
    rfl

theorem written_span_text (operation : Operation) :
    operation.writtenSpan = operation.bareSpelling.coordinates.text := by
  rw [writtenSpan, bareSpelling]
  cases operation.action with
  | insert side text => exact (List.append_nil _).symm
  | _ => exact span_text operation.span

theorem operand_text {operation : Operation} (valid : operation.action.Valid) :
    operation.operand = operation.action.spelled.pieces.flatMap Piece.text := by
  rw [operand]
  cases action : operation.action with
  | delete => rfl
  | insert side text => exact (quotation_text text).symm
  | replace text => exact (quotation_text text).symm
  | move side target => exact (plainly_text _).symm
  | swap other described =>
      rw [action] at valid
      simp only [Action.spelled, SpelledOperand.pieces, List.append_nil, List.flatMap_append,
        plainly_text, description_text valid.2.2, span_text]

theorem note_text (operation : Operation) :
    Notation.note operation.noteForm.opening operation.noteForm.closing operation.note =
      operation.notePieces.flatMap Piece.text := by
  rw [notePieces]
  cases operation.note with
  | none => rfl
  | some text => simp [Notation.note, Piece.text]

theorem tags_text (operation : Operation) :
    Notation.tags operation.tags = operation.tagPieces.flatMap Piece.text := by
  rw [tagPieces, Notation.tags]
  cases operation.tags with
  | nil => rfl
  | cons first rest => simp [Piece.text, Delimiter.opening, Delimiter.closing]

theorem annotations_text (operation : Operation) :
    operation.annotations = operation.annotationPieces.flatMap Piece.text := by
  have note := note_text operation
  rw [annotations, annotationPieces, tags_text]
  rw [noteForm] at note
  cases action : operation.action with
  | swap other described =>
      rw [action] at note
      rw [List.flatMap_append, ← note]
      rfl
  | _ =>
      rw [action] at note
      rw [List.flatMap_append, ← note]
      rfl

theorem spelled_kind (operation : Operation) : operation.action.spelled.kind = operation.kind := by
  rw [kind]
  cases operation.action <;> rfl

theorem bare_text (operation : Operation) :
    operation.bareSpelling.text = (quotation operation.described).flatMap Piece.text ++
      operation.bareSpelling.coordinates.text ++ operation.kind.operator ++
      operation.action.spelled.pieces.flatMap Piece.text := by
  rw [← spelled_kind]
  simp only [Spelling.text, Spelling.pieces, Spelling.front, Spelling.back, Spelling.kind,
    bareSpelling, List.nil_append, List.append_nil, List.flatMap_append,
    plainly_text, List.append_assoc]

theorem canonical_eq {operation : Operation} (valid : operation.Valid) :
    operation.canonical = operation.bareSpelling.text ++ operation.annotations := by
  rw [canonical, bare_text, description_text valid.described, operand_text valid.action,
    written_span_text]

theorem canonical_text {operation : Operation} (valid : operation.Valid) :
    operation.canonical = operation.canonicalSpelling.text := by
  rw [canonical_eq valid, annotations_text]
  simp only [Spelling.text, Spelling.pieces, Spelling.front, Spelling.back, Spelling.kind,
    canonicalSpelling, bareSpelling, List.append_nil, List.flatMap_append, List.append_assoc]

theorem span_proper (span : Span) : span.spelled.Proper := by
  refine ⟨Numeral.decimal_digits span.start, ?_⟩
  intro part shown
  rw [Span.spelled] at shown
  split at shown
  · obtain rfl := Option.some.inj shown
    exact ⟨rfl, Numeral.decimal_digits span.length⟩
  · cases shown

theorem operand_proper (action : Action) : action.spelled.Proper := by
  cases action with
  | move side target => exact Numeral.decimal_digits target
  | swap other described => exact span_proper other
  | _ => trivial

theorem spelled_gap (action : Action) : action.spelled.gap = [] := by
  cases action <;> rfl

theorem bare_gaps (operation : Operation) : operation.bareSpelling.gaps = [] := by
  simp [Spelling.gaps, bareSpelling, spelled_gap]

theorem bare_proper {operation : Operation} (quoted : ∀ text ∈ operation.quotedTexts, '"' ∉ text) :
    operation.bareSpelling.Proper where
  spacing := by
    rw [bare_gaps]
    exact List.forall_mem_nil _
  quoted := by
    have texts : operation.bareSpelling.quotedTexts = operation.quotedTexts := by
      rw [Spelling.quotedTexts, quotedTexts, bareSpelling]
      cases operation.action <;> rfl
    rw [texts]
    exact quoted
  coordinates := by
    rw [bareSpelling]
    cases operation.action with
    | insert side text =>
        exact ⟨Numeral.decimal_digits operation.span.start, fun part shown => nomatch shown⟩
    | _ => exact span_proper operation.span
  single := by
    intro takes
    rw [Spelling.kind, bareSpelling] at takes
    rw [bareSpelling]
    cases action : operation.action with
    | insert side text => rfl
    | _ =>
        rw [action] at takes
        cases takes
  operand := operand_proper operation.action

theorem tag_pieces_spacing {operation : Operation} (valid : operation.Valid) :
    ∀ piece ∈ operation.tagPieces, piece.Spacing := by
  rw [tagPieces]
  split
  · exact List.forall_mem_nil _
  · rw [List.forall_mem_cons, List.forall_mem_singleton]
    refine ⟨rfl, by decide, Text.not_mem_unwords (by decide) ?_⟩
    intro tag member inside
    exact ((tag_iff.mp (valid.tags tag member)).2 _ inside).2.2 rfl

theorem note_pieces_spacing {operation : Operation}
    (closed : ∀ text ∈ operation.note, operation.noteForm.closing ∉ text) :
    ∀ piece ∈ operation.notePieces, piece.Spacing := by
  rw [notePieces]
  cases note : operation.note with
  | none => exact List.forall_mem_nil _
  | some text =>
      rw [List.forall_mem_cons, List.forall_mem_singleton]
      refine ⟨rfl, ?_, closed text note⟩
      rw [noteForm]
      cases operation.action <;> simp

theorem canonical_gaps (operation : Operation) :
    operation.canonicalSpelling.gaps = operation.annotationPieces := by
  simp [Spelling.gaps, canonicalSpelling, bareSpelling, spelled_gap]

theorem canonical_proper {operation : Operation} (valid : operation.Valid)
    (notatable : operation.Notatable) : operation.canonicalSpelling.Proper := by
  rcases bare_proper notatable.quoted with ⟨_, quoted, coordinates, single, operand⟩
  refine ⟨?_, quoted, coordinates, single, operand⟩
  have spacingTags := tag_pieces_spacing valid
  have spacingNote := note_pieces_spacing notatable.note
  rw [canonical_gaps, annotationPieces]
  cases operation.action with
  | swap other described => exact List.forall_mem_append.mpr ⟨spacingTags, spacingNote⟩
  | _ => exact List.forall_mem_append.mpr ⟨spacingNote, spacingTags⟩

theorem decimal_spells {number : Nat} (writable : Numeral.writable number = true) :
    SpellsNumber (Numeral.decimal number) number :=
  ⟨of_decide_eq_true writable, Numeral.ofDigits_decimal number⟩

theorem length_spells {span : Span} (least : 1 ≤ span.length)
    (writable : Numeral.writable span.length = true) :
    SpellsLength span.spelled.length span.length := by
  rw [Span.spelled]
  split
  · exact decimal_spells writable
  · next more => exact Nat.le_antisymm (Nat.not_lt.mp more) least

/-- The numbers of the canonical notation stand for those of the operation. -/
theorem numbers_spell {operation : Operation} (valid : operation.Valid)
    (writable : operation.writable = true)
    (single : ∀ side text, operation.action = .insert side text → operation.span.length = 1) :
    SpellsNumber operation.bareSpelling.coordinates.position operation.span.start ∧
      SpellsLength operation.bareSpelling.coordinates.length operation.span.length ∧
      operation.action.spelled.Spells operation.action := by
  have least := valid.length
  rw [Operation.writable, writtenNumbers, List.all_eq_true] at writable
  rw [bareSpelling]
  cases action : operation.action with
  | delete =>
      rw [action, List.forall_mem_cons, List.forall_mem_singleton] at writable
      rcases writable with ⟨start, length⟩
      exact ⟨decimal_spells start, length_spells least length, .delete⟩
  | insert side text =>
      rw [action, List.forall_mem_singleton] at writable
      exact ⟨decimal_spells writable, single side text action, .insert side text⟩
  | replace text =>
      rw [action, List.forall_mem_cons, List.forall_mem_singleton] at writable
      rcases writable with ⟨start, length⟩
      exact ⟨decimal_spells start, length_spells least length, .replace text⟩
  | move side target =>
      simp only [action, List.forall_mem_cons] at writable
      rcases writable with ⟨start, length, reached, _⟩
      exact ⟨decimal_spells start, length_spells least length, .move side (decimal_spells reached)⟩
  | swap other described =>
      have both := valid.action
      rw [action] at both
      rcases both with ⟨_, leastOther, shown⟩
      simp only [action, List.forall_mem_cons] at writable
      rcases writable with ⟨start, length, otherStart, otherLength, _⟩
      have spells : (Action.swap other described).spelled.Spells
          (.swap other (describing described)) :=
        .swap described [] (decimal_spells otherStart) (length_spells leastOther otherLength)
      rw [describing_of_described shown] at spells
      exact ⟨decimal_spells start, length_spells least length, spells⟩

theorem no_tags_in_note (operation : Operation) :
    operation.notePieces.findSome? (Piece.content? [.brackets]) = none := by
  rw [notePieces, noteForm]
  cases operation.note <;> cases operation.action <;> rfl

theorem no_note_in_tags (operation : Operation) :
    operation.tagPieces.findSome? (Piece.content? [.parentheses, .braces]) = none := by
  rw [tagPieces]
  split <;> rfl

theorem note_in_pieces (operation : Operation) :
    operation.notePieces.findSome? (Piece.content? [.parentheses, .braces]) = operation.note := by
  rw [notePieces, noteForm]
  cases operation.note <;> cases operation.action <;> rfl

theorem tags_in_pieces {operation : Operation} (valid : operation.Valid) :
    listedTags (operation.tagPieces.findSome? (Piece.content? [.brackets])) = operation.tags := by
  rw [tagPieces]
  cases tags : operation.tags with
  | nil => rfl
  | cons first rest =>
      apply Text.words_unwords
      intro tag member
      rw [← tags] at member
      rcases tag_iff.mp (valid.tags tag member) with ⟨nonempty, chars⟩
      exact ⟨nonempty, fun char inside => (chars char inside).1⟩

theorem note_in_annotations (operation : Operation) :
    operation.annotationPieces.findSome? (Piece.content? [.parentheses, .braces]) =
      operation.note := by
  rw [annotationPieces]
  cases operation.action <;>
    simp only [List.findSome?_append, no_note_in_tags, note_in_pieces, Option.none_or,
      Option.or_none]

theorem tags_in_annotations {operation : Operation} (valid : operation.Valid) :
    listedTags (operation.annotationPieces.findSome? (Piece.content? [.brackets])) =
      operation.tags := by
  rw [annotationPieces]
  cases operation.action <;>
    simp only [List.findSome?_append, no_tags_in_note, tags_in_pieces valid, Option.none_or,
      Option.or_none]

theorem canonical_spells {operation : Operation} (valid : operation.Valid)
    (writable : operation.writable = true) (notatable : operation.Notatable) :
    operation.canonicalSpelling.Spells operation := by
  rcases numbers_spell valid writable notatable.single with ⟨start, length, action⟩
  refine ⟨describing_of_described valid.described, start, length, action, ?_, ?_⟩
  · rw [canonical_gaps, note_in_annotations]
    exact annotating_of_noted valid.note
  · rw [canonical_gaps]
    exact tags_in_annotations valid

theorem parse_canonical {operation : Operation} (valid : operation.Valid)
    (writable : operation.writable = true) (notatable : operation.Notatable) :
    (Operation.parse (some operation.canonical)).outcome = .ok operation := by
  rw [canonical_text valid]
  exact (canonical_proper valid notatable).parse_text (canonical_spells valid writable notatable)
    valid

end Operation

namespace Grammar

theorem eq_of_describing {text : Option Text} {content : Text}
    (shown : describing text = some content) : text = some content := by
  rw [describing] at shown
  split at shown
  · cases shown
  · exact shown

theorem Operand.Writes.quoted {operand : Operand} {action : Action}
    (writes : operand.Writes action) : ∀ text ∈ action.quotedTexts, text ∈ operand.quotedTexts := by
  intro text member
  cases writes with
  | delete => exact member
  | insert side content => exact member
  | replace content => exact member
  | move side reads => exact member
  | swap described start size =>
      exact Option.mem_toList.mpr (eq_of_describing (Option.mem_toList.mp member))

/-- The quoted texts of an operation are among those that are read. -/
theorem Match.Writes.quoted {found : Match} {note : Option Text} {tags : List Text}
    {operation : Operation} (writes : found.Writes note tags operation) :
    ∀ text ∈ operation.quotedTexts,
      text ∈ (textOf found.described).toList ++ found.operand.quotedTexts := by
  intro text member
  rw [List.mem_append]
  rcases List.mem_append.mp member with inDescription | inAction
  · left
    rw [Option.mem_toList] at inDescription ⊢
    rw [← writes.described] at inDescription
    exact eq_of_describing inDescription
  · right
    exact writes.operand.quoted text inAction

/-- An insertion is read with the length one. -/
theorem Match.Writes.single {found : Match} {note : Option Text} {tags : List Text}
    {operation : Operation} (writes : found.Writes note tags operation) :
    ∀ side text, operation.action = .insert side text → operation.span.length = 1 := by
  intro side text action
  have operand := writes.operand
  have length := writes.length
  rw [action] at operand
  rw [Match.length?] at length
  cases inserts : found.operand with
  | insert other content =>
      rw [inserts] at length
      exact length
  | _ =>
      rw [inserts] at operand
      cases operand

theorem length_strip_le (text : Text) : (Text.strip text).length ≤ text.length := by
  rw [Text.strip, Text.trim, List.length_reverse]
  apply Nat.le_trans (List.dropWhile_suffix _).length_le
  rw [List.length_reverse]
  exact (List.dropWhile_suffix _).length_le

theorem length_annotating_le {region : Option Text} {note : Text}
    (shown : annotating region = some note) : ∃ content ∈ region, note.length ≤ content.length := by
  rcases Option.bind_eq_some_iff.mp shown with ⟨content, inside, kept⟩
  split at kept
  · cases kept
  · cases kept
    exact ⟨content, inside, length_strip_le content⟩

/-- A note that holds the delimiter that closes it is cut off there. -/
theorem note_cut_short {front : List Piece} (closed : ∀ piece ∈ front, piece.Closed)
    (silent : front.findSome? (Piece.content? [.parentheses, .braces]) = none)
    {form : Delimiter} (notes : form ∈ [Delimiter.parentheses, .braces]) {note : Text}
    (cut : form.closing ∈ note) (rest : Text) :
    ∃ content, firstRegion? [.parentheses, .braces]
        (front.flatMap Piece.text ++ ' ' :: form.opening :: (note ++ rest)) = some content ∧
      content.length < note.length := by
  rcases List.eq_append_cons_of_mem cut with ⟨content, others, rfl, outside⟩
  refine ⟨content, ?_, by simp⟩
  rw [first_region_eq, pieces_append closed, List.findSome?_append, silent, Option.none_or,
    pieces_plain (by decide), List.append_assoc, List.cons_append, pieces_literal outside]
  simp [List.findSome?, Piece.content?, notes]

end Grammar

namespace Operation

open Grammar

theorem note_form (operation : Operation) :
    operation.noteForm ∈ [Delimiter.parentheses, .braces] := by
  rw [noteForm]
  cases operation.action <;> simp

/-- The canonical notation of an operation with a note, cut in front of the note. -/
theorem canonical_at_note {operation : Operation} (valid : operation.Valid) {note : Text}
    (noted : operation.note = some note) :
    ∃ front rest, operation.canonical =
        (operation.bareSpelling.pieces ++ front).flatMap Piece.text ++
          ' ' :: operation.noteForm.opening :: (note ++ rest) ∧
      (front = [] ∨ front = operation.tagPieces) := by
  have notes : operation.notePieces = [.plain ' ', .literal operation.noteForm note] := by
    rw [notePieces, noted]
  rw [canonical_eq valid, annotations_text, annotationPieces, notes, Spelling.text]
  cases action : operation.action with
  | swap other described =>
      refine ⟨operation.tagPieces, [operation.noteForm.closing], ?_, Or.inr rfl⟩
      simp [Piece.text]
  | _ =>
      refine ⟨[], operation.noteForm.closing :: operation.tagPieces.flatMap Piece.text, ?_,
        Or.inl rfl⟩
      simp [Piece.text]

theorem bare_silent (operation : Operation) :
    operation.bareSpelling.pieces.findSome? (Piece.content? [.parentheses, .braces]) = none := by
  rw [Spelling.content_pieces (by decide), bare_gaps]
  rfl

theorem notatable_of_parse {operation : Operation} (valid : operation.Valid)
    (read : (Operation.parse (some operation.canonical)).outcome = .ok operation) :
    operation.Notatable := by
  rw [parse_eq_ok_iff] at read
  rcases read with ⟨_, kind, _, found, search, writes⟩
  rcases match_of_find_from search with ⟨_, _, _, _, here⟩
  have quoted : ∀ text ∈ operation.quotedTexts, '"' ∉ text := fun text member =>
    match_quotes here text (writes.quoted text member)
  refine ⟨quoted, ?_, writes.single⟩
  intro note noted cut
  rcases canonical_at_note valid noted with ⟨front, rest, text, place⟩
  have spacing : ∀ piece ∈ front, piece.Spacing := by
    rcases place with rfl | rfl
    · exact List.forall_mem_nil _
    · exact tag_pieces_spacing valid
  have closed : ∀ piece ∈ operation.bareSpelling.pieces ++ front, piece.Closed :=
    List.forall_mem_append.mpr ⟨(bare_proper quoted).closed, fun piece inside =>
      (spacing piece inside).closed⟩
  have silent : (operation.bareSpelling.pieces ++ front).findSome?
      (Piece.content? [.parentheses, .braces]) = none := by
    rw [List.findSome?_append, bare_silent, Option.none_or]
    rcases place with rfl | rfl
    · rfl
    · exact no_note_in_tags operation
  rcases note_cut_short closed silent operation.note_form cut rest with
    ⟨content, region, shorter⟩
  have shown := writes.note
  rw [note_eq, text, region, noted] at shown
  rcases length_annotating_le shown with ⟨inner, inside, innerLonger⟩
  rcases length_annotating_le inside with ⟨_, same, contentLonger⟩
  cases same
  omega

/-- An operation is read back from its canonical notation exactly if no quoted text
holds a quotation mark, the note does not hold the delimiter that closes it, and an
insertion has the length one. -/
theorem written_then_parsed_iff {operation : Operation} (valid : operation.Valid)
    (writable : operation.writable = true) :
    operation.write >>= (fun text => (Operation.parse (some text)).outcome) = .ok operation ↔
      operation.Notatable := by
  have written : operation.write = .ok operation.canonical := if_pos writable
  rw [written]
  constructor
  · exact notatable_of_parse valid
  · exact parse_canonical valid writable

/-- A swap whose texts look like other operations and whose note holds the delimiters of
the other notes. -/
def annotatedSwap : Operation where
  described := some ['a', '@', '1', '!']
  span := ⟨1, 4⟩
  note := some ['s', 'e', 'e', ' ', '(', 'b', ')']
  tags := [['x'], ['y', '=']]
  action := .swap ⟨7, 2⟩ (some ['<', '>'])

theorem annotated_swap_valid : annotatedSwap.Valid where
  described := nofun
  start := by decide
  length := by decide
  note := by
    intro text noted
    cases noted
    decide
  tags := by decide
  action := ⟨by decide, by decide, nofun⟩

theorem annotated_swap_read_back :
    annotatedSwap.write >>= (fun text => (Operation.parse (some text)).outcome) =
      .ok annotatedSwap := by
  apply (written_then_parsed_iff annotated_swap_valid (by decide)).mpr
  refine ⟨by decide, ?_, ?_⟩
  · intro text noted
    cases noted
    decide
  · intro side text action
    cases action

end Operation

end EditScript
