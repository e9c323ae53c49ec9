import EditScript.Proofs.Captures
import EditScript.Proofs.Masks

/-!
# Where numerals stand

The kind of an operation is told by an operator outside all literal regions, but its form
is looked for in a text that still shows the quoted ones, and nothing keeps the search from
starting inside one of them. What it does keep to is this: a form that has got outside the
quoted texts reads each of them as a whole or not at all. So all numerals of a form stand
outside the literal regions as soon as its position does, and a position that does not is
a coordinate which some quoted text holds.
-/

namespace EditScript.Grammar

set_option autoImplicit false

variable {text : Text}

/-! ### The text without annotations -/

theorem length_masked (parts : List Piece) :
    (parts.flatMap Piece.withoutAnnotations).length = width parts := by
  rw [Piece.without_annotations_eq]
  simp only [width, List.length_flatMap, Piece.length_blanked_text]

theorem masked_behind {front back : List Piece} (split : pieces text = front ++ back) :
    (maskAnnotations text).drop (width front) = back.flatMap Piece.withoutAnnotations := by
  rw [maskAnnotations, split, List.flatMap_append, ← length_masked, List.drop_left]

theorem masked_at {front back : List Piece} {piece : Piece} {index : Nat}
    (split : pieces text = front ++ piece :: back) (inside : index < piece.text.length) :
    (maskAnnotations text)[width front + index]? = piece.withoutAnnotations[index]? := by
  rw [maskAnnotations, split, Piece.without_annotations_eq]
  exact rendered_at (Piece.length_blanked_text annotationForms) inside

/-- The masked text is blank where an annotation stands. -/
theorem blank_where_annotated {front back : List Piece} {piece : Piece} {place : Nat}
    (split : pieces text = front ++ piece :: back)
    (annotated : piece.isRegion annotationForms = true) (starts : width front ≤ place)
    (ends : place < width front + piece.text.length) : (maskAnnotations text)[place]? = some ' ' := by
  rcases Nat.exists_eq_add_of_le starts with ⟨index, rfl⟩
  have inside : index < piece.text.length := Nat.lt_of_add_lt_add_left ends
  rw [mask_annotations_eq, blank_out_at split inside, if_pos annotated]

/-- A quotation mark that opens no quoted text is the last one. -/
theorem last_quotation_mark {front back : List Piece}
    (split : pieces text = front ++ .plain '"' :: back) : '"' ∉ back.flatMap Piece.text := by
  have settled := settled_pieces text
  rw [split] at settled
  exact (settled_behind settled).1 .quotes (by decide)

/-! ### Steps over the masked text -/

/-- A cursor at a place of a text. -/
def Cursor.On (text : Text) (cursor : Cursor) : Prop :=
  cursor.rest = text.drop cursor.offset

/-- A cursor that stands inside no quoted text. -/
def Cursor.Free (text : Text) (cursor : Cursor) : Prop :=
  Stretch.Outside [.quotes] text ⟨cursor.offset, cursor.offset⟩

section

variable {masked part : Text} {cursor behind : Cursor}

theorem Cursor.On.passes (on : cursor.On masked) (passes : cursor.Passes part behind) :
    behind.On masked := by
  rw [On, passes.offset, ← List.drop_drop, ← on, passes.rest, List.drop_left]

theorem Cursor.On.char_at (on : cursor.On masked) (passes : cursor.Passes part behind)
    {index : Nat} (inside : index < part.length) :
    masked[cursor.offset + index]? = part[index]? := by
  rw [← List.getElem?_drop, ← on, passes.rest, List.getElem?_append_left inside]

end

variable {part : Text} {cursor behind : Cursor}

/-- A part without a quotation mark that is passed over from outside the quoted texts
stays outside them. -/
theorem outside_of_passes (on : cursor.On (maskAnnotations text))
    (passes : cursor.Passes part behind) (unquoted : '"' ∉ part) (free : cursor.Free text) :
    Stretch.Outside [.quotes] text ⟨cursor.offset, behind.offset⟩ := by
  rw [Cursor.Free, outside_quotes_iff] at free
  rw [outside_quotes_iff]
  intro front content back split
  rcases free front content back split with before | after
  · refine .inl (Nat.le_of_not_lt fun into => unquoted ?_)
    -- the opening quotation mark would be one of the characters that are passed over
    have opening : (maskAnnotations text)[width front + 0]? = some '"' :=
      masked_at split (Nat.succ_pos _)
    rcases Nat.exists_eq_add_of_le before with ⟨index, place⟩
    have inside : index < part.length := by
      have stop := passes.offset
      omega
    rw [Nat.add_zero, place] at opening
    exact List.mem_of_getElem? ((on.char_at passes inside).symm.trans opening)
  · exact .inr after

theorem free_of_passes (on : cursor.On (maskAnnotations text))
    (passes : cursor.Passes part behind) (unquoted : '"' ∉ part) (free : cursor.Free text) :
    behind.Free text := by
  intro region member
  rcases outside_of_passes on passes unquoted free region member with before | after
  · exact .inl before
  · refine .inr (Nat.le_trans after ?_)
    rw [passes.offset]
    exact Nat.le_add_right _ _

/-- A quotation mark that is shown outside the quoted texts is a piece, or the start of one. -/
theorem piece_at_quotation_mark {place : Nat} (mark : (maskAnnotations text)[place]? = some '"')
    (free : Stretch.Outside [.quotes] text ⟨place, place⟩) :
    ∃ front piece back, pieces text = front ++ piece :: back ∧ place = width front ∧
      (piece = .plain '"' ∨ ∃ content, piece = .literal .quotes content) := by
  have inside : place < width (pieces text) := by
    rw [← length_masked]
    exact (List.getElem?_eq_some_iff.mp mark).1
  rcases piece_around inside with ⟨front, piece, back, split, starts, ends⟩
  refine ⟨front, piece, back, split, ?_⟩
  by_cases annotated : piece.isRegion annotationForms = true
  · cases mark.symm.trans (blank_where_annotated split annotated starts ends)
  cases piece with
  | plain char =>
      have start : place = width front := by
        simp only [Piece.text, List.length_singleton] at ends
        omega
      have shown : (maskAnnotations text)[width front + 0]? = some char :=
        masked_at split (Nat.succ_pos _)
      rw [Nat.add_zero, ← start, mark] at shown
      exact ⟨start, .inl (congrArg Piece.plain (Option.some.inj shown.symm))⟩
  | literal delimiter content =>
      cases delimiter with
      | quotes =>
          refine ⟨?_, .inr ⟨content, rfl⟩⟩
          rcases outside_quotes_iff.mp free front content back split with before | after
          · exact Nat.le_antisymm before starts
          · simp only [Piece.text, List.length_cons, List.length_append, List.length_nil] at ends
            omega
      | parentheses => exact absurd rfl annotated
      | braces => exact absurd rfl annotated
      | brackets => exact absurd rfl annotated

/-- A quotation mark that is a piece of its own opens nothing. -/
theorem no_quoted_at_plain {front back : List Piece} (on : cursor.On (maskAnnotations text))
    (split : pieces text = front ++ .plain '"' :: back) (place : cursor.offset = width front) :
    cursor.quoted? = none := by
  rw [Option.eq_none_iff_forall_ne_some]
  rintro ⟨content, after⟩ read
  have rest := (Cursor.passes_quoted read).1.rest
  rw [on, place, masked_behind split] at rest
  have later : back.flatMap Piece.withoutAnnotations = content.text ++ ['"'] ++ after.rest :=
    (List.cons.inj rest).2
  have closing : '"' ∈ back.flatMap Piece.withoutAnnotations := by
    rw [later]
    simp
  exact last_quotation_mark split (mem_flat_of_masked (by decide) closing)

theorem quoted_at_piece {front back : List Piece} {content : Text}
    (on : cursor.On (maskAnnotations text))
    (split : pieces text = front ++ .literal .quotes content :: back)
    (place : cursor.offset = width front) :
    cursor.quoted? = some (⟨content, cursor.offset + 1⟩,
      ⟨width (front ++ [.literal .quotes content]), back.flatMap Piece.withoutAnnotations⟩) := by
  have closed : '"' ∉ content :=
    closing_not_mem (split ▸ List.mem_append_right _ List.mem_cons_self)
  have rest : cursor.rest = '"' :: (content ++ '"' :: back.flatMap Piece.withoutAnnotations) := by
    rw [on, place, masked_behind split]
    simp [Piece.withoutAnnotations, Piece.text, Delimiter.opening, Delimiter.closing]
  have next : width (front ++ [.literal .quotes content]) =
      cursor.offset + (content.length + 2) := by
    simp [width, place, Piece.text]
  rw [next, ← Cursor.quoted_at closed, ← rest]

/-- What is read as a quoted text from outside the quoted texts is one of them. -/
theorem free_of_quoted {content : Capture} (on : cursor.On (maskAnnotations text))
    (read : cursor.quoted? = some (content, behind)) (free : cursor.Free text) :
    behind.Free text := by
  have mark : (maskAnnotations text)[cursor.offset]? = some '"' :=
    on.char_at (Cursor.passes_quoted read).1 (Nat.succ_pos _)
  rcases piece_at_quotation_mark mark free with ⟨front, piece, back, split, place, form⟩
  rcases form with rfl | ⟨inner, rfl⟩
  · rw [no_quoted_at_plain on split place] at read
    cases read
  · rw [quoted_at_piece on split place] at read
    cases read
    exact outside_between [.quotes] (by rw [split, List.append_assoc, List.singleton_append])

/-! ### What a form reads behind a cursor -/

/-- A cursor that is moved on, and not into a quoted text. -/
structure Leads (text : Text) (cursor behind : Cursor) : Prop where
  on : behind.On (maskAnnotations text)
  free : cursor.Free text → behind.Free text

/-- A capture that the masked text shows, and that stands outside the quoted texts if the
cursor it is read from does. -/
structure StandsBehind (text : Text) (cursor : Cursor) (capture : Capture) : Prop where
  shown : capture.text <+: (maskAnnotations text).drop capture.offset
  outside : cursor.Free text → capture.stretch.Outside [.quotes] text

theorem Leads.trans {between : Cursor} (first : Leads text cursor between)
    (second : Leads text between behind) : Leads text cursor behind where
  on := second.on
  free := fun free => second.free (first.free free)

theorem StandsBehind.of_leads {between : Cursor} {capture : Capture}
    (leads : Leads text cursor between) (stands : StandsBehind text between capture) :
    StandsBehind text cursor capture where
  shown := stands.shown
  outside := fun free => stands.outside (leads.free free)

theorem unquoted_numeral {sign : Char} {digits : Text} (mark : sign ≠ '"')
    (row : Numeral.Digits digits) : '"' ∉ sign :: digits := by
  intro member
  rcases List.mem_cons.mp member with same | inside
  · exact mark same.symm
  · exact absurd (row.digit _ inside) (by decide)

section

variable (on : cursor.On (maskAnnotations text))

include on

theorem leads_of_passes (passes : cursor.Passes part behind) (unquoted : '"' ∉ part) :
    Leads text cursor behind where
  on := on.passes passes
  free := free_of_passes on passes unquoted

theorem leads_blanks : Leads text cursor cursor.skipBlanks := by
  rcases Cursor.passes_blanks cursor with ⟨blanks, blank, passes⟩
  exact leads_of_passes on passes fun member => absurd (blank _ member) (by decide)

theorem leads_description {described : Option Capture}
    (read : cursor.description? = some (described, behind)) : Leads text cursor behind := by
  rcases Cursor.passes_description read with ⟨_, rfl⟩ | ⟨content, after, _, quoted, rfl⟩
  · exact leads_blanks on
  · have leads : Leads text cursor after :=
      ⟨on.passes (Cursor.passes_quoted quoted).1, free_of_quoted on quoted⟩
    exact leads.trans (leads_blanks leads.on)

/-- A sign and the numeral behind it. -/
theorem stands_of_passes {sign : Char} {digits : Capture}
    (passes : cursor.Passes (sign :: digits.text) behind)
    (offset : digits.offset = cursor.offset + 1) (row : Numeral.Digits digits.text)
    (mark : sign ≠ '"') : StandsBehind text cursor digits ∧ Leads text cursor behind := by
  have unquoted := unquoted_numeral mark row
  refine ⟨⟨⟨behind.rest, ?_⟩, ?_⟩, leads_of_passes on passes unquoted⟩
  · rw [offset, ← List.drop_drop, ← on, passes.rest]
    rfl
  · intro free region member
    rcases outside_of_passes on passes unquoted free region member with before | after
    · refine .inl (Nat.le_trans (Nat.le_of_eq ?_) before)
      simp only [Capture.stretch, passes.offset, offset, List.length_cons]
      omega
    · refine .inr (Nat.le_trans after ?_)
      simp only [Capture.stretch, offset, Nat.le_succ]

theorem stands_position {digits : Capture} (read : cursor.position? = some (digits, behind)) :
    StandsBehind text cursor digits ∧ Leads text cursor behind := by
  rcases Cursor.passes_position read with ⟨passes, offset, row⟩
  exact stands_of_passes on passes offset row (by decide)

theorem stands_length (label : String) {length : Option Capture}
    (read : cursor.length? = (length, behind)) :
    (∀ reading ∈ lengthReading label length, StandsBehind text cursor reading.digits) ∧
      Leads text cursor behind := by
  rcases Cursor.passes_length read with ⟨rfl, rfl⟩ | ⟨sign, digits, rfl, signed, passes, offset, row⟩
  · exact ⟨List.forall_mem_nil _, ⟨on, id⟩⟩
  · have mark : sign ≠ '"' := by
      rintro rfl
      cases signed
    rcases stands_of_passes on passes offset row mark with ⟨stands, leads⟩
    exact ⟨List.forall_mem_singleton.mpr stands, leads⟩

theorem stands_operand {operand : Operand} (read : ReadsOperand cursor operand behind) :
    ∀ reading ∈ operand.readings, StandsBehind text cursor reading.digits := by
  have blanks := leads_blanks on
  cases read with
  | move side position =>
      exact List.forall_mem_singleton.mpr ((stands_position blanks.on position).1.of_leads blanks)
  | swap description position size =>
      have leads := blanks.trans (leads_description blanks.on description)
      rcases stands_position leads.on position with ⟨stands, further⟩
      have beyond := leads.trans further
      refine List.forall_mem_cons.mpr ⟨stands.of_leads leads, fun reading member => ?_⟩
      exact ((stands_length beyond.on "Second length" size).1 reading member).of_leads beyond
  | _ => exact List.forall_mem_nil _

end

/-- All numerals of a form stand behind the sign of its position. -/
theorem stands_readings {kind : Kind} {found : Match} (on : cursor.On (maskAnnotations text))
    (here : matchAt? kind cursor = some found) :
    ∃ start afterPosition : Cursor, start.On (maskAnnotations text) ∧
      start.position? = some (found.position, afterPosition) ∧
      ∀ reading ∈ found.readings, StandsBehind text start reading.digits := by
  rcases match_steps here with
    ⟨start, afterPosition, afterLength, afterOperator, behind, description, position, length,
      operator, readOperand, rfl⟩
  have onStart := (leads_description on description).on
  rcases stands_position onStart position with ⟨standsPosition, leadsPosition⟩
  have lengths : (∀ reading ∈ lengthReading (lengthLabel found.operand.kind) found.length?,
      StandsBehind text start reading.digits) ∧ Leads text start afterLength := by
    rcases length_of_steps length with ⟨none, rfl⟩ | ⟨same, read⟩
    · rw [none]
      exact ⟨List.forall_mem_nil _, leadsPosition⟩
    · rw [same]
      rcases stands_length leadsPosition.on _ read with ⟨stands, leads⟩
      exact ⟨fun reading member => (stands reading member).of_leads leadsPosition,
        leadsPosition.trans leads⟩
  have blanks := lengths.2.trans (leads_blanks lengths.2.on)
  have leadsOperator := blanks.trans
    (leads_of_passes blanks.on (Cursor.passes_token operator) (by
      generalize found.operand.kind = kind
      rcases kind with _ | side | _ | side | _ <;> first | decide | (cases side <;> decide)))
  refine ⟨start, afterPosition, onStart, position, List.forall_mem_cons.mpr ⟨standsPosition, ?_⟩⟩
  refine List.forall_mem_append.mpr ⟨lengths.1, fun reading member => ?_⟩
  exact (stands_operand leadsOperator.on readOperand reading member).of_leads leadsOperator

/-- What the masked text shows is no part of an annotation, unless it is blank. -/
theorem outside_annotations {capture : Capture}
    (shown : capture.text <+: (maskAnnotations text).drop capture.offset)
    (filled : capture.text ≠ []) (visible : ' ' ∉ capture.text) :
    capture.stretch.Outside annotationForms text := by
  rcases shown with ⟨rest, shown⟩
  have some : 0 < capture.text.length := List.length_pos_iff.mpr filled
  rw [outside_iff]
  intro front piece back split annotated
  by_contra cut
  rcases not_or.mp cut with ⟨starts, ends⟩
  dsimp only [Capture.stretch] at starts ends
  -- the first place that the two have in common would be blank and part of the capture
  have common : ∃ index < capture.text.length, width front ≤ capture.offset + index ∧
      capture.offset + index < width front + piece.text.length := by
    by_cases later : width front ≤ capture.offset
    · exact ⟨0, some, later, Nat.lt_of_not_le ends⟩
    · refine ⟨width front - capture.offset, by omega, by omega, ?_⟩
      have size : 0 < piece.text.length := by
        cases piece <;> simp [Piece.text]
      omega
  rcases common with ⟨index, inside, atLeast, below⟩
  have blank := blank_where_annotated split annotated atLeast below
  rw [← List.getElem?_drop, ← shown, List.getElem?_append_left inside] at blank
  exact visible (List.mem_of_getElem? blank)

theorem prefix_of_stop {mark : Char} {part rest front back : Text}
    (same : part ++ rest = front ++ mark :: back) (unmarked : mark ∉ part) : part <+: front := by
  rcases List.append_eq_append_iff.mp same with ⟨between, rfl, _⟩ | ⟨between, rfl, split⟩
  · exact List.prefix_append part between
  · cases between with
    | nil => exact ⟨[], by simp⟩
    | cons first between =>
        rcases List.cons.inj split with ⟨rfl, _⟩
        exact absurd (List.mem_append_right front List.mem_cons_self) unmarked

/-- A coordinate is read outside the quoted texts, or from inside one that holds it. -/
theorem free_or_quoted {digits : Capture} (on : cursor.On (maskAnnotations text))
    (read : cursor.position? = some (digits, behind)) :
    cursor.Free text ∨ (¬ digits.stretch.Outside [.quotes] text ∧
      ∃ content, .literal .quotes content ∈ pieces text ∧ '@' :: digits.text <:+: content) := by
  by_cases free : cursor.Free text
  · exact .inl free
  refine .inr ?_
  rcases Cursor.passes_position read with ⟨passes, offset, row⟩
  rw [Cursor.Free, outside_quotes_iff] at free
  simp only [not_forall, not_or, Nat.not_le] at free
  rcases free with ⟨front, content, back, split, starts, ends⟩
  have sign : (maskAnnotations text)[cursor.offset]? = some '@' :=
    on.char_at passes (Nat.succ_pos _)
  have view := masked_behind split
  -- the closing quotation mark is not the sign, so the sign is part of the content
  have closing : (maskAnnotations text)[width front + (content.length + 1)]? = some '"' := by
    rw [masked_at split (by simp [Piece.text])]
    simp [Piece.withoutAnnotations, Piece.text, Delimiter.closing]
  have inside : cursor.offset ≠ width front + (content.length + 1) := by
    intro same
    rw [same, closing] at sign
    cases sign
  refine ⟨?_, content, split ▸ List.mem_append_right _ List.mem_cons_self, ?_⟩
  · rw [Capture.stretch, outside_quotes_iff]
    intro outside
    rcases outside front content back split with before | after
    · omega
    · omega
  · rcases Nat.exists_eq_add_of_lt starts with ⟨index, place⟩
    have shown : '@' :: digits.text ++ behind.rest =
        content.drop index ++ '"' :: back.flatMap Piece.withoutAnnotations := by
      rw [← passes.rest, on, place, Nat.add_assoc, ← List.drop_drop, view]
      have fits : index ≤ content.length := by omega
      simp [Piece.withoutAnnotations, Piece.text, Delimiter.closing,
        List.drop_append_of_le_length fits]
    have within := prefix_of_stop shown (unquoted_numeral (by decide) row)
    exact within.isInfix.trans (List.drop_suffix index content).isInfix

/-- Whatever text is read as an operation, none of its numerals stands in a note or in a tag
list. They all stand outside the quoted texts too exactly if the position does; and if it
does not, then it is a coordinate that a quoted text holds. -/
theorem numerals_outside_iff {operation : Operation}
    (read : (Operation.parse (some text)).outcome = .ok operation) :
    ∃ kind found, detect? text = some kind ∧ find? kind (maskAnnotations text) = some found ∧
      found.Writes (note? text) (tags text) operation ∧
      (∀ reading ∈ found.readings, reading.digits.stretch.Outside annotationForms text) ∧
      ((∀ reading ∈ found.readings, reading.digits.stretch.Outside literalForms text) ↔
        found.position.stretch.Outside [.quotes] text) ∧
      (found.position.stretch.Outside [.quotes] text ∨ ∃ content,
        .literal .quotes content ∈ pieces text ∧ '@' :: found.position.text <:+: content) := by
  rcases (parse_eq_ok_iff text operation).mp read with ⟨_, kind, detected, found, there, writes⟩
  rcases match_of_find_from there with ⟨front, cursor, masked, offset, here⟩
  have on : cursor.On (maskAnnotations text) := by
    rw [Cursor.On, offset, Nat.zero_add, masked, List.drop_left]
  rcases stands_readings on here with ⟨start, _, onStart, position, stands⟩
  have rows := readings_digits here
  have annotations : ∀ reading ∈ found.readings,
      reading.digits.stretch.Outside annotationForms text := by
    intro reading member
    have row := rows reading member
    exact outside_annotations (stands reading member).shown row.nonempty
      fun space => absurd (row.digit _ space) (by decide)
  have quotes (free : start.Free text) : ∀ reading ∈ found.readings,
      reading.digits.stretch.Outside [.quotes] text :=
    fun reading member => (stands reading member).outside free
  have own := free_or_quoted onStart position
  refine ⟨kind, found, detected, there, writes, annotations, ⟨?_, ?_⟩, ?_⟩
  · intro all
    exact (outside_literal_iff.mp (all _ List.mem_cons_self)).1
  · intro outside reading member
    rcases own with free | ⟨enclosed, _⟩
    · exact outside_literal_iff.mpr ⟨quotes free reading member, annotations reading member⟩
    · exact absurd outside enclosed
  · rcases own with free | ⟨_, holds⟩
    · exact .inl (quotes free _ List.mem_cons_self)
    · exact .inr holds

/-- A move whose description, note and tag hold signs of other coordinates. -/
def signsInRegions : Text :=
  "\"@2!\"@1x2 (@4) > @3 [@5!]".toList

theorem signs_in_regions_passed_by :
    ∃ found, find? (.move .before) (maskAnnotations signsInRegions) = some found ∧
      found.readings.map (fun reading => reading.digits.text) = [['1'], ['2'], ['3']] ∧
      ∀ reading ∈ found.readings, reading.digits.stretch.Outside literalForms signsInRegions := by
  have read : (Operation.parse (some signsInRegions)).outcome =
      .ok ⟨some "@2!".toList, ⟨1, 2⟩, some "@4".toList, ["@5!".toList], .move .before 3⟩ := by
    with_unfolding_all rfl
  rcases numerals_outside_iff read with ⟨kind, found, detected, there, _, _, all, _⟩
  have named : detect? signsInRegions = some (.move .before) := by
    with_unfolding_all rfl
  cases named.symm.trans detected
  have form : find? (.move .before) (maskAnnotations signsInRegions) =
      some ⟨⟨"\"@2!\"@1x2      > @3".toList, 0⟩, some ⟨"@2!".toList, 1⟩, ⟨['1'], 6⟩,
        some ⟨['2'], 8⟩, .move .before ⟨['3'], 18⟩⟩ := by
    with_unfolding_all rfl
  cases form.symm.trans there
  exact ⟨_, there, rfl, all.mpr (by decide +kernel)⟩

/-- A deletion is quoted here, and the operator outside is that of a deletion too. -/
def quotedDeletion : Text :=
  "\"@1!\" !".toList

/-- The search starts behind the quotation mark, so the quoted coordinate is read. -/
theorem quoted_coordinate_read :
    ∃ found, (Operation.parse (some quotedDeletion)).outcome =
        .ok ⟨none, ⟨1, 1⟩, none, [], .delete⟩ ∧
      detect? quotedDeletion = some .delete ∧
      find? .delete (maskAnnotations quotedDeletion) = some found ∧
      found.position = ⟨['1'], 2⟩ ∧ pieces quotedDeletion =
        [.literal .quotes "@1!".toList, .plain ' ', .plain '!'] ∧
      ¬ ∀ reading ∈ found.readings, reading.digits.stretch.Outside literalForms quotedDeletion := by
  refine ⟨⟨⟨"@1!".toList, 1⟩, none, ⟨['1'], 2⟩, none, .delete⟩, ?_, ?_, ?_, rfl, ?_, ?_⟩
  · with_unfolding_all rfl
  · with_unfolding_all rfl
  · with_unfolding_all rfl
  · with_unfolding_all rfl
  · intro all
    have position : ¬ Stretch.Outside literalForms quotedDeletion ⟨2, 3⟩ := by
      decide +kernel
    exact position (all _ List.mem_cons_self)

end EditScript.Grammar
