import EditScript.Proofs.Spelling

/-!
# Reading spellings

Without its notes and tag lists a spelling consists of its tokens and blanks. The
form of its kind starts at the first token: in front of a quoted description there
are only blanks, and at none of them a form can start, since a quotation mark is no
position. From there on each token is taken off as it was spelled.
-/

namespace EditScript.Grammar

set_option autoImplicit false

/-- What is read behind an operator is what was spelled there. -/
inductive Operand.Shows : Operand → SpelledOperand → Prop
  | delete : Shows .delete .delete
  | insert (side : Side) (content : Capture) :
      Shows (.insert side content) (.insert side content.text)
  | replace (content : Capture) : Shows (.replace content) (.replace content.text)
  | move (side : Side) (target : Capture) : Shows (.move side target) (.move side target.text)
  | swap {described : Option Capture} {position : Capture} {length : Option Capture}
      (gap : List Piece) {coordinates : Coordinates}
      (start : position.text = coordinates.position)
      (size : textOf length = coordinates.length.map Prod.snd) :
      Shows (.swap described position length) (.swap (textOf described) gap coordinates)

/-- A form that has been found has the tokens of a spelling. -/
structure Match.Shows (found : Match) (spelling : Spelling) : Prop where
  described : textOf found.described = spelling.described
  position : found.position.text = spelling.coordinates.position
  length : textOf found.length = spelling.coordinates.length.map Prod.snd
  operand : found.operand.Shows spelling.operand

/-- The text of a gap without its notes and tag lists. -/
def blanked (gap : List Piece) : Text :=
  gap.flatMap Piece.withoutAnnotations

theorem blank_of_spacing {gap : List Piece} (spacing : ∀ piece ∈ gap, piece.Spacing) :
    ∀ char ∈ blanked gap, Text.isBlank char = true :=
  fun _ member => blank_of_mem_masked spacing member

theorem blanked_append (front back : List Piece) :
    blanked (front ++ back) = blanked front ++ blanked back :=
  List.flatMap_append

theorem blanked_plainly (text : Text) : blanked (plainly text) = text :=
  flat_map_plainly (fun _ => rfl) text

theorem blanked_quotes (content rest : Text) :
    blanked [.literal .quotes content] ++ rest = '"' :: (content ++ '"' :: rest) := by
  simp [blanked, Piece.withoutAnnotations, Piece.text, Delimiter.opening, Delimiter.closing]

/-- The characters that go on with coordinates. -/
def isNumeric (char : Char) : Bool :=
  char.isDigit || Cursor.isLengthSign char

/-- The text of a spelling from its coordinates on, without notes and tag lists. -/
def Spelling.core (spelling : Spelling) : Text :=
  spelling.coordinates.text ++ (blanked spelling.before ++ (spelling.kind.operator ++
    (blanked spelling.after ++ (blanked spelling.operand.pieces ++ blanked spelling.trail))))

section

variable {tail : Text} {coordinates : Coordinates}

theorem stops_at_digit (stop : tail.StopsAt isNumeric) : tail.StopsAt Char.isDigit := by
  intro char head
  exact (Bool.or_eq_false_iff.mp (stop char head)).1

theorem stops_at_length_sign (stop : tail.StopsAt isNumeric) :
    tail.StopsAt Cursor.isLengthSign := by
  intro char head
  exact (Bool.or_eq_false_iff.mp (stop char head)).2

theorem not_digit_of_length_sign {sign : Char} (signed : Cursor.isLengthSign sign = true) :
    sign.isDigit = false := by
  simp only [Cursor.isLengthSign, Bool.or_eq_true, decide_eq_true_eq] at signed
  rcases signed with (rfl | rfl) | rfl <;> decide

theorem not_numeric_of_blank {char : Char} (blank : Text.isBlank char = true) :
    isNumeric char = false := by
  rw [isNumeric, Bool.or_eq_false_iff]
  constructor
  · rw [Bool.eq_false_iff]
    intro digit
    have range := Numeral.digit_range digit
    simp [Text.isBlank, Text.isPadding] at blank
    omega
  · rw [Bool.eq_false_iff]
    intro signed
    simp only [Cursor.isLengthSign, Bool.or_eq_true, decide_eq_true_eq] at signed
    rcases signed with (rfl | rfl) | rfl <;> exact absurd blank (by decide)

/-- A position is taken off in front of the length that follows it. -/
theorem position_part (offset : Nat) (proper : coordinates.Proper) (stop : tail.StopsAt isNumeric) :
    Cursor.position? ⟨offset, coordinates.text ++ tail⟩ =
      some (⟨coordinates.position, offset + 1⟩,
        ⟨offset + 1 + coordinates.position.length, coordinates.lengthText ++ tail⟩) := by
  have text : coordinates.text ++ tail =
      '@' :: (coordinates.position ++ (coordinates.lengthText ++ tail)) := by
    simp [Coordinates.text]
  rw [text]
  apply Cursor.position_at proper.position
  rcases coordinates with ⟨position, length⟩
  cases length with
  | none => exact stops_at_digit stop
  | some part =>
      exact Text.stops_at_of_head _ (not_digit_of_length_sign (proper.length part rfl).1)

theorem length_part (offset : Nat) (proper : coordinates.Proper) (stop : tail.StopsAt isNumeric) :
    ∃ length behind, Cursor.length? ⟨offset, coordinates.lengthText ++ tail⟩ =
      (length, ⟨behind, tail⟩) ∧ textOf length = coordinates.length.map Prod.snd := by
  rcases coordinates with ⟨position, length⟩
  cases length with
  | none => exact ⟨none, offset, Cursor.no_length_at (stops_at_length_sign stop), rfl⟩
  | some part =>
      rcases proper.length part rfl with ⟨signed, row⟩
      exact ⟨some ⟨part.2, offset + 1⟩, _, Cursor.length_at signed row (stops_at_digit stop), rfl⟩

/-- A kind that takes no length has coordinates without one. -/
theorem optional_length_part (kind : Kind) (offset : Nat) (proper : coordinates.Proper)
    (single : kind.takesLength = false → coordinates.length = none)
    (stop : tail.StopsAt isNumeric) :
    ∃ length behind,
      (if kind.takesLength then Cursor.length? ⟨offset, coordinates.lengthText ++ tail⟩
        else (none, ⟨offset, coordinates.lengthText ++ tail⟩)) = (length, ⟨behind, tail⟩) ∧
      textOf length = coordinates.length.map Prod.snd := by
  cases takes : kind.takesLength with
  | true => exact length_part offset proper stop
  | false =>
      rcases coordinates with ⟨position, length⟩
      have absent : length = none := single takes
      rw [absent]
      exact ⟨none, offset, rfl, rfl⟩

theorem unquoted_of_blank {first : Char} (blank : Text.isBlank first = true) (rest : Text) :
    (first :: rest).head? ≠ some '"' := by
  intro quoted
  rw [Option.some.inj quoted] at blank
  exact absurd blank (by decide)

/-- Behind a quotation, or in its place, blanks lead up to the coordinates. -/
theorem description_part (offset : Nat) (tail : Text) {described : Option Text} {gap : Text}
    (closed : ∀ content ∈ described, '"' ∉ content)
    (blank : ∀ char ∈ gap, Text.isBlank char = true) :
    ∃ shown behind,
      Cursor.description? ⟨offset, blanked (quotation described) ++ (gap ++ '@' :: tail)⟩ =
        some (shown, ⟨behind, '@' :: tail⟩) ∧ textOf shown = described := by
  have stop : Text.StopsAt Text.isBlank ('@' :: tail) := Text.stops_at_of_head tail (by decide)
  cases described with
  | none =>
      have unquoted : (gap ++ '@' :: tail).head? ≠ some '"' := by
        cases gap with
        | nil => simp
        | cons char rest => exact unquoted_of_blank (blank char List.mem_cons_self) _
      refine ⟨none, offset + gap.length, ?_, rfl⟩
      change Cursor.description? ⟨offset, gap ++ '@' :: tail⟩ = _
      rw [Cursor.no_description_at unquoted, Cursor.skip_blanks_at _ blank stop]
  | some content =>
      have text : blanked (quotation (some content)) ++ (gap ++ '@' :: tail) =
          '"' :: (content ++ '"' :: (gap ++ '@' :: tail)) :=
        blanked_quotes content _
      rw [text]
      exact ⟨_, _, Cursor.description_at (closed content rfl) blank stop, rfl⟩

theorem skipped_description_part (offset : Nat) (tail : Text) {described : Option Text}
    {blanks gap : Text}
    (closed : ∀ content ∈ described, '"' ∉ content)
    (blankFront : ∀ char ∈ blanks, Text.isBlank char = true)
    (blankGap : ∀ char ∈ gap, Text.isBlank char = true) :
    ∃ shown behind,
      (Cursor.skipBlanks
        ⟨offset, blanks ++ (blanked (quotation described) ++ (gap ++ '@' :: tail))⟩).description? =
        some (shown, ⟨behind, '@' :: tail⟩) ∧ textOf shown = described := by
  cases described with
  | none =>
      have both : ∀ char ∈ blanks ++ gap, Text.isBlank char = true :=
        List.forall_mem_append.mpr ⟨blankFront, blankGap⟩
      have text : blanks ++ (blanked (quotation none) ++ (gap ++ '@' :: tail)) =
          (blanks ++ gap) ++ '@' :: tail := by
        rw [List.append_assoc]
        rfl
      rw [text, Cursor.skip_blanks_at _ both (Text.stops_at_of_head tail (by decide))]
      exact description_part _ tail closed (List.forall_mem_nil _)
  | some content =>
      have stop : Text.StopsAt Text.isBlank
          (blanked (quotation (some content)) ++ (gap ++ '@' :: tail)) :=
        Text.stops_at_of_head _ (by decide)
      rw [Cursor.skip_blanks_at _ blankFront stop]
      exact description_part _ tail closed blankGap

theorem skipped_quotation_part (offset : Nat) (tail : Text) {content blanks : Text}
    (closed : '"' ∉ content) (blank : ∀ char ∈ blanks, Text.isBlank char = true) :
    ∃ start behind,
      (Cursor.skipBlanks ⟨offset, blanks ++ (blanked [.literal .quotes content] ++ tail)⟩).quoted? =
        some (⟨content, start⟩, ⟨behind, tail⟩) := by
  have stop : Text.StopsAt Text.isBlank ('"' :: (content ++ '"' :: tail)) :=
    Text.stops_at_of_head _ (by decide)
  rw [blanked_quotes, Cursor.skip_blanks_at _ blank stop]
  exact ⟨_, _, Cursor.quoted_at closed⟩

/-- What was spelled behind an operator is read there. -/
theorem operand_part (offset : Nat) {blanks : Text} {spelled : SpelledOperand}
    (proper : spelled.Proper) (closed : ∀ text ∈ spelled.quotedTexts, '"' ∉ text)
    (spacing : ∀ piece ∈ spelled.gap, piece.Spacing)
    (blank : ∀ char ∈ blanks, Text.isBlank char = true) (stop : tail.StopsAt isNumeric) :
    ∃ operand behind,
      operand? spelled.kind ⟨offset, blanks ++ (blanked spelled.pieces ++ tail)⟩ =
        some (operand, behind) ∧ operand.Shows spelled := by
  cases spelled with
  | delete => exact ⟨.delete, _, rfl, .delete⟩
  | insert side content =>
      rcases skipped_quotation_part offset tail (closed content List.mem_cons_self) blank with
        ⟨start, behind, read⟩
      refine ⟨.insert side ⟨content, start⟩, ⟨behind, tail⟩, ?_, .insert side ⟨content, start⟩⟩
      simp only [SpelledOperand.kind, SpelledOperand.pieces, operand?, read]
      rfl
  | replace content =>
      rcases skipped_quotation_part offset tail (closed content List.mem_cons_self) blank with
        ⟨start, behind, read⟩
      refine ⟨.replace ⟨content, start⟩, ⟨behind, tail⟩, ?_, .replace ⟨content, start⟩⟩
      simp only [SpelledOperand.kind, SpelledOperand.pieces, operand?, read]
      rfl
  | move side target =>
      have stopBlanks : Text.StopsAt Text.isBlank ('@' :: (target ++ tail)) :=
        Text.stops_at_of_head _ (by decide)
      simp only [SpelledOperand.kind, SpelledOperand.pieces, blanked_plainly, List.cons_append,
        operand?, Cursor.skip_blanks_at _ blank stopBlanks,
        Cursor.position_at proper (stops_at_digit stop)]
      exact ⟨_, _, rfl, .move side ⟨target, _⟩⟩
  | swap described gap coordinates =>
      have text : blanked (SpelledOperand.swap described gap coordinates).pieces ++ tail =
          blanked (quotation described) ++ (blanked gap ++ (coordinates.text ++ tail)) := by
        simp only [SpelledOperand.pieces, blanked_append, blanked_plainly, List.append_assoc]
      have closedText : ∀ content ∈ described, '"' ∉ content := fun content shown =>
        closed content (Option.mem_toList.mpr shown)
      have blankGap : ∀ char ∈ blanked gap, Text.isBlank char = true := blank_of_spacing spacing
      rcases skipped_description_part offset
        (coordinates.position ++ coordinates.lengthText ++ tail) closedText blank blankGap with
        ⟨shown, afterDescription, readDescription, rfl⟩
      have readPosition := position_part afterDescription proper stop
      rcases length_part (afterDescription + 1 + coordinates.position.length) proper stop with
        ⟨length, behind, readLength, size⟩
      refine ⟨.swap shown ⟨coordinates.position, afterDescription + 1⟩ length, ⟨behind, tail⟩, ?_,
        .swap gap rfl size⟩
      rw [text]
      change (Cursor.description? (Cursor.skipBlanks ⟨offset, blanks ++
        (blanked (quotation (textOf shown)) ++ (blanked gap ++ '@' ::
          (coordinates.position ++ coordinates.lengthText ++ tail)))⟩) >>= _) = _
      rw [readDescription]
      change (Cursor.position? ⟨afterDescription, coordinates.text ++ tail⟩ >>= _) = _
      rw [readPosition]
      simp only [bind, Option.bind, readLength]

end

namespace Spelling

variable {spelling : Spelling}

theorem operator_stops (kind : Kind) (rest : Text) :
    Text.StopsAt isNumeric (kind.operator ++ rest) ∧
      Text.StopsAt Text.isBlank (kind.operator ++ rest) := by
  rcases kind with _ | side | _ | side | _ <;>
    first
    | exact ⟨Text.stops_at_of_head _ (by decide), Text.stops_at_of_head _ (by decide)⟩
    | (cases side <;>
        exact ⟨Text.stops_at_of_head _ (by decide), Text.stops_at_of_head _ (by decide)⟩)

theorem Proper.blank (proper : spelling.Proper) {gap : List Piece} (part : gap ⊆ spelling.gaps) :
    ∀ char ∈ blanked gap, Text.isBlank char = true :=
  blank_of_spacing fun piece inside => proper.spacing piece (part inside)

/-- From its coordinates on a form is read as it was spelled. -/
theorem Proper.match_at_core (proper : spelling.Proper) {cursor : Cursor} {offset : Nat}
    {described : Option Capture}
    (read : cursor.description? = some (described, ⟨offset, spelling.core⟩)) :
    ∃ found, matchAt? spelling.kind cursor = some found ∧ found.described = described ∧
      found.position.text = spelling.coordinates.position ∧
      textOf found.length = spelling.coordinates.length.map Prod.snd ∧
      found.operand.Shows spelling.operand := by
  have blankBefore : ∀ char ∈ blanked spelling.before, Text.isBlank char = true :=
    proper.blank fun piece inside => by simp [gaps, inside]
  have blankAfter : ∀ char ∈ blanked spelling.after, Text.isBlank char = true :=
    proper.blank fun piece inside => by simp [gaps, inside]
  have stopTrail : Text.StopsAt isNumeric (blanked spelling.trail) := by
    intro char head
    apply not_numeric_of_blank
    exact proper.blank (fun piece inside => by simp [gaps, inside]) char (List.mem_of_head? head)
  have stopOperator := operator_stops spelling.kind
    (blanked spelling.after ++ (blanked spelling.operand.pieces ++ blanked spelling.trail))
  have stopBefore := stopOperator.1.append
    fun char member => not_numeric_of_blank (blankBefore char member)
  have readPosition := position_part offset proper.coordinates stopBefore
  rcases optional_length_part spelling.kind (offset + 1 + spelling.coordinates.position.length)
    proper.coordinates proper.single stopBefore with ⟨length, afterLength, readLength, size⟩
  have readBlanks := Cursor.skip_blanks_at afterLength blankBefore stopOperator.2
  have readOperator := Cursor.token_at (afterLength + (blanked spelling.before).length)
    spelling.kind.operator
    (blanked spelling.after ++ (blanked spelling.operand.pieces ++ blanked spelling.trail))
  rcases operand_part (afterLength + (blanked spelling.before).length +
      spelling.kind.operator.length) proper.operand
    (fun text inside => proper.quoted text (List.mem_append_right _ inside))
    (fun piece inside => proper.spacing piece (by simp [gaps, inside])) blankAfter stopTrail with
    ⟨operand, behind, readOperand, shows⟩
  refine ⟨⟨⟨cursor.rest.take (behind.offset - cursor.offset), cursor.offset⟩, described,
    ⟨spelling.coordinates.position, offset + 1⟩, length, operand⟩, ?_, rfl, rfl, size, shows⟩
  change (cursor.description? >>= _) = _
  rw [read]
  change (Cursor.position? ⟨offset, spelling.core⟩ >>= _) = _
  rw [Spelling.core, readPosition]
  simp only [bind, Option.bind, readLength, readBlanks, readOperator]
  change ((operand? spelling.operand.kind _).bind _) = _
  rw [readOperand]
  rfl

theorem Proper.masked (proper : spelling.Proper) :
    maskAnnotations spelling.text = blanked spelling.lead ++
      (blanked (quotation spelling.described) ++ (blanked spelling.inner ++ spelling.core)) := by
  rw [maskAnnotations, proper.pieces_text]
  change blanked _ = _
  simp only [Spelling.pieces, Spelling.front, Spelling.back, Spelling.core, blanked_append,
    blanked_plainly, List.append_assoc]

/-- No form starts at a blank in front of a quoted text. -/
theorem no_match_at_blank (kind : Kind) (offset : Nat) {first : Char} {blanks tail : Text}
    (blank : ∀ char ∈ first :: blanks, Text.isBlank char = true) :
    matchAt? kind ⟨offset, first :: (blanks ++ '"' :: tail)⟩ = none := by
  have unquoted := unquoted_of_blank (blank first List.mem_cons_self) (blanks ++ '"' :: tail)
  have skipped : Cursor.skipBlanks ⟨offset, (first :: blanks) ++ '"' :: tail⟩ =
      ⟨offset + (first :: blanks).length, '"' :: tail⟩ :=
    Cursor.skip_blanks_at offset blank (Text.stops_at_of_head tail (by decide))
  change (Cursor.description? _ >>= _) = _
  rw [Cursor.no_description_at unquoted]
  change (Cursor.position? (Cursor.skipBlanks ⟨offset, (first :: blanks) ++ '"' :: tail⟩) >>= _) = _
  rw [skipped, Cursor.no_position_at_quotes]
  rfl

theorem find_behind_blanks (kind : Kind) (offset : Nat) {blanks : Text} (tail : Text)
    (blank : ∀ char ∈ blanks, Text.isBlank char = true) :
    findFrom? kind offset (blanks ++ '"' :: tail) =
      findFrom? kind (offset + blanks.length) ('"' :: tail) := by
  induction blanks generalizing offset with
  | nil => rfl
  | cons first rest induction =>
      have later := induction (offset + 1) fun char member =>
        blank char (List.mem_cons_of_mem first member)
      rw [List.cons_append, findFrom?, no_match_at_blank kind offset blank]
      change findFrom? kind (offset + 1) (rest ++ '"' :: tail) = _
      rw [later, List.length_cons, Nat.add_assoc, Nat.add_comm 1]

theorem find_from_of_match {kind : Kind} {offset : Nat} {text : Text} {found : Match}
    (nonempty : text ≠ []) (here : matchAt? kind ⟨offset, text⟩ = some found) :
    findFrom? kind offset text = some found := by
  cases text with
  | nil => exact absurd rfl nonempty
  | cons first rest => rw [findFrom?, here]

/-- The form that starts with a description or, without one, with blanks. -/
theorem Proper.found_at (proper : spelling.Proper) (offset : Nat) {blanks : Text}
    (blank : ∀ char ∈ blanks, Text.isBlank char = true) :
    ∃ found, findFrom? spelling.kind offset
        (blanked (quotation spelling.described) ++ (blanks ++ spelling.core)) = some found ∧
      found.Shows spelling := by
  have closed : ∀ content ∈ spelling.described, '"' ∉ content := fun content shown =>
    proper.quoted content (List.mem_append_left _ (Option.mem_toList.mpr shown))
  rcases description_part offset (spelling.coordinates.position ++
    spelling.coordinates.lengthText ++ (blanked spelling.before ++ (spelling.kind.operator ++
      (blanked spelling.after ++ (blanked spelling.operand.pieces ++ blanked spelling.trail)))))
    closed blank with ⟨shown, behind, read, same⟩
  rcases proper.match_at_core read with ⟨found, here, described, position, length, operand⟩
  refine ⟨found, find_from_of_match ?_ here, ?_, position, length, operand⟩
  · simp [Spelling.core, Coordinates.text]
  · rw [described, same]

/-- The form of its kind is found at the first token of a spelling. -/
theorem Proper.found (proper : spelling.Proper) :
    ∃ found, find? spelling.kind (maskAnnotations spelling.text) = some found ∧
      found.Shows spelling := by
  have blankLead : ∀ char ∈ blanked spelling.lead, Text.isBlank char = true :=
    proper.blank fun piece inside => by simp [gaps, inside]
  have blankInner : ∀ char ∈ blanked spelling.inner, Text.isBlank char = true :=
    proper.blank fun piece inside => by simp [gaps, inside]
  rw [proper.masked, find?]
  cases described : spelling.described with
  | none =>
      -- The blanks in front of a position belong to the form.
      have found := proper.found_at 0 (List.forall_mem_append.mpr ⟨blankLead, blankInner⟩)
      rw [described, List.append_assoc] at found
      exact found
  | some content =>
      have found := proper.found_at (0 + (blanked spelling.lead).length) blankInner
      have quoted : blanked (quotation (some content)) ++
          (blanked spelling.inner ++ spelling.core) =
          '"' :: (content ++ '"' :: (blanked spelling.inner ++ spelling.core)) :=
        blanked_quotes content _
      rw [described, quoted] at found
      rw [quoted, find_behind_blanks spelling.kind 0 _ blankLead]
      exact found

end Spelling

/-- A row of digits, leading zeros included, is short enough and stands for a number. -/
structure SpellsNumber (digits : Text) (number : Nat) : Prop where
  short : digits.length ≤ Numeral.digitLimit
  value : Numeral.ofDigits digits = number

/-- A length that is left out is one. -/
def SpellsLength (length : Option (Char × Text)) (number : Nat) : Prop :=
  match length with
  | none => number = 1
  | some (_, digits) => SpellsNumber digits number

inductive SpelledOperand.Spells : SpelledOperand → Action → Prop
  | delete : Spells .delete .delete
  | insert (side : Side) (content : Text) : Spells (.insert side content) (.insert side content)
  | replace (content : Text) : Spells (.replace content) (.replace content)
  | move (side : Side) {digits : Text} {target : Nat} (spells : SpellsNumber digits target) :
      Spells (.move side digits) (.move side target)
  | swap (described : Option Text) (gap : List Piece) {coordinates : Coordinates} {other : Span}
      (start : SpellsNumber coordinates.position other.start)
      (size : SpellsLength coordinates.length other.length) :
      Spells (.swap described gap coordinates) (.swap other (describing described))

/-- The tags that a region lists, if there is one. -/
def listedTags (region : Option Text) : List Text :=
  (region.map Text.words).getD []

/-- A spelling has the fields of an operation. Note and tags are those that the gaps
hold first. -/
structure Spelling.Spells (spelling : Spelling) (operation : Operation) : Prop where
  described : describing spelling.described = operation.described
  start : SpellsNumber spelling.coordinates.position operation.span.start
  length : SpellsLength spelling.coordinates.length operation.span.length
  operand : spelling.operand.Spells operation.action
  note : annotating (spelling.gaps.findSome? (Piece.content? [.parentheses, .braces])) =
    operation.note
  tags : listedTags (spelling.gaps.findSome? (Piece.content? [.brackets])) = operation.tags

theorem reads_of_spells {digits : Text} {least number : Nat} (row : Numeral.Digits digits)
    (spells : SpellsNumber digits number) (enough : least ≤ number) :
    Reads digits least number := by
  refine ⟨?_, enough⟩
  rw [Numeral.read_digits row spells.short, spells.value]

theorem reads_length_of_spells {coordinates : Coordinates} {length : Option Capture} {number : Nat}
    (proper : coordinates.Proper) (same : textOf length = coordinates.length.map Prod.snd)
    (spells : SpellsLength coordinates.length number) (enough : 1 ≤ number) :
    ReadsLength length number := by
  rcases coordinates with ⟨position, spelled⟩
  cases spelled with
  | none =>
      cases length with
      | none => exact spells
      | some digits => cases same
  | some part =>
      cases length with
      | none => cases same
      | some digits =>
          have read := reads_of_spells (proper.length part rfl).2 spells enough
          rw [← Option.some.inj same] at read
          exact read

theorem writes_of_shows {operand : Operand} {spelled : SpelledOperand} {action : Action}
    (shows : operand.Shows spelled) (proper : spelled.Proper) (spells : spelled.Spells action)
    (valid : action.Valid) : operand.Writes action := by
  cases shows with
  | delete =>
      cases spells
      exact .delete
  | insert side content =>
      cases spells
      exact .insert side content
  | replace content =>
      cases spells
      exact .replace content
  | move side target =>
      cases spells with
      | move _ spells => exact .move side (reads_of_spells proper spells valid)
  | swap gap start size =>
      cases spells with
      | swap described _ spellsStart spellsSize =>
          rcases valid with ⟨leastStart, leastLength, _⟩
          have reads := reads_of_spells proper.position spellsStart leastStart
          rw [← start] at reads
          exact .swap _ reads (reads_length_of_spells proper size spellsSize leastLength)

theorem kind_of_shows {operand : Operand} {spelled : SpelledOperand}
    (shows : operand.Shows spelled) : operand.kind = spelled.kind := by
  cases shows <;> rfl

theorem kind_of_spells {spelled : SpelledOperand} {action : Action}
    (spells : spelled.Spells action) : spelled.kind = action.kind := by
  cases spells <;> rfl

theorem mem_drop_while {inClass : Char → Bool} {text : Text} {char : Char} (member : char ∈ text)
    (outside : inClass char = false) : char ∈ text.dropWhile inClass := by
  rw [← List.takeWhile_append_dropWhile (p := inClass) (l := text)] at member
  rcases List.mem_append.mp member with taken | kept
  · have inside := List.mem_takeWhile_imp taken
    rw [outside] at inside
    cases inside
  · exact kept

/-- Only characters of the class are cut off. -/
theorem mem_trim {inClass : Char → Bool} {text : Text} {char : Char} (member : char ∈ text)
    (outside : inClass char = false) : char ∈ Text.trim inClass text := by
  rw [Text.trim, List.mem_reverse]
  apply mem_drop_while _ outside
  rw [List.mem_reverse]
  exact mem_drop_while member outside

theorem note_eq (text : Text) :
    note? text = annotating (firstRegion? [.parentheses, .braces] text) :=
  rfl

theorem tags_eq (text : Text) : tags text = listedTags (firstRegion? [.brackets] text) := by
  rw [tags]
  cases firstRegion? [.brackets] text <;> rfl

theorem annotating_of_noted {note : Option Text} (noted : Noted note) : annotating note = note := by
  cases note with
  | none => rfl
  | some text =>
      rcases noted text rfl with ⟨nonempty, stripped⟩
      simp [annotating, stripped, nonempty]

namespace Spelling

variable {spelling : Spelling} {operation : Operation}

theorem Proper.writes (proper : spelling.Proper) (spells : spelling.Spells operation)
    (valid : operation.Valid) {found : Match} (shows : found.Shows spelling) :
    found.Writes (note? spelling.text) (tags spelling.text) operation := by
  have kind : found.operand.kind = operation.kind :=
    (kind_of_shows shows.operand).trans (kind_of_spells spells.operand)
  have length : found.length? = found.length := by
    rw [Match.length?, kind_of_shows shows.operand]
    cases takes : spelling.operand.kind.takesLength with
    | true => rfl
    | false =>
        have absent := shows.length
        rw [proper.single takes] at absent
        cases same : found.length with
        | none => rfl
        | some digits =>
            rw [same] at absent
            cases absent
  refine ⟨?_, ?_, ?_, ?_, ?_, ?_, ?_⟩
  · rw [shows.described, spells.described]
  · rw [shows.position, kind]
    exact reads_of_spells proper.coordinates.position spells.start valid.start
  · rw [length]
    exact reads_length_of_spells proper.coordinates shows.length spells.length valid.length
  · rw [note_eq, proper.first_region (by decide), spells.note]
    exact annotating_of_noted valid.note
  · rw [tags_eq, proper.first_region (by decide), spells.tags]
    exact valid.tags
  · rw [tags_eq, proper.first_region (by decide), spells.tags]
  · exact writes_of_shows shows.operand proper.operand spells.operand valid.action

/-- A spelling of an operation is read as this operation, whatever its gaps hold. -/
theorem Proper.parse_text (proper : spelling.Proper) (spells : spelling.Spells operation)
    (valid : operation.Valid) :
    (Operation.parse (some spelling.text)).outcome = .ok operation := by
  rcases proper.found with ⟨found, here, shows⟩
  rw [parse_eq_ok_iff]
  refine ⟨?_, spelling.kind, proper.detected, found, here, proper.writes spells valid shows⟩
  have inPieces : Piece.plain '@' ∈ spelling.pieces := by
    simp [Spelling.pieces, Spelling.front, plainly, Coordinates.text]
  have inText : '@' ∈ spelling.text :=
    List.mem_flatMap.mpr ⟨.plain '@', inPieces, List.mem_cons_self⟩
  exact List.ne_nil_of_mem (mem_trim inText (by decide))

end Spelling

end EditScript.Grammar
