import EditScript.Proofs.Refusals

/-!
# Where a fault is found

A numeral is read behind a visible sign of the masked text, and as far as its digits go. The
text itself shows the same sign in front of it; behind it the text shows either the same
character or the opening delimiter of an annotation, and neither of them is a digit. So the
numerals of a form are whole rows of digits of the text, in the places that are told for them.
A fault with an offset is about such a row; every other fault is about the whole text.
-/

namespace EditScript

set_option autoImplicit false

namespace Numeral

theorem zero_of_digit {char : Char} (digit : char.isDigit = true) (none : char.toNat - 48 = 0) :
    char = '0' := by
  have range := digit_range digit
  have code : char.toNat = '0'.toNat := by
    change char.toNat = 48
    omega
  exact Char.toNat_inj.mp code

/-- Only rows of zeros stand for zero. -/
theorem zeros_of_value {digits : Text} (row : ∀ char ∈ digits, char.isDigit = true)
    (value : ofDigits digits = 0) : ∀ char ∈ digits, char = '0' := by
  induction digits with
  | nil => exact List.forall_mem_nil _
  | cons first rest induction =>
      obtain ⟨digit, later⟩ := List.forall_mem_cons.mp row
      rw [of_digits_cons] at value
      obtain ⟨lead, others⟩ := Nat.add_eq_zero_iff.mp value
      have none : first.toNat - 48 = 0 := by
        have power : 10 ^ rest.length ≠ 0 := by positivity
        exact (Nat.mul_eq_zero.mp lead).resolve_left power
      exact List.forall_mem_cons.mpr ⟨zero_of_digit digit none, induction later others⟩

end Numeral

namespace Grammar

/-! ### Whole rows of digits -/

/-- A row of digits that stands in a text, with no digit directly in front of it or behind it. -/
structure WholeRow (text : Text) (digits : Capture) : Prop where
  row : Numeral.Digits digits.text
  there : digits.text <+: text.drop digits.offset
  starts : ∀ place, place + 1 = digits.offset → ∀ char ∈ text[place]?, char.isDigit = false
  ends : ∀ char ∈ text[digits.offset + digits.text.length]?, char.isDigit = false

/-- The signs in front of numerals. -/
def isSign (char : Char) : Bool :=
  char = '@' || Cursor.isLengthSign char

theorem not_digit_of_sign {sign : Char} (signed : isSign sign = true) : sign.isDigit = false := by
  rcases Bool.or_eq_true_iff.mp signed with position | length
  · rw [of_decide_eq_true position]
    decide
  · exact not_digit_of_length_sign length

theorem visible_of_sign {sign : Char} (signed : isSign sign = true) : sign ≠ ' ' := by
  rintro rfl
  cases signed

/-- A row of digits as it is read: behind a sign, and up to a character that is no digit. -/
structure SignedRow (masked : Text) (digits : Capture) : Prop where
  row : Numeral.Digits digits.text
  there : digits.text <+: masked.drop digits.offset
  sign : ∃ place char, place + 1 = digits.offset ∧ masked[place]? = some char ∧ isSign char = true
  ends : ∀ char ∈ masked[digits.offset + digits.text.length]?, char.isDigit = false

/-! ### The steps that read numerals -/

namespace Cursor

variable {cursor behind : Cursor} {digits : Capture}

theorem numeral_stops (read : cursor.numeral? = some (digits, behind)) :
    behind.rest.StopsAt Char.isDigit := by
  have taken : digits.text = cursor.rest.takeWhile Char.isDigit := by
    dsimp only [numeral?] at read
    split at read
    · cases read
    · cases read
      rfl
  have left : behind.rest = cursor.rest.dropWhile Char.isDigit := by
    apply List.append_cancel_left
    rw [← (passes_numeral read).1.rest, taken]
    exact List.takeWhile_append_dropWhile.symm
  intro char head
  have stops := List.head?_dropWhile_not Char.isDigit cursor.rest
  rw [← left, head] at stops
  exact stops

theorem position_stops (read : cursor.position? = some (digits, behind)) :
    behind.rest.StopsAt Char.isDigit := by
  obtain ⟨_, _, numeral⟩ := Option.bind_eq_some_iff.mp read
  exact numeral_stops numeral

theorem length_stops (read : cursor.length? = (some digits, behind)) :
    behind.rest.StopsAt Char.isDigit := by
  unfold length? at read
  split at read
  · split at read
    · split at read
      · next numeral =>
          cases read
          exact numeral_stops numeral
      · cases read
    · cases read
  · cases read

end Cursor

section

variable {masked : Text} {cursor behind : Cursor}

/-- A sign and a numeral that are passed over. -/
theorem signed_of_passes {sign : Char} {digits : Capture} (on : cursor.On masked)
    (passes : cursor.Passes (sign :: digits.text) behind)
    (offset : digits.offset = cursor.offset + 1) (row : Numeral.Digits digits.text)
    (signed : isSign sign = true) (stop : behind.rest.StopsAt Char.isDigit) :
    SignedRow masked digits where
  row := row
  there := by
    refine ⟨behind.rest, ?_⟩
    rw [offset, ← List.drop_drop, ← on, passes.rest]
    rfl
  sign := by
    refine ⟨cursor.offset, sign, offset.symm, ?_, signed⟩
    exact on.char_at passes (Nat.succ_pos _)
  ends := by
    have place : digits.offset + digits.text.length = behind.offset := by
      rw [offset, passes.offset, List.length_cons]
      omega
    intro char shown
    rw [place, ← List.head?_drop, ← on.passes passes] at shown
    exact stop char shown

theorem signed_position {digits : Capture} (on : cursor.On masked)
    (read : cursor.position? = some (digits, behind)) : SignedRow masked digits := by
  obtain ⟨passes, offset, row⟩ := Cursor.passes_position read
  exact signed_of_passes on passes offset row rfl (Cursor.position_stops read)

theorem signed_length (label : String) {length : Option Capture} (on : cursor.On masked)
    (read : cursor.length? = (length, behind)) :
    ∀ reading ∈ lengthReading label length, SignedRow masked reading.digits := by
  rcases Cursor.passes_length read with ⟨rfl, _⟩ | ⟨sign, digits, rfl, signed, passes, offset, row⟩
  · exact List.forall_mem_nil _
  · have counts : isSign sign = true := by rw [isSign, signed, Bool.or_true]
    exact List.forall_mem_singleton.mpr
      (signed_of_passes on passes offset row counts (Cursor.length_stops read))

end

section

variable {text : Text} {cursor behind : Cursor} (on : cursor.On (maskAnnotations text))

include on

theorem signed_operand {operand : Operand} (read : ReadsOperand cursor operand behind) :
    ∀ reading ∈ operand.readings, SignedRow (maskAnnotations text) reading.digits := by
  have blanks := leads_blanks on
  cases read with
  | move side position => exact List.forall_mem_singleton.mpr (signed_position blanks.on position)
  | swap description position size =>
      have onDescribed := (leads_description blanks.on description).on
      have onPosition := (stands_position onDescribed position).2.on
      exact List.forall_mem_cons.mpr
        ⟨signed_position onDescribed position, signed_length "Second length" onPosition size⟩
  | _ => exact List.forall_mem_nil _

/-- Every numeral of a form is read behind a sign, and as far as its digits go. -/
theorem signed_readings {kind : Kind} {found : Match} (here : matchAt? kind cursor = some found) :
    ∀ reading ∈ found.readings, SignedRow (maskAnnotations text) reading.digits := by
  obtain ⟨start, afterPosition, afterLength, afterOperator, behind, description, position, length,
    operator, readOperand, rfl⟩ := match_steps here
  have onStart := (leads_description on description).on
  have onPosition := (stands_position onStart position).2.on
  have lengths : (∀ reading ∈ lengthReading (lengthLabel found.operand.kind) found.length?,
      SignedRow (maskAnnotations text) reading.digits) ∧
        afterLength.On (maskAnnotations text) := by
    rcases length_of_steps length with ⟨none, rfl⟩ | ⟨same, read⟩
    · rw [none]
      exact ⟨List.forall_mem_nil _, onPosition⟩
    · rw [same]
      have leads := (stands_length onPosition (lengthLabel found.operand.kind) read).2
      exact ⟨signed_length _ onPosition read, leads.on⟩
  have onOperator := (leads_blanks lengths.2).on.passes (Cursor.passes_token operator)
  refine List.forall_mem_cons.mpr ⟨signed_position onStart position, ?_⟩
  exact List.forall_mem_append.mpr ⟨lengths.1, signed_operand onOperator readOperand⟩

end

/-! ### The same rows in the text itself -/

variable {text : Text}

theorem masked_where_outside {place : Nat}
    (outside : Stretch.Outside annotationForms text ⟨place, place + 1⟩) :
    (maskAnnotations text)[place]? = text[place]? := by
  rw [mask_annotations_eq]
  exact (blank_out_blanks annotationForms text).outside place outside

theorem not_digit_of_opening (delimiter : Delimiter) : delimiter.opening.isDigit = false := by
  cases delimiter <;> decide

/-- A region that starts where a stretch ends, starts with its opening delimiter. -/
theorem opening_behind {start stop : Nat} {forms : List Delimiter} (filled : start < stop)
    (outside : Stretch.Outside forms text ⟨start, stop⟩)
    (inside : ¬Stretch.Outside forms text ⟨stop, stop + 1⟩) :
    ∃ delimiter : Delimiter, text[stop]? = some delimiter.opening := by
  rw [outside_iff] at inside
  simp only [not_forall] at inside
  obtain ⟨front, piece, back, split, region, touches⟩ := inside
  obtain ⟨starts, ends⟩ := not_or.mp touches
  have place : stop = width front := by
    rcases outside_iff.mp outside front piece back split region with before | behind
    · dsimp only at before starts
      omega
    · dsimp only at behind ends
      omega
  cases piece with
  | plain char => cases region
  | literal delimiter content =>
      refine ⟨delimiter, ?_⟩
      have shown := @rendered_at Piece.text (fun _ => rfl) front back
        (.literal delimiter content) 0 (Nat.succ_pos _)
      rw [← split, flatMap_text_pieces, Nat.add_zero, ← place] at shown
      exact shown

theorem SignedRow.outside {digits : Capture} (signed : SignedRow (maskAnnotations text) digits) :
    digits.stretch.Outside annotationForms text :=
  outside_annotations signed.there signed.row.nonempty fun space =>
    absurd (signed.row.digit _ space) (by decide)

/-- What the masked text shows of a row, the text shows too. -/
theorem SignedRow.shown {digits : Capture} (signed : SignedRow (maskAnnotations text) digits) :
    digits.text <+: text.drop digits.offset := by
  have there := signed.there
  rw [List.prefix_iff_getElem?] at there ⊢
  intro index inside
  have char := there index inside
  rw [List.getElem?_drop] at char ⊢
  refine shown_where_filled char ?_
  intro blank
  exact absurd (signed.row.digit _ (List.getElem_mem inside)) (by rw [blank]; decide)

theorem SignedRow.whole {digits : Capture} (signed : SignedRow (maskAnnotations text) digits) :
    WholeRow text digits where
  row := signed.row
  there := signed.shown
  starts := by
    obtain ⟨before, sign, next, shown, isSign⟩ := signed.sign
    intro place follows char member
    obtain rfl : place = before := by omega
    rw [shown_where_filled shown (visible_of_sign isSign)] at member
    cases member
    exact not_digit_of_sign isSign
  ends := by
    intro char member
    have filled : digits.offset < digits.offset + digits.text.length :=
      Nat.lt_add_of_pos_right (List.length_pos_of_ne_nil signed.row.nonempty)
    by_cases outside : Stretch.Outside annotationForms text
        ⟨digits.offset + digits.text.length, digits.offset + digits.text.length + 1⟩
    · rw [← masked_where_outside outside] at member
      exact signed.ends char member
    · obtain ⟨delimiter, shown⟩ := opening_behind filled signed.outside outside
      rw [shown] at member
      cases member
      exact not_digit_of_opening delimiter

/-- Every numeral of the form of a text is a whole row of digits of the text, outside its notes
and tag lists. -/
theorem readings_whole {kind : Kind} {found : Match}
    (there : find? kind (maskAnnotations text) = some found) :
    ∀ reading ∈ found.readings, WholeRow text reading.digits ∧
      reading.digits.stretch.Outside annotationForms text := by
  obtain ⟨front, cursor, masked, offset, here⟩ := match_of_find_from there
  have on : cursor.On (maskAnnotations text) := by
    rw [Cursor.On, offset, Nat.zero_add, masked, List.drop_left]
  intro reading member
  have signed := signed_readings on here reading member
  exact ⟨signed.whole, signed.outside⟩

/-! ### What a fault points to -/

theorem least_at_most_one {found : Match} {reading : Reading} (member : reading ∈ found.readings) :
    reading.least ≤ 1 := by
  have lengths : ∀ label length, ∀ reading ∈ lengthReading label length, reading.least ≤ 1 := by
    intro label length reading member
    obtain ⟨_, _, rfl⟩ := List.mem_map.mp member
    exact Nat.le_refl 1
  rcases List.mem_cons.mp member with rfl | later
  · dsimp only
    unfold Kind.leastPosition
    split <;> decide
  · rcases List.mem_append.mp later with size | other
    · exact lengths _ _ reading size
    · unfold Operand.readings at other
      split at other
      · rw [List.mem_singleton.mp other]
      · rcases List.mem_cons.mp other with rfl | size
        · exact Nat.le_refl 1
        · exact lengths _ _ reading size
      · cases other

/-- A fault without an offset tells the whole text. A fault with an offset tells a whole row of
zeros that stands there in the text, outside its notes and tag lists. -/
structure Located (text : Option Text) (fault : ParseFault) : Prop where
  whole : fault.offset = none → fault.text = text
  row : ∀ offset ∈ fault.offset, ∃ given ∈ text, ∃ digits ∈ fault.text,
    WholeRow given ⟨digits, offset⟩ ∧ (∀ char ∈ digits, char = '0') ∧
      Stretch.Outside annotationForms given ⟨offset, offset + digits.length⟩

theorem located_whole (cause : ParseCause) (text : Option Text) :
    Located text ⟨cause, text, none⟩ where
  whole := fun _ => rfl
  row := nofun

/-- A numeral that is refused without being too long is a row of zeros. -/
theorem located_of_numeral {kind : Kind} {found : Match} {reading : Reading} {fault : ParseFault}
    (there : find? kind (maskAnnotations text) = some found) (member : reading ∈ found.readings)
    (refused : reading.refused = true) (reported : reading.failure = .parse fault) :
    Located (some text) fault := by
  rw [Reading.failure] at reported
  split at reported
  · cases reported
  · next short =>
      cases reported
      obtain ⟨whole, outside⟩ := readings_whole there reading member
      have small : reading.TooSmall := (of_decide_eq_true refused).resolve_left short
      have value : Numeral.ofDigits reading.digits.text = 0 :=
        Nat.lt_one_iff.mp (Nat.lt_of_lt_of_le small (least_at_most_one member))
      constructor
      · intro absent
        cases absent
      · rintro _ ⟨⟩
        exact ⟨text, rfl, reading.digits.text, rfl, whole,
          Numeral.zeros_of_value whole.row.digit value, outside⟩

theorem Refusal.located {kind : Kind} {fault : ParseFault} {failure : Failure}
    (refusal : Refusal kind text failure) (reported : failure = .parse fault) :
    Located (some text) fault := by
  cases refusal with
  | formless =>
      cases reported
      exact located_whole _ _
  | numeral there reading member refused =>
      exact located_of_numeral there member refused reported
  | tag tag =>
      cases reported
      exact located_whole _ _

/-- A text that is absent or blank is told as it is. -/
theorem located_of_absent {given : Option Text} {fault : ParseFault}
    (absent : present given = .error (.parse fault)) : Located given fault := by
  unfold present at absent
  split at absent
  · cases absent
    exact located_whole _ _
  · split at absent
    · cases absent
      exact located_whole _ _
    · cases absent

theorem located_of_parse {given : Option Text} {fault : ParseFault}
    (failed : (Operation.parse given).outcome = .error (.parse fault)) : Located given fault := by
  cases given with
  | none =>
      cases failed
      exact located_whole _ _
  | some text =>
      rcases parse_refused failed with blank | unknown | ⟨kind, _, refusal⟩
      · cases blank
        exact located_whole _ _
      · cases unknown
        exact located_whole _ _
      · exact refusal.located rfl

theorem located_of_parse_as {kind : Kind} {given : Option Text} {fault : ParseFault}
    (failed : Operation.parseAs kind given = .error (.parse fault)) : Located given fault := by
  rw [Operation.parseAs, bind_eq_error_iff] at failed
  rcases failed with absent | ⟨text, there, refused⟩
  · exact located_of_absent absent
  · cases ((present_eq_ok_iff given text).mp there).1
    exact (refusal_of_parse_kind refused).located rfl

/-- Whatever text is read, by its operator or as an operation of any kind, a fault points into
the text itself: what it tells at an offset is a row of zeros that stands there, as far as it
goes, and in no note and no tag list. Without an offset it tells the whole text. -/
theorem faults_located {text : Option Text} {fault : ParseFault}
    (failed : (Operation.parse text).outcome = .error (.parse fault) ∨
      ∃ kind, Operation.parseAs kind text = .error (.parse fault)) : Located text fault := by
  rcases failed with parsed | ⟨kind, parsed⟩
  · exact located_of_parse parsed
  · exact located_of_parse_as parsed

/-- A length of zero, between a quoted coordinate and annotations with zeros of their own. -/
def zeroLength : Text :=
  "\"@0!\" [0]@70x00(0) !".toList

theorem zero_length_located :
    (Operation.parse (some zeroLength)).outcome =
        .error (.parse ⟨.tooSmall "Length" 1, some ['0', '0'], some 13⟩) ∧
      WholeRow zeroLength ⟨['0', '0'], 13⟩ ∧ zeroLength[12]? = some 'x' ∧
      zeroLength[15]? = some '(' ∧ Stretch.Outside annotationForms zeroLength ⟨13, 15⟩ := by
  have failed : (Operation.parse (some zeroLength)).outcome =
      .error (.parse ⟨.tooSmall "Length" 1, some ['0', '0'], some 13⟩) := by
    with_unfolding_all rfl
  obtain ⟨given, same, digits, told, whole, _, outside⟩ := (faults_located (.inl failed)).row 13 rfl
  cases same
  cases told
  exact ⟨failed, whole, by decide, by decide, outside⟩

end Grammar

end EditScript
