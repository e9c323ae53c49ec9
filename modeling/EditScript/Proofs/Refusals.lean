import EditScript.Proofs.Domain
import EditScript.Proofs.Faults
import EditScript.Proofs.Placement
import EditScript.Proofs.PrintedLines

/-!
# What a refusal says

A notation is refused for one of a few reasons, and the reason is told in one line: a text
that is quoted in a message has its line feeds escaped, and all other parts of a message
are fixed words and numbers. Apart from a numeral beyond the limit, every reason is a fault
of the notation; and a numeral beyond the limit is a row of digits of the text itself.
-/

namespace EditScript

set_option autoImplicit false

/-! ### Messages in one line -/

theorem digits_in_line (base number : Nat) (several : 1 < base) :
    '\n' ∉ Nat.toDigits base number := by
  have digit : ∀ number : Nat, '\n' ≠ Nat.digitChar number :=
    fun number => (Nat.digitChar_ne '\n' (by decide)).symm
  induction number using Nat.strongRecOn with
  | ind number induction =>
      rw [Nat.toDigits_eq_if several]
      split
      · simp [digit]
      · next large =>
          have less : number / base < number := Nat.div_lt_self (by omega) several
          simp [induction _ less, digit]

theorem Text.hexadecimal_in_line (places code : Nat) : '\n' ∉ Text.hexadecimal places code := by
  simp [hexadecimal, digits_in_line 16 code (by decide)]

theorem Text.escaped_in_line {mark : Char} (visible : mark ≠ '\n') (char : Char) :
    '\n' ∉ Text.escaped mark char := by
  unfold Text.escaped
  split
  · next escape =>
      have other : char ≠ '\n' := by
        rintro rfl
        simp [visible.symm] at escape
      simp [other.symm]
  · split_ifs with tab feed
    · decide
    · decide
    · decide
    · exact fun member => feed (List.mem_singleton.mp member).symm
    all_goals simp [hexadecimal_in_line]

theorem Text.quoted_in_line (text : Text) : '\n' ∉ Text.quoted text := by
  have visible : enclosingMark text ≠ '\n' := by
    unfold enclosingMark
    split <;> decide
  simp [quoted, visible.symm, escaped_in_line visible]

theorem Numeral.shown_in_line (number : Int) : '\n' ∉ (Numeral.shown number).toList := by
  rw [Numeral.shown, String.toList_ofList]
  cases number with
  | ofNat number => exact Notation.numeral_in_line number
  | negSucc number =>
      rw [Numeral.signed, List.mem_cons, not_or]
      exact ⟨by decide, Notation.numeral_in_line (number + 1)⟩

theorem requirement_in_line {label : String} (whole : '\n' ∉ label.toList) (least : Int) :
    '\n' ∉ (requirement label least).toList := by
  unfold requirement
  split <;> simp [whole]

/-- The fixed words about a kind. -/
theorem Kind.words_in_line (kind : Kind) :
    '\n' ∉ kind.label.toList ∧ '\n' ∉ kind.name.toList ∧ '\n' ∉ kind.expectedForm.toList := by
  rcases kind with _ | side | _ | side | _ <;> first | decide | (cases side <;> decide)

namespace ParseFault

/-- The text at fault is quoted. -/
theorem message_in_line {fault : ParseFault} (whole : '\n' ∉ fault.cause.message.toList) :
    '\n' ∉ fault.message.toList := by
  unfold message
  split
  · exact whole
  · next text _ =>
      have located : '\n' ∉
          (fault.cause.message ++ ": " ++ String.ofList (Text.quoted text)).toList := by
        simp [whole, Text.quoted_in_line]
      dsimp only
      split
      · exact located
      · next offset _ =>
          simp only [String.toList_append, List.mem_append, not_or] at located ⊢
          exact ⟨⟨⟨located, by decide⟩, Numeral.shown_in_line offset⟩, by decide⟩

end ParseFault

theorem Coordinate.label_in_line (coordinate : Coordinate) : '\n' ∉ coordinate.label.toList := by
  cases coordinate <;> decide

theorem RangeFault.message_in_line (fault : RangeFault) : '\n' ∉ fault.message.toList := by
  -- the messages are spelled out, since unfolding them evaluates all of their words
  cases fault with
  | tooSmall coordinate least value =>
      have required := requirement_in_line coordinate.label_in_line least
      change '\n' ∉ (requirement coordinate.label least ++ ", got " ++ Numeral.shown value).toList
      simp [required, Numeral.shown_in_line]
  | outside start length bound =>
      change '\n' ∉ ("Position " ++ Numeral.shown start ++
        " is out of range for input string of length " ++ Numeral.shown bound).toList
      simp [Numeral.shown_in_line]
  | overrun start length bound =>
      change '\n' ∉ ("Length " ++ Numeral.shown length ++ " at position " ++
        Numeral.shown start ++ " exceeds input string length " ++ Numeral.shown bound).toList
      simp [Numeral.shown_in_line]
  | unreachable span target bound =>
      change '\n' ∉ ("Target position " ++ Numeral.shown target ++ " cannot receive " ++
        Numeral.shown span.length ++ " character(s) moved from position " ++
        Numeral.shown span.start).toList
      simp [Numeral.shown_in_line]
  | overlapping first second bound =>
      change '\n' ∉ ("Swap spans " ++ String.ofList (Notation.span first) ++ " and " ++
        String.ofList (Notation.span second) ++ " overlap").toList
      simp [Notation.span_in_line]

namespace Grammar

/-! ### Why a reading is refused -/

/-- The reasons for which a text is not read as an operation of a kind. -/
inductive Refusal (kind : Kind) (text : Text) : Failure → Prop
  | formless : Refusal kind text (.parse ⟨.form kind, some text, none⟩)
  | numeral {found : Match} (there : find? kind (maskAnnotations text) = some found)
      (reading : Reading) (member : reading ∈ found.readings) (refused : reading.refused = true) :
      Refusal kind text reading.failure
  | tag (tag : Text) : Refusal kind text (.parse ⟨.refused kind (.invalidTag tag), some text, none⟩)

theorem refusal_of_parse_kind {kind : Kind} {text : Text} {failure : Failure}
    (failed : parseKind kind text = .error failure) : Refusal kind text failure := by
  cases there : find? kind (maskAnnotations text) with
  | none =>
      rw [parseKind, there] at failed
      cases failed
      exact .formless
  | some found =>
      cases refusal : found.readings.find? Reading.refused with
      | some reading =>
          rw [parse_kind_of_refused there refusal] at failed
          cases failed
          exact .numeral there reading (List.mem_of_find?_eq_some refusal)
            (List.find?_some refusal)
      | none =>
          obtain ⟨operation, outcome⟩ := parse_kind_of_accepted there refusal
          rw [outcome] at failed
          split at failed
          · cases failed
          · cases failed
            exact .tag _

/-- A text is blank, or has no operator, or is refused as an operation of the kind that its
operator tells. -/
theorem parse_refused {text : Text} {failure : Failure}
    (failed : (Operation.parse (some text)).outcome = .error failure) :
    failure = .parse ⟨.empty, some text, none⟩ ∨
      failure = .parse ⟨.unknownOperator, some text, none⟩ ∨
      ∃ kind, detect? text = some kind ∧ Refusal kind text failure := by
  rw [parse_outcome, bind_eq_error_iff] at failed
  rcases failed with absent | ⟨given, there, failed⟩
  · rw [present] at absent
    split at absent
    · cases absent
      exact .inl rfl
    · cases absent
  · cases ((present_eq_ok_iff _ _).mp there).1
    rw [bind_eq_error_iff] at failed
    rcases failed with unknown | ⟨kind, detected, refused⟩
    · rw [detect] at unknown
      split at unknown
      · cases unknown
        exact .inr (.inl rfl)
      · cases unknown
    · exact .inr (.inr ⟨kind, (detect_eq_ok_iff text kind).mp detected,
        refusal_of_parse_kind refused⟩)

/-- What the numerals of a form are called. -/
theorem label_in_line {found : Match} {reading : Reading} (member : reading ∈ found.readings) :
    '\n' ∉ reading.label.toList := by
  have lengths : ∀ label length, ∀ reading ∈ lengthReading label length, reading.label = label := by
    intro label length reading member
    obtain ⟨_, _, rfl⟩ := List.mem_map.mp member
    rfl
  rcases List.mem_cons.mp member with rfl | later
  · dsimp only
    unfold positionLabel
    split <;> decide
  · rcases List.mem_append.mp later with size | other
    · rw [lengths _ _ reading size]
      unfold lengthLabel
      split <;> decide
    · unfold Operand.readings at other
      split at other
      · rw [List.mem_singleton.mp other]
        exact (by decide : '\n' ∉ "Target position".toList)
      · rcases List.mem_cons.mp other with rfl | size
        · exact (by decide : '\n' ∉ "Second position".toList)
        · rw [lengths _ _ reading size]
          decide
      · cases other

theorem Reading.failure_in_line {found : Match} {reading : Reading}
    (member : reading ∈ found.readings) : '\n' ∉ reading.failure.message.toList := by
  unfold Reading.failure
  split
  · change '\n' ∉ (Numeral.limitNotice ++ ": value has " ++
      Numeral.shown reading.digits.text.length ++ " digits" ++ Numeral.limitAdvice).toList
    simp [Numeral.limitNotice, Numeral.limitAdvice, Numeral.shown_in_line]
  · exact ParseFault.message_in_line (requirement_in_line (label_in_line member) reading.least)

theorem Refusal.in_line {kind : Kind} {text : Text} {failure : Failure}
    (refusal : Refusal kind text failure) : '\n' ∉ failure.message.toList := by
  obtain ⟨label, name, form⟩ := kind.words_in_line
  cases refusal with
  | formless =>
      apply ParseFault.message_in_line
      change '\n' ∉ ("Invalid " ++ kind.label ++ " operation format. Expected: " ++
        kind.expectedForm).toList
      simp [label, form]
  | numeral there reading member refused => exact reading.failure_in_line member
  | tag tag =>
      apply ParseFault.message_in_line
      change '\n' ∉ ("Invalid " ++ kind.name ++ " operation: " ++ ("Value error, Invalid tag " ++
        String.ofList (Text.quoted tag) ++
        ": tags cannot be empty or contain spaces or brackets")).toList
      simp [name, Text.quoted_in_line]

/-- No numeral that the text is read with is beyond the limit, leading zeros included. -/
def ShortNumerals (text : Text) : Prop :=
  ∀ found ∈ detectedForm text, ∀ reading ∈ found.readings,
    reading.digits.text.length ≤ Numeral.digitLimit

/-- The masked text is the text itself where it is not blank. -/
theorem shown_where_filled {text : Text} {place : Nat} {char : Char}
    (shown : (maskAnnotations text)[place]? = some char) (filled : char ≠ ' ') :
    text[place]? = some char := by
  rw [mask_annotations_eq] at shown
  have blanks := blank_out_blanks annotationForms text
  by_cases outside : Stretch.Outside annotationForms text ⟨place, place + 1⟩
  · rw [← blanks.outside place outside]
    exact shown
  · rw [blanks.inside place outside] at shown
    exact absurd (Option.some.inj shown).symm filled

/-- The numerals that a text is read with are rows of digits of the text. -/
theorem numerals_in_text {text : Text} {found : Match} (form : detectedForm text = some found) :
    ∀ reading ∈ found.readings,
      Numeral.Digits reading.digits.text ∧ reading.digits.text <:+: text := by
  obtain ⟨kind, _, there⟩ := Option.bind_eq_some_iff.mp form
  obtain ⟨front, cursor, masked, offset, here⟩ := match_of_find_from there
  have on : cursor.On (maskAnnotations text) := by
    rw [Cursor.On, offset, Nat.zero_add, masked, List.drop_left]
  obtain ⟨_, _, _, _, stands⟩ := stands_readings on here
  intro reading member
  have row := readings_digits here reading member
  refine ⟨row, ?_⟩
  have shown := (stands reading member).shown
  rw [List.prefix_iff_getElem?] at shown
  have part : reading.digits.text <+: text.drop reading.digits.offset := by
    rw [List.prefix_iff_getElem?]
    intro index inside
    have char := shown index inside
    rw [List.getElem?_drop] at char ⊢
    refine shown_where_filled char ?_
    intro blank
    exact absurd (row.digit _ (List.getElem_mem inside)) (by rw [blank]; decide)
  exact part.isInfix.trans (List.drop_suffix _ text).isInfix

/-- It is enough that no row of digits in the text is longer. -/
theorem short_numerals_of_rows {text : Text}
    (rows : ∀ row, row <:+: text → Numeral.Digits row → row.length ≤ Numeral.digitLimit) :
    ShortNumerals text := by
  intro found form reading member
  obtain ⟨row, part⟩ := numerals_in_text form reading member
  exact rows reading.digits.text part row

theorem short_numerals_of_length {text : Text} (short : text.length ≤ Numeral.digitLimit) :
    ShortNumerals text :=
  short_numerals_of_rows fun _ part _ => part.length_le.trans short

end Grammar

end EditScript
