import EditScript.Proofs.Commands
import EditScript.Proofs.Reading

/-!
# Reading that passes over faults

While reading is not strict, a text that does not parse is left out with a warning. That holds
of every fault of the notation, and of nothing else: the limit on numerals is no fault of the
notation, so one text with a numeral beyond it ends the whole reading. Without such a text, what
is read is what each text is read as on its own.
-/

namespace EditScript

set_option autoImplicit false

open Grammar

namespace Grammar

/-- The first numeral of the form of a text that is refused, is refused for its length. -/
def Overlong (text : Text) : Prop :=
  ∃ found ∈ detectedForm text, ∃ reading,
    found.readings.find? Reading.refused = some reading ∧ reading.TooLong

/-- How the reading of a text ends that is there and has an operator. -/
theorem parse_of_form {kind : Kind} {text : Text} {found : Match}
    (detected : detect? text = some kind)
    (there : find? kind (maskAnnotations text) = some found) :
    (Operation.parse (some text)).outcome = parseKind kind text := by
  have filled := not_blank_of_found there
  rw [parse_outcome, (present_eq_ok_iff _ _).mpr ⟨rfl, filled⟩]
  change detect text >>= _ = _
  rw [(detect_eq_ok_iff _ _).mpr detected]
  rfl

/-- A deletion that is spelled by nothing but its coordinate and its operator. -/
def bareDeletion (digits : Text) : Text :=
  '@' :: (digits ++ ['!'])

/-- A position beyond the limit is the first numeral of its form, so it is refused first. -/
theorem overlong_bare_deletion {digits : Text} (row : Numeral.Digits digits)
    (long : Numeral.digitLimit < digits.length) : Overlong (bareDeletion digits) := by
  let spelling : Spelling := ⟨[], none, [], ⟨digits, none⟩, [], [], .delete, []⟩
  have proper : spelling.Proper :=
    { spacing := List.forall_mem_nil _
      quoted := List.forall_mem_nil _
      coordinates := ⟨row, nofun⟩
      single := nofun
      operand := trivial }
  have text : spelling.text = bareDeletion digits := by
    change (plainly ('@' :: (digits ++ [])) ++ [] ++ plainly ['!'] ++ []).flatMap Piece.text = _
    have plain : ∀ char, (Piece.plain char).text = [char] := fun _ => rfl
    simp only [List.append_nil, List.flatMap_append, flat_map_plainly plain]
    rfl
  obtain ⟨found, there, shows⟩ := proper.found
  have form : detectedForm (bareDeletion digits) = some found := by
    rw [← text, detectedForm, proper.detected]
    exact there
  have tooLong : Numeral.digitLimit < found.position.text.length := by
    rw [shows.position]
    exact long
  refine ⟨found, form, ⟨positionLabel found.operand.kind, found.operand.kind.leastPosition,
    found.position⟩, ?_, tooLong⟩
  exact List.find?_cons_of_pos (decide_eq_true (.inl tooLong))

theorem parse_of_overlong {text : Text} (long : Overlong text) :
    ∃ digits, (Operation.parse (some text)).outcome =
      .error (.value (.numeral (.tooLong digits))) := by
  obtain ⟨found, form, reading, refusal, tooLong⟩ := long
  obtain ⟨kind, detected, there⟩ := Option.bind_eq_some_iff.mp form
  refine ⟨reading.digits.text.length, ?_⟩
  rw [parse_of_form detected there, parse_kind_of_refused there refusal, Reading.failure,
    if_pos tooLong]

/-- A text without such a numeral is read, or it is at fault. -/
theorem parse_of_not_overlong {text : Text} (short : ¬Overlong text) :
    (∃ operation, (Operation.parse (some text)).outcome = .ok operation) ∨
      ∃ fault, (Operation.parse (some text)).outcome = .error (.parse fault) := by
  cases outcome : (Operation.parse (some text)).outcome with
  | ok operation => exact .inl ⟨operation, rfl⟩
  | error failure =>
      right
      rcases parse_refused outcome with rfl | rfl | ⟨kind, detected, refusal⟩
      · exact ⟨_, rfl⟩
      · exact ⟨_, rfl⟩
      · cases there : find? kind (maskAnnotations text) with
        | none =>
            cases refusal with
            | formless => exact ⟨_, rfl⟩
            | numeral found => cases there.symm.trans found
            | tag tag => exact ⟨_, rfl⟩
        | some found =>
            have form : detectedForm text = some found := by
              rw [detectedForm, detected]
              exact there
            rw [parse_of_form detected there] at outcome
            have contract := parse_kind_contract kind text
            rw [outcome, there] at contract
            rcases contract.closed with ⟨_, read⟩ | ⟨fault, same⟩ | ⟨digits, limit⟩
            · cases read
            · exact ⟨fault, same⟩
            · obtain ⟨_, same, reading, refused, long, _⟩ := (contract.limit digits).mp limit
              cases same
              exact absurd ⟨found, form, reading, refused, long⟩ short

end Grammar

/-! ### Warnings -/

namespace Traced

variable {α β : Type}

/-- What is logged above the level for debugging. -/
def warnings (work : Traced α) : List Event :=
  work.events.filter fun event => event.level = .warning

theorem warnings_of_hidden {work : Traced α} (hidden : work.Logs Event.Hidden) :
    work.warnings = [] := by
  rw [warnings, List.filter_eq_nil_iff]
  intro event logged warned
  rw [hidden event logged] at warned
  cases of_decide_eq_true warned

theorem warnings_bind_ok {first : Traced α} {value : α} (next : α → Traced β)
    (ends : first.outcome = .ok value) :
    (first >>= next).warnings = first.warnings ++ (next value).warnings := by
  rcases first with ⟨events, outcome⟩
  cases ends
  exact List.filter_append ..

theorem warnings_bind_error {first : Traced α} {failure : Failure} (next : α → Traced β)
    (fails : first.outcome = .error failure) : (first >>= next).warnings = first.warnings := by
  rcases first with ⟨events, outcome⟩
  cases fails
  rfl

end Traced

namespace Script

/-- The operation that a text is read as on its own, if it is read. -/
def readAlone? (text : Text) : Option Operation :=
  (Operation.parse (some text)).outcome.toOption

/-- The warning about a text that is at fault. -/
def warning? (text : Text) : Option Event :=
  match (Operation.parse (some text)).outcome with
  | .error (.parse fault) => some (.skipped text fault)
  | _ => none

theorem warnings_of_read {text : Text} {operation : Operation}
    (reading : (Operation.parse (some text)).outcome = .ok operation) :
    (parseOne false text).warnings = [] := by
  have made : parseOne false text =
      Operation.parse (some text) >>= fun first => pure (some first) := by
    simp only [parseOne, reading]
    rfl
  rw [made, Traced.warnings_bind_ok _ reading,
    Traced.warnings_of_hidden (Operation.parse_hidden (some text))]
  rfl

theorem warnings_of_fault {text : Text} {fault : ParseFault}
    (reading : (Operation.parse (some text)).outcome = .error (.parse fault)) :
    (parseOne false text).warnings = [.skipped text fault] := by
  have hidden := Traced.warnings_of_hidden (Operation.parse_hidden (some text))
  have made : (parseOne false text).events =
      (Operation.parse (some text)).events ++ [.skipped text fault] := by
    simp only [parseOne, reading]
    rfl
  rw [Traced.warnings, made, List.filter_append, ← Traced.warnings, hidden]
  rfl

/-- One text, read leniently: it is read, or left out with a warning. -/
theorem parse_one_of_short {text : Text} (short : ¬Overlong text) :
    (parseOne false text).outcome = .ok (readAlone? text) ∧
      (parseOne false text).warnings = (warning? text).toList ∧
      (warning? text).isSome = (readAlone? text).isNone := by
  rw [readAlone?, warning?]
  rcases parse_of_not_overlong short with ⟨operation, reading⟩ | ⟨fault, reading⟩
  · rw [parse_one_outcome, warnings_of_read reading, reading]
    exact ⟨rfl, rfl, rfl⟩
  · rw [parse_one_outcome, warnings_of_fault reading, reading]
    exact ⟨rfl, rfl, rfl⟩

/-- One text with a numeral beyond the limit, read leniently: it fails as it does alone. -/
theorem parse_one_of_overlong {text : Text} (long : Overlong text) :
    ∃ digits, (Operation.parse (some text)).outcome =
        .error (.value (.numeral (.tooLong digits))) ∧
      (parseOne false text).outcome = .error (.value (.numeral (.tooLong digits))) ∧
      (parseOne false text).warnings = [] := by
  obtain ⟨digits, reading⟩ := parse_of_overlong long
  have made : parseOne false text =
      Operation.parse (some text) >>= fun first => pure (some first) := by
    simp only [parseOne, reading]
    rfl
  refine ⟨digits, reading, ?_, ?_⟩
  · rw [parse_one_outcome, reading]
    rfl
  · rw [made, Traced.warnings_bind_error _ reading,
      Traced.warnings_of_hidden (Operation.parse_hidden (some text))]

/-- Texts in front of which nothing fails add what they are read as, and their warnings. -/
theorem parse_cons_of_short {text : Text} (short : ¬Overlong text) (rest : List Text) :
    (parse false (text :: rest)).outcome =
        (parse false rest).outcome.map ((readAlone? text).toList ++ ·) ∧
      (parse false (text :: rest)).warnings =
        (warning? text).toList ++ (parse false rest).warnings := by
  obtain ⟨outcome, warnings, _⟩ := parse_one_of_short short
  rw [parse]
  constructor
  · simp only [Traced.outcome_bind, outcome]
    change (parse false rest).outcome >>= _ = _
    cases (parse false rest).outcome <;> rfl
  · rw [Traced.warnings_bind_ok _ outcome, warnings]
    apply congrArg ((warning? text).toList ++ ·)
    cases ends : (parse false rest).outcome with
    | ok others =>
        rw [Traced.warnings_bind_ok _ ends]
        exact List.append_nil _
    | error failure => exact Traced.warnings_bind_error _ ends

theorem parse_append_of_short {front : List Text} (short : ∀ text ∈ front, ¬Overlong text)
    (back : List Text) :
    (parse false (front ++ back)).outcome =
        (parse false back).outcome.map (front.filterMap readAlone? ++ ·) ∧
      (parse false (front ++ back)).warnings =
        front.filterMap warning? ++ (parse false back).warnings := by
  induction front with
  | nil =>
      refine ⟨?_, rfl⟩
      rw [List.nil_append]
      cases (parse false back).outcome <;> rfl
  | cons text rest induction =>
      obtain ⟨first, later⟩ := List.forall_mem_cons.mp short
      obtain ⟨outcome, warnings⟩ := induction later
      obtain ⟨outcomeFirst, warningsFirst⟩ := parse_cons_of_short first (rest ++ back)
      rw [List.cons_append, outcomeFirst, warningsFirst, outcome, warnings]
      constructor
      · cases (parse false back).outcome with
        | error failure => rfl
        | ok others => cases alone : readAlone? text <;> simp [Except.map, alone]
      · cases warned : warning? text <;> simp [warned]

theorem parse_of_short {texts : List Text} (short : ∀ text ∈ texts, ¬Overlong text) :
    (parse false texts).outcome = .ok (texts.filterMap readAlone?) ∧
      (parse false texts).warnings = texts.filterMap warning? := by
  have whole := parse_append_of_short short []
  rw [List.append_nil] at whole
  refine ⟨?_, ?_⟩
  · rw [whole.1]
    exact congrArg Except.ok (List.append_nil _)
  · rw [whole.2]
    exact List.append_nil _

/-- The first text that is overlong, and the texts in front of it. -/
theorem first_overlong {texts : List Text} (long : ¬∀ text ∈ texts, ¬Overlong text) :
    ∃ front text back, texts = front ++ text :: back ∧ (∀ other ∈ front, ¬Overlong other) ∧
      Overlong text := by
  induction texts with
  | nil => exact absurd (List.forall_mem_nil _) long
  | cons text rest induction =>
      by_cases here : Overlong text
      · exact ⟨[], text, rest, rfl, List.forall_mem_nil _, here⟩
      · have later : ¬∀ other ∈ rest, ¬Overlong other := fun all =>
          long (List.forall_mem_cons.mpr ⟨here, all⟩)
        obtain ⟨front, other, back, rfl, short, found⟩ := induction later
        exact ⟨text :: front, other, back, rfl, List.forall_mem_cons.mpr ⟨here, short⟩, found⟩

theorem parse_of_first_overlong {front : List Text} {text : Text}
    (short : ∀ other ∈ front, ¬Overlong other) (long : Overlong text) (back : List Text) :
    ∃ digits, (parse false (front ++ text :: back)).outcome =
        .error (.value (.numeral (.tooLong digits))) ∧
      (Operation.parse (some text)).outcome = .error (.value (.numeral (.tooLong digits))) ∧
      (parse false (front ++ text :: back)).warnings = front.filterMap warning? := by
  obtain ⟨outcome, warnings⟩ := parse_append_of_short short (text :: back)
  obtain ⟨digits, alone, fails, silent⟩ := parse_one_of_overlong long
  have ends : (parse false (text :: back)).outcome =
      .error (.value (.numeral (.tooLong digits))) := by
    rw [parse, Traced.outcome_bind, fails]
    rfl
  have nothing : (parse false (text :: back)).warnings = [] := by
    rw [parse, Traced.warnings_bind_error _ fails, silent]
  refine ⟨digits, ?_, alone, ?_⟩
  · rw [outcome, ends]
    rfl
  · rw [warnings, nothing, List.append_nil]

/-- Without an overlong text lenient reading returns, in order, what each text is read as on its
own, and every text that is left out has its one warning. Otherwise nothing is returned: reading
fails as it does for the first overlong text, with the warnings about those in front of it. -/
theorem lenient_reading_ends (texts : List Text) :
    ((∀ text ∈ texts, ¬Overlong text) →
      (parse false texts).outcome = .ok (texts.filterMap readAlone?) ∧
        (parse false texts).warnings = texts.filterMap warning? ∧
        ∀ text ∈ texts, (warning? text).isSome = (readAlone? text).isNone) ∧
    ((¬∀ text ∈ texts, ¬Overlong text) →
      ∃ front text back digits, texts = front ++ text :: back ∧
        (∀ other ∈ front, ¬Overlong other) ∧ Overlong text ∧
        (Operation.parse (some text)).outcome = .error (.value (.numeral (.tooLong digits))) ∧
        (parse false texts).outcome = .error (.value (.numeral (.tooLong digits))) ∧
        (parse false texts).warnings = front.filterMap warning?) := by
  constructor
  · intro short
    obtain ⟨outcome, warnings⟩ := parse_of_short short
    exact ⟨outcome, warnings, fun text member => (parse_one_of_short (short text member)).2.2⟩
  · intro long
    obtain ⟨front, text, back, rfl, short, overlong⟩ := first_overlong long
    obtain ⟨digits, outcome, alone, warnings⟩ := parse_of_first_overlong short overlong back
    exact ⟨front, text, back, digits, rfl, short, overlong, alone, outcome, warnings⟩

/-- A text as short as the limit is read, or it is at fault. -/
theorem not_overlong_of_length {text : Text} (short : text.length ≤ Numeral.digitLimit) :
    ¬Overlong text := by
  rintro ⟨found, form, reading, refusal, long⟩
  have within := short_numerals_of_length short found form reading
    (List.mem_of_find?_eq_some refusal)
  exact absurd long (Nat.not_lt.mpr within)

/-- A deletion, a text without an operator, a coordinate of zero and a replacement. -/
def halfReadable : List Text :=
  ["@2!".toList, "hello".toList, "@0!".toList, "@3=\"x\"".toList]

theorem half_of_texts_read :
    (parse false halfReadable).outcome =
        .ok [⟨none, ⟨2, 1⟩, none, [], .delete⟩, ⟨none, ⟨3, 1⟩, none, [], .replace ['x']⟩] ∧
      (parse false halfReadable).warnings =
        [.skipped "hello".toList ⟨.unknownOperator, some "hello".toList, none⟩,
          .skipped "@0!".toList ⟨.tooSmall "Position" 1, some ['0'], some 1⟩] := by
  have short : ∀ text ∈ halfReadable, ¬Overlong text := by
    intro text member
    apply not_overlong_of_length
    revert text
    decide +kernel
  obtain ⟨outcome, warnings, _⟩ := (lenient_reading_ends halfReadable).1 short
  rw [outcome, warnings]
  constructor
  · with_unfolding_all rfl
  · with_unfolding_all rfl

/-- Two texts that are read, and between them a coordinate with one digit too many. -/
def onePastLimit : List Text :=
  ["@2!".toList, bareDeletion (List.replicate (Numeral.digitLimit + 1) '1'), "@3=\"x\"".toList]

/-- It is not passed over: the whole reading fails, and neither of the others is returned. -/
theorem one_numeral_loses_all :
    (∃ digits, (parse false onePastLimit).outcome =
        .error (.value (.numeral (.tooLong digits)))) ∧
      readAlone? "@2!".toList = some ⟨none, ⟨2, 1⟩, none, [], .delete⟩ ∧
      readAlone? "@3=\"x\"".toList = some ⟨none, ⟨3, 1⟩, none, [], .replace ['x']⟩ := by
  have long : Overlong (bareDeletion (List.replicate (Numeral.digitLimit + 1) '1')) := by
    apply overlong_bare_deletion
    · exact ⟨by simp, fun char member => by rw [List.eq_of_mem_replicate member]; decide⟩
    · rw [List.length_replicate]
      exact Nat.lt_succ_self _
  have short : ∀ text ∈ ["@2!".toList], ¬Overlong text := by
    intro text member
    rw [List.mem_singleton.mp member]
    exact not_overlong_of_length (by decide)
  obtain ⟨digits, fails, _⟩ := parse_of_first_overlong short long ["@3=\"x\"".toList]
  refine ⟨⟨digits, fails⟩, ?_, ?_⟩
  · with_unfolding_all rfl
  · with_unfolding_all rfl

end Script

end EditScript
