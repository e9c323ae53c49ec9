import EditScript.Proofs.Captures
import EditScript.Proofs.Masks
import EditScript.Proofs.Reading

/-!
# How a reading ends

A reading ends with an operation, with a fault of the notation, or at the limit on
numerals. Which of them it is depends on the first numeral that is refused, in the order
of reading: one that is too long ends the reading at the limit, one that is too small is
a fault of the notation. If none is refused, every check of the fields but one has been
made already, and what is left to fail is a tag with an opening bracket in it. Faults of
coordinates and of fields, which building an operation has otherwise, never come out.
-/

namespace EditScript.Grammar

set_option autoImplicit false

namespace Reading

/-- More digits than are read, leading zeros included. -/
def TooLong (reading : Reading) : Prop :=
  Numeral.digitLimit < reading.digits.text.length

/-- A number below the least one: zero where a position or a length counts from one. -/
def TooSmall (reading : Reading) : Prop :=
  Numeral.ofDigits reading.digits.text < reading.least

instance (reading : Reading) : Decidable reading.TooLong :=
  inferInstanceAs (Decidable (_ < _))

instance (reading : Reading) : Decidable reading.TooSmall :=
  inferInstanceAs (Decidable (_ < _))

def refused (reading : Reading) : Bool :=
  reading.TooLong ∨ reading.TooSmall

/-- What is reported of a numeral that is refused. -/
def failure (reading : Reading) : Failure :=
  if reading.TooLong then .value (.numeral (.tooLong reading.digits.text.length))
  else .parse ⟨.tooSmall reading.label reading.least, some reading.digits.text,
    some reading.digits.offset⟩

variable {reading : Reading}

theorem reads_of_accepted (row : Numeral.Digits reading.digits.text)
    (accepted : reading.refused = false) :
    Reads reading.digits.text reading.least (Numeral.ofDigits reading.digits.text) := by
  simp only [refused, decide_eq_false_iff_not, not_or] at accepted
  rcases accepted with ⟨short, enough⟩
  exact ⟨Numeral.read_digits row (Nat.not_lt.mp short), Nat.not_lt.mp enough⟩

end Reading

/-- A result that depends on numerals: the first one that is refused is reported, and if
none is there is a value. -/
def Heeds {α : Type} (readings : List Reading) (result : Except Failure α) : Prop :=
  match readings.find? Reading.refused with
  | some reading => result = .error reading.failure
  | none => ∃ value, result = .ok value

section

variable {α β : Type} {readings others : List Reading}

theorem heeds_nothing (value : α) : Heeds [] (.ok value : Except Failure α) :=
  ⟨value, rfl⟩

/-- The numerals of a first result come before those of what is done with it. -/
theorem Heeds.bind {first : Except Failure α} {next : α → Except Failure β}
    (heeds : Heeds readings first) (later : ∀ value, Heeds others (next value)) :
    Heeds (readings ++ others) (first >>= next) := by
  unfold Heeds at heeds ⊢
  rw [List.find?_append]
  cases refusal : readings.find? Reading.refused with
  | some reading =>
      rw [refusal] at heeds
      rw [heeds]
      rfl
  | none =>
      rw [refusal] at heeds
      rcases heeds with ⟨value, rfl⟩
      exact later value

theorem Heeds.returning {first : Except Failure α} {function : α → β}
    (heeds : Heeds readings first) :
    Heeds readings (first >>= fun value => .ok (function value)) := by
  have more := heeds.bind fun value => heeds_nothing (function value)
  rw [List.append_nil] at more
  exact more

theorem position_of_digits (found : Match) {reading : Reading}
    (row : Numeral.Digits reading.digits.text) :
    positionOf found reading.digits reading.label reading.least =
      if reading.refused then .error reading.failure
      else .ok (Numeral.ofDigits reading.digits.text : Int) := by
  by_cases long : reading.TooLong
  · have refused : reading.refused = true := decide_eq_true (Or.inl long)
    have read := (Numeral.read_of_digits row).trans (if_pos long)
    simp only [positionOf, number, read]
    rw [if_pos refused, Reading.failure, if_pos long]
  · have read := (Numeral.read_of_digits row).trans (if_neg long)
    simp only [positionOf, number, read]
    by_cases small : reading.TooSmall
    · have refused : reading.refused = true := decide_eq_true (Or.inr small)
      rw [if_pos refused, Reading.failure, if_neg long]
      exact if_pos (Int.ofNat_lt.mpr small)
    · have accepted : ¬reading.refused = true := by
        simp [Reading.refused, long, small]
      rw [if_neg accepted]
      exact if_neg fun below => small (Int.ofNat_lt.mp below)

theorem heeds_position (found : Match) {reading : Reading}
    (row : Numeral.Digits reading.digits.text) :
    Heeds [reading] (positionOf found reading.digits reading.label reading.least) := by
  rw [position_of_digits found row, Heeds]
  by_cases refused : reading.refused = true
  · rw [List.find?_cons_of_pos refused, if_pos refused]
  · rw [List.find?_cons_of_neg refused, if_neg refused]
    exact ⟨_, rfl⟩

theorem heeds_length (found : Match) {label : String} {length : Option Capture}
    (rows : ∀ reading ∈ lengthReading label length, Numeral.Digits reading.digits.text) :
    Heeds (lengthReading label length) (lengthOf found length label) := by
  cases length with
  | none => exact heeds_nothing 1
  | some digits =>
      exact @heeds_position found ⟨label, 1, digits⟩ (rows _ List.mem_cons_self)

end

/-- The numbers of a form fail at the first numeral that is refused. -/
theorem numbers_heed (found : Match)
    (rows : ∀ reading ∈ found.readings, Numeral.Digits reading.digits.text) :
    Heeds found.readings (numbersOf found) := by
  rcases found with ⟨whole, described, position, length, operand⟩
  rcases List.forall_mem_cons.mp rows with ⟨row, later⟩
  rw [List.forall_mem_append] at later
  cases operand with
  | delete =>
      exact (heeds_position _ row).bind fun _ =>
        (heeds_length _ later.1).bind fun _ => heeds_nothing _
  | insert side content => exact (heeds_position _ row).bind fun _ => heeds_nothing _
  | replace content =>
      exact (heeds_position _ row).bind fun _ =>
        (heeds_length _ later.1).bind fun _ => heeds_nothing _
  | move side target =>
      have rowTarget := later.2 _ List.mem_cons_self
      exact (heeds_position _ row).bind fun _ =>
        (heeds_length _ later.1).bind fun _ =>
          (heeds_position _ rowTarget).bind fun _ => heeds_nothing _
  | swap other start size =>
      rcases List.forall_mem_cons.mp later.2 with ⟨rowStart, rowSize⟩
      exact (heeds_position _ row).bind fun _ =>
        (heeds_length _ later.1).bind fun _ =>
          (heeds_position _ rowStart).bind fun _ => (heeds_length _ rowSize).returning

theorem reads_length_of_accepted {label : String} {length : Option Capture}
    (rows : ∀ reading ∈ lengthReading label length, Numeral.Digits reading.digits.text)
    (accepted : ∀ reading ∈ lengthReading label length, reading.refused = false) :
    ∃ number, ReadsLength length number := by
  cases length with
  | none => exact ⟨1, rfl⟩
  | some digits =>
      have row := List.forall_mem_singleton.mp rows
      have kept := List.forall_mem_singleton.mp accepted
      exact ⟨_, @Reading.reads_of_accepted ⟨label, 1, digits⟩ row kept⟩

theorem operand_writes_of_accepted {operand : Operand}
    (rows : ∀ reading ∈ operand.readings, Numeral.Digits reading.digits.text)
    (accepted : ∀ reading ∈ operand.readings, reading.refused = false) :
    ∃ action, operand.Writes action := by
  cases operand with
  | delete => exact ⟨_, .delete⟩
  | insert side content => exact ⟨_, .insert side content⟩
  | replace content => exact ⟨_, .replace content⟩
  | move side target =>
      have row := List.forall_mem_singleton.mp rows
      have kept := List.forall_mem_singleton.mp accepted
      exact ⟨_, .move side (Reading.reads_of_accepted row kept)⟩
  | swap described start size =>
      rcases List.forall_mem_cons.mp rows with ⟨rowStart, rowSize⟩
      rcases List.forall_mem_cons.mp accepted with ⟨keptStart, keptSize⟩
      rcases reads_length_of_accepted rowSize keptSize with ⟨length, reads⟩
      exact ⟨.swap ⟨_, length⟩ _,
        .swap described (Reading.reads_of_accepted rowStart keptStart) reads⟩

/-- Once all its numerals are accepted, a form has a span and an action. -/
theorem parts_of_accepted {found : Match}
    (rows : ∀ reading ∈ found.readings, Numeral.Digits reading.digits.text)
    (accepted : found.readings.find? Reading.refused = none) :
    ∃ (span : Span) (action : Action),
      Reads found.position.text found.operand.kind.leastPosition span.start ∧
        ReadsLength found.length? span.length ∧ found.operand.Writes action := by
  have kept : ∀ reading ∈ found.readings, reading.refused = false := by
    simpa using accepted
  rcases List.forall_mem_cons.mp rows with ⟨rowStart, rowsLater⟩
  rcases List.forall_mem_cons.mp kept with ⟨keptStart, keptLater⟩
  rw [List.forall_mem_append] at rowsLater keptLater
  rcases reads_length_of_accepted rowsLater.1 keptLater.1 with ⟨length, readsLength⟩
  rcases operand_writes_of_accepted rowsLater.2 keptLater.2 with ⟨action, writes⟩
  exact ⟨⟨_, length⟩, action, Reading.reads_of_accepted rowStart keptStart, readsLength, writes⟩

/-- What is left to fail then is a tag. -/
theorem form_outcome (kind : Kind) (text : Text) {found : Match}
    (rows : ∀ reading ∈ found.readings, Numeral.Digits reading.digits.text)
    (accepted : found.readings.find? Reading.refused = none) :
    ∃ operation, draftOf text found >>= assemble kind text =
      match (tags text).find? fun tag => !isTag tag with
      | none => .ok operation
      | some tag => .error (.parse ⟨.refused kind (.invalidTag tag), some text, none⟩) := by
  rcases parts_of_accepted rows accepted with ⟨span, action, parts⟩
  rcases (numbers_make_iff found span action).mpr parts with ⟨body, numbers, least, single, makes⟩
  refine ⟨⟨describing (textOf found.described), span, annotating (note? text), tags text,
    action⟩, ?_⟩
  rw [(draft_of_eq_ok_iff text found _).mpr ⟨_, _, body, numbers, rfl⟩]
  change assemble kind text _ = _
  rw [assemble, operation_of_fields least single makes, taggedWith]
  cases (tags text).find? fun tag => !isTag tag <;> rfl

/-- A word of a tag list is a tag unless it holds an opening bracket: the blanks around it
and the closing bracket are not part of it. -/
theorem is_tag_iff {text tag : Text} (listed : tag ∈ tags text) :
    isTag tag = true ↔ '[' ∉ tag := by
  rw [tags] at listed
  split at listed
  · cases listed
  · next content region =>
      rw [first_region_eq] at region
      rcases List.exists_of_findSome?_eq_some region with ⟨piece, inside, isContent⟩
      rcases Text.word_spec listed with ⟨filled, chars⟩
      cases piece with
      | plain char => cases isContent
      | literal delimiter other =>
          rw [Piece.content?] at isContent
          split at isContent
          · next form =>
              cases isContent
              cases List.mem_singleton.mp form
              have closed : ']' ∉ content := closing_not_mem inside
              rw [tag_iff]
              constructor
              · intro valid opened
                exact (valid.2 '[' opened).2.1 rfl
              · intro unopened
                refine ⟨filled, fun char member => ⟨(chars char member).1, ?_, ?_⟩⟩
                · exact fun same => unopened (same ▸ member)
                · exact fun same => closed (same ▸ (chars char member).2)
          · cases isContent

/-- A text in which a form is found is not blank: the form has a position. -/
theorem not_blank_of_found {kind : Kind} {text : Text} {found : Match}
    (there : find? kind (maskAnnotations text) = some found) : Text.strip text ≠ [] := by
  rcases match_of_find_from there with ⟨front, cursor, masked, _, here⟩
  rcases match_steps here with ⟨start, _, _, _, _, description, position, _⟩
  have sign : '@' ∈ start.rest := by
    rw [(Cursor.passes_position position).1.rest]
    exact List.mem_cons_self
  rcases Cursor.passes_to_position description with ⟨part, passes⟩
  have inMasked : '@' ∈ maskAnnotations text := by
    rw [masked, passes.rest]
    exact List.mem_append_right _ (List.mem_append_right _ sign)
  exact List.ne_nil_of_mem (mem_trim (mem_of_mem_masked (by decide) inMasked) (by decide))

/-- How a reading of a text may end, given the form that is found in it, if any. -/
structure Contract (text : Option Text) (form : Option Match)
    (outcome : Except Failure Operation) : Prop where
  /-- Nothing ends a reading but a fault of the notation and the limit on numerals. -/
  closed : (∃ operation, outcome = .ok operation) ∨ (∃ fault, outcome = .error (.parse fault)) ∨
    ∃ digits, outcome = .error (.value (.numeral (.tooLong digits)))
  /-- The limit ends it exactly if a form is found and the first numeral that is refused
  is refused for its length. -/
  limit : ∀ digits, outcome = .error (.value (.numeral (.tooLong digits))) ↔
    ∃ found ∈ form, ∃ reading, found.readings.find? Reading.refused = some reading ∧
      reading.TooLong ∧ reading.digits.text.length = digits
  /-- If no numeral is refused, only a tag with an opening bracket keeps the form from
  making an operation. -/
  construction : ∀ given ∈ text, ∀ found ∈ form,
    found.readings.find? Reading.refused = none →
      ((∃ operation, outcome = .ok operation) ↔ ∀ tag ∈ tags given, '[' ∉ tag)

theorem contract_without_form (text : Option Text) (fault : ParseFault) :
    Contract text none (.error (.parse fault)) where
  closed := .inr (.inl ⟨fault, rfl⟩)
  limit := by
    intro digits
    constructor
    · nofun
    · rintro ⟨found, member, _⟩
      cases member
  construction := by
    intro given _ found member
    cases member

theorem contract_of_refused (text : Text) {found : Match} {reading : Reading}
    (refusal : found.readings.find? Reading.refused = some reading) :
    Contract (some text) (some found) (.error reading.failure) where
  closed := by
    rw [Reading.failure]
    split
    · exact .inr (.inr ⟨_, rfl⟩)
    · exact .inr (.inl ⟨_, rfl⟩)
  limit := by
    intro digits
    rw [Reading.failure]
    constructor
    · intro limit
      split at limit
      · next long =>
          cases limit
          exact ⟨found, rfl, reading, refusal, long, rfl⟩
      · cases limit
    · rintro ⟨_, same, other, first, long, rfl⟩
      cases same
      cases first.symm.trans refusal
      rw [if_pos long]
  construction := by
    intro _ _ _ same accepted
    cases same
    cases accepted.symm.trans refusal

theorem contract_of_accepted (kind : Kind) (text : Text) {found : Match} (operation : Operation)
    (accepted : found.readings.find? Reading.refused = none) :
    Contract (some text) (some found)
      (match (tags text).find? fun tag => !isTag tag with
      | none => .ok operation
      | some tag => .error (.parse ⟨.refused kind (.invalidTag tag), some text, none⟩)) where
  closed := by
    split
    · exact .inl ⟨_, rfl⟩
    · exact .inr (.inl ⟨_, rfl⟩)
  limit := by
    intro digits
    constructor
    · intro limit
      split at limit <;> cases limit
    · rintro ⟨_, same, other, first, _⟩
      cases same
      cases first.symm.trans accepted
  construction := by
    rintro _ same _ _ _
    cases same
    split
    · next all =>
        refine ⟨fun _ tag listed => (is_tag_iff listed).mp ?_, fun _ => ⟨_, rfl⟩⟩
        simpa using List.find?_eq_none.mp all tag listed
    · next tag first =>
        refine ⟨nofun, fun unopened => ?_⟩
        have listed := List.mem_of_find?_eq_some first
        have refused := List.find?_some first
        rw [(is_tag_iff listed).mpr (unopened tag listed)] at refused
        cases refused

section

variable {kind : Kind} {text : Text} {found : Match}

/-- The first numeral that is refused ends the reading. -/
theorem parse_kind_of_refused (there : find? kind (maskAnnotations text) = some found)
    {reading : Reading} (refusal : found.readings.find? Reading.refused = some reading) :
    parseKind kind text = .error reading.failure := by
  rcases match_of_find_from there with ⟨_, _, _, _, here⟩
  have heeds := numbers_heed found (readings_digits here)
  rw [Heeds, refusal] at heeds
  rw [parseKind, there]
  change draftOf text found >>= assemble kind text = .error reading.failure
  rw [draftOf, heeds]
  rfl

/-- If none is refused, only a tag can be. -/
theorem parse_kind_of_accepted (there : find? kind (maskAnnotations text) = some found)
    (accepted : found.readings.find? Reading.refused = none) :
    ∃ operation, parseKind kind text =
      match (tags text).find? fun tag => !isTag tag with
      | none => .ok operation
      | some tag => .error (.parse ⟨.refused kind (.invalidTag tag), some text, none⟩) := by
  rcases match_of_find_from there with ⟨_, _, _, _, here⟩
  rw [parseKind, there]
  exact form_outcome kind text (readings_digits here) accepted

end

theorem parse_kind_contract (kind : Kind) (text : Text) :
    Contract (some text) (find? kind (maskAnnotations text)) (parseKind kind text) := by
  cases there : find? kind (maskAnnotations text) with
  | none =>
      rw [parseKind, there]
      exact contract_without_form _ _
  | some found =>
      cases refusal : found.readings.find? Reading.refused with
      | some reading =>
          rw [parse_kind_of_refused there refusal]
          exact contract_of_refused text refusal
      | none =>
          rcases parse_kind_of_accepted there refusal with ⟨operation, outcome⟩
          rw [outcome]
          exact contract_of_accepted kind text operation refusal

/-- A text that is absent or blank is refused before any form is looked for. -/
theorem present_error {text : Option Text} {failure : Failure}
    (absent : present text = .error failure) :
    (∃ fault, failure = .parse fault) ∧
      ∀ given ∈ text, ∀ kind, find? kind (maskAnnotations given) = none := by
  cases text with
  | none =>
      cases absent
      exact ⟨⟨_, rfl⟩, nofun⟩
  | some given =>
      rw [present] at absent
      split at absent
      · next blank =>
          cases absent
          refine ⟨⟨_, rfl⟩, ?_⟩
          rintro _ ⟨⟩ kind
          rw [Option.eq_none_iff_forall_ne_some]
          intro found there
          exact not_blank_of_found there (List.isEmpty_iff.mp blank)
      · cases absent

/-- The form that reading a text as an operation of a kind works with. -/
def formOf (kind : Kind) (text : Text) : Option Match :=
  find? kind (maskAnnotations text)

/-- The form of the kind that the operator tells. -/
def detectedForm (text : Text) : Option Match :=
  (detect? text).bind fun kind => formOf kind text

/-- Reading a text as an operation, or as an operation of a given kind, ends with an
operation, with a fault of the notation or at the limit on numerals; and at the limit
exactly if the form of the kind is found and the first of its numerals that is zero where
it may not be, or too long, is too long. -/
theorem readings_end_by_contract (text : Option Text) :
    Contract text (text.bind detectedForm) (Operation.parse text).outcome ∧
      ∀ kind, Contract text (text.bind (formOf kind)) (Operation.parseAs kind text) := by
  rw [parse_outcome]
  unfold Operation.parseAs
  cases there : present text with
  | error failure =>
      rcases present_error there with ⟨⟨fault, rfl⟩, unformed⟩
      have unformedKind : ∀ kind, text.bind (formOf kind) = none := by
        intro kind
        rw [Option.bind_eq_none_iff]
        exact fun given member => unformed given member kind
      have undetected : text.bind detectedForm = none := by
        rw [Option.bind_eq_none_iff]
        intro given member
        exact Option.bind_eq_none_iff.mpr fun kind _ => unformed given member kind
      rw [undetected]
      refine ⟨contract_without_form text fault, fun kind => ?_⟩
      rw [unformedKind kind]
      exact contract_without_form text fault
  | ok given =>
      rcases (present_eq_ok_iff text given).mp there with ⟨rfl, _⟩
      refine ⟨?_, fun kind => parse_kind_contract kind given⟩
      change Contract _ (detectedForm given) (detect given >>= _)
      rw [detect, detectedForm]
      cases detect? given with
      | none => exact contract_without_form _ _
      | some kind => exact parse_kind_contract kind given

end EditScript.Grammar
