import EditScript.Grammar.Parser

/-!
# From forms to operations

An operation is read exactly if a form is found and its parts make the operation.
What its parts have to be is stated field by field, without the order in which they
are checked: every check that may fail is settled by what the others are given, so
success does not depend on that order. Which failure is reported does, and nothing is
said about it here.
-/

namespace EditScript

set_option autoImplicit false

namespace Check

variable {α β : Type}

theorem map_eq_valid_iff (function : α → β) (check : Check α) (value : β) :
    check.map function = .valid value ↔
      ∃ before, check = .valid before ∧ function before = value := by
  cases check <;> simp [map]

theorem and_then_eq_valid_iff (check : Check α) (next : α → Check β) (value : β) :
    check.andThen next = .valid value ↔
      ∃ before, check = .valid before ∧ next before = .valid value := by
  cases check <;> simp [andThen]

theorem both_eq_valid_iff (left : Check α) (right : Check β) (pair : α × β) :
    left.both right = .valid pair ↔ left = .valid pair.1 ∧ right = .valid pair.2 := by
  rcases pair with ⟨first, second⟩
  cases left <;> cases right <;> simp [both]

end Check

theorem coordinate_eq_valid_iff (which : Coordinate) (least : Nat) (value : Int) (number : Nat) :
    coordinate which least value = .valid number ↔ value = number ∧ least ≤ number := by
  unfold coordinate
  split
  · next enough =>
      rw [Check.valid.injEq]
      omega
  · next short =>
      constructor
      · intro passed
        split at passed <;> cases passed
      · intro given
        rcases given with ⟨rfl, enough⟩
        exact absurd (Int.ofNat_le.mpr enough) short

theorem tagged_with_eq_valid_iff (tags kept : List Text) :
    taggedWith tags = .valid kept ↔ kept = tags ∧ ∀ tag ∈ tags, isTag tag = true := by
  unfold taggedWith
  split
  · next none =>
      have all : ∀ tag ∈ tags, isTag tag = true := by
        simpa using none
      rw [Check.valid.injEq]
      constructor
      · intro same
        subst same
        exact ⟨rfl, all⟩
      · intro given
        rcases given with ⟨rfl, _⟩
        rfl
  · next tag found =>
      constructor
      · intro passed
        cases passed
      · intro given
        rcases given with ⟨_, all⟩
        have refused := List.find?_some found
        rw [all tag (List.mem_of_find?_eq_some found)] at refused
        cases refused

/-- The fields of a kind pass their checks and become those of an action. -/
inductive Draft.Body.Makes : Draft.Body → Action → Prop
  | delete : Makes .delete .delete
  | insert (side : Side) (text : Text) : Makes (.insert side (.valid text)) (.insert side text)
  | replace (text : Text) : Makes (.replace (.valid text)) (.replace text)
  | move (side : Side) {target : Nat} (least : 1 ≤ target) :
      Makes (.move side (.valid (target : Int))) (.move side target)
  | swap {start length : Nat} (described : Option Text) (leastStart : 1 ≤ start)
      (leastLength : 1 ≤ length) :
      Makes (.swap (.valid (start : Int)) (.valid (length : Int)) (.valid described))
        (.swap ⟨start, length⟩ (describing described))

theorem Draft.action_eq_valid_iff (draft : Draft) (action : Action) :
    draft.action = .valid action ↔ draft.kind = .valid () ∧ draft.body.Makes action := by
  rcases draft with ⟨_, _, _, _, _, kind, body⟩
  cases body with
  | delete =>
      simp only [Draft.action, Check.map_eq_valid_iff]
      constructor
      · intro given
        rcases given with ⟨_, named, rfl⟩
        exact ⟨named, .delete⟩
      · intro given
        rcases given with ⟨named, made⟩
        cases made
        exact ⟨(), named, rfl⟩
  | insert side text =>
      simp only [Draft.action, Check.map_eq_valid_iff, Check.both_eq_valid_iff]
      constructor
      · intro given
        rcases given with ⟨⟨_, content⟩, ⟨named, rfl⟩, rfl⟩
        exact ⟨named, .insert side content⟩
      · intro given
        rcases given with ⟨named, made⟩
        cases made
        exact ⟨((), _), ⟨named, rfl⟩, rfl⟩
  | replace text =>
      simp only [Draft.action, Check.map_eq_valid_iff, Check.both_eq_valid_iff]
      constructor
      · intro given
        rcases given with ⟨⟨_, content⟩, ⟨named, rfl⟩, rfl⟩
        exact ⟨named, .replace content⟩
      · intro given
        rcases given with ⟨named, made⟩
        cases made
        exact ⟨((), _), ⟨named, rfl⟩, rfl⟩
  | move side target =>
      simp only [Draft.action, Check.map_eq_valid_iff, Check.both_eq_valid_iff,
        Check.and_then_eq_valid_iff, coordinate_eq_valid_iff]
      constructor
      · intro given
        rcases given with ⟨⟨number, _⟩, ⟨⟨_, rfl, rfl, least⟩, named⟩, rfl⟩
        exact ⟨named, .move side least⟩
      · intro given
        rcases given with ⟨named, made⟩
        cases made with
        | move _ least => exact ⟨(_, ()), ⟨⟨_, rfl, rfl, least⟩, named⟩, rfl⟩
  | swap start length described =>
      simp only [Draft.action, Check.map_eq_valid_iff, Check.both_eq_valid_iff,
        Check.and_then_eq_valid_iff, coordinate_eq_valid_iff]
      constructor
      · intro given
        rcases given with ⟨⟨_, first, size, shown⟩,
          ⟨named, ⟨_, rfl, rfl, leastStart⟩, ⟨_, rfl, rfl, leastLength⟩, content, rfl, rfl⟩, rfl⟩
        exact ⟨named, .swap content leastStart leastLength⟩
      · intro given
        rcases given with ⟨named, made⟩
        cases made with
        | swap content leastStart leastLength =>
            exact ⟨((), _, _, _), ⟨named, ⟨_, rfl, rfl, leastStart⟩, ⟨_, rfl, rfl, leastLength⟩,
              content, rfl, rfl⟩, rfl⟩

/-- Every field of a draft passes its checks and becomes that of an operation. -/
structure Draft.Makes (draft : Draft) (operation : Operation) : Prop where
  described : draft.described.map describing = .valid operation.described
  start : draft.start.andThen (coordinate .position draft.body.kind.leastPosition) =
    .valid operation.span.start
  length : draft.length.andThen (coordinate .length 1) = .valid operation.span.length
  note : draft.note.map annotating = .valid operation.note
  tags : draft.tags.andThen taggedWith = .valid operation.tags
  kind : draft.kind = .valid ()
  body : draft.body.Makes operation.action

theorem Draft.operation_eq_valid_iff (draft : Draft) (operation : Operation) :
    draft.operation = .valid operation ↔ draft.Makes operation := by
  rw [Draft.operation, Check.map_eq_valid_iff]
  simp only [Check.both_eq_valid_iff, Draft.action_eq_valid_iff]
  constructor
  · intro given
    rcases given with ⟨_, ⟨described, start, length, note, tags, kind, body⟩, rfl⟩
    exact ⟨described, start, length, note, tags, kind, body⟩
  · intro given
    rcases given with ⟨described, start, length, note, tags, kind, body⟩
    exact ⟨⟨operation.described, operation.span.start, operation.span.length, operation.note,
      operation.tags, operation.action⟩, ⟨described, start, length, note, tags, kind, body⟩, rfl⟩

/-- With fields of the right types and numbers that are large enough, nothing but a tag
can be refused. -/
theorem operation_of_fields {described note : Option Text} {start length : Nat} {tags : List Text}
    {body : Draft.Body} {action : Action} (least : body.kind.leastPosition ≤ start)
    (some : 1 ≤ length) (makes : body.Makes action) :
    Draft.operation ⟨.valid described, .valid (start : Int), .valid (length : Int), .valid note,
        .valid tags, .valid (), body⟩ =
      (taggedWith tags).map fun tags =>
        ⟨describing described, ⟨start, length⟩, annotating note, tags, action⟩ := by
  have atStart := (coordinate_eq_valid_iff .position _ start start).mpr ⟨rfl, least⟩
  have ofLength := (coordinate_eq_valid_iff .length 1 length length).mpr ⟨rfl, some⟩
  have made := (Draft.action_eq_valid_iff ⟨.valid described, .valid (start : Int),
    .valid (length : Int), .valid note, .valid tags, .valid (), body⟩ action).mpr ⟨rfl, makes⟩
  simp only [Draft.operation, Check.map, Check.andThen, atStart, ofLength, made]
  cases taggedWith tags <;> rfl

namespace Grammar

/-- A numeral is read as a number that is not less than it may be. -/
def Reads (digits : Text) (least number : Nat) : Prop :=
  Numeral.read digits = .ok (number : Int) ∧ least ≤ number

/-- A length is read as a number; it is one when it is left out. -/
def ReadsLength (length : Option Capture) (number : Nat) : Prop :=
  match length with
  | none => number = 1
  | some digits => Reads digits.text 1 number

/-- What is read behind an operator makes an action. -/
inductive Operand.Writes : Operand → Action → Prop
  | delete : Writes .delete .delete
  | insert (side : Side) (content : Capture) :
      Writes (.insert side content) (.insert side content.text)
  | replace (content : Capture) : Writes (.replace content) (.replace content.text)
  | move (side : Side) {target : Capture} {number : Nat} (reads : Reads target.text 1 number) :
      Writes (.move side target) (.move side number)
  | swap (described : Option Capture) {position : Capture} {length : Option Capture} {other : Span}
      (start : Reads position.text 1 other.start) (size : ReadsLength length other.length) :
      Writes (.swap described position length) (.swap other (describing (textOf described)))

/-- The length that a form has, unless its kind takes none. -/
def Match.length? (found : Match) : Option Capture :=
  if found.operand.kind.takesLength then found.length else none

/-- A form makes an operation, together with a note and tags. -/
structure Match.Writes (found : Match) (note : Option Text) (tags : List Text)
    (operation : Operation) : Prop where
  described : describing (textOf found.described) = operation.described
  start : Reads found.position.text found.operand.kind.leastPosition operation.span.start
  length : ReadsLength found.length? operation.span.length
  note : annotating note = operation.note
  words : ∀ tag ∈ tags, isTag tag = true
  tags : tags = operation.tags
  operand : found.operand.Writes operation.action

theorem bind_eq_ok_iff {ε α β : Type} (first : Except ε α) (next : α → Except ε β) (value : β) :
    first >>= next = .ok value ↔ ∃ before, first = .ok before ∧ next before = .ok value := by
  cases first with
  | error fault => simp [bind, Except.bind]
  | ok before => simp [bind, Except.bind]

theorem position_of_eq_ok_iff (found : Match) (part : Capture) (label : String)
    (least number : Nat) :
    positionOf found part label least = .ok (number : Int) ↔ Reads part.text least number := by
  simp only [positionOf, Grammar.number, Reads]
  cases reading : Numeral.read part.text with
  | error fault => simp
  | ok read =>
      by_cases small : read < least
      · simp only [small, if_true, reduceCtorEq, Except.ok.injEq, false_iff, not_and]
        intro same
        subst same
        exact Nat.not_le.mpr (Int.ofNat_lt.mp small)
      · simp only [small, if_false, Except.ok.injEq]
        omega

theorem length_of_eq_ok_iff (found : Match) (part : Option Capture) (label : String)
    (number : Nat) : lengthOf found part label = .ok (number : Int) ↔ ReadsLength part number := by
  cases part with
  | none =>
      simp only [lengthOf, Grammar.number, ReadsLength, Except.ok.injEq]
      omega
  | some digits => exact position_of_eq_ok_iff found digits label 1 number

theorem one_le_of_reads_length {part : Option Capture} {number : Nat}
    (reads : ReadsLength part number) : 1 ≤ number := by
  cases part with
  | none => exact Nat.le_of_eq reads.symm
  | some digits => exact reads.2

theorem assemble_eq_ok_iff (kind : Kind) (text : Text) (draft : Draft) (operation : Operation) :
    assemble kind text draft = .ok operation ↔ draft.Makes operation := by
  rw [← Draft.operation_eq_valid_iff, assemble]
  cases draft.operation <;> simp

/-- The fields of a draft whose types are all in order make an operation exactly if
the numbers are large enough and the tags are words. -/
theorem draft_makes_iff (described : Option Text) (start length : Int) (note : Option Text)
    (tags : List Text) (body : Draft.Body) (operation : Operation) :
    Draft.Makes ⟨.valid described, .valid start, .valid length, .valid note, .valid tags,
        .valid (), body⟩ operation ↔
      describing described = operation.described ∧
        (start = operation.span.start ∧ body.kind.leastPosition ≤ operation.span.start) ∧
        (length = operation.span.length ∧ 1 ≤ operation.span.length) ∧
        annotating note = operation.note ∧
        (operation.tags = tags ∧ ∀ tag ∈ tags, isTag tag = true) ∧
        body.Makes operation.action := by
  constructor
  · intro given
    rcases given with ⟨fieldDescribed, fieldStart, fieldLength, fieldNote, fieldTags, _, makes⟩
    refine ⟨Check.valid.inj fieldDescribed, ?_, ?_, Check.valid.inj fieldNote, ?_, makes⟩
    · exact (coordinate_eq_valid_iff _ _ _ _).mp fieldStart
    · exact (coordinate_eq_valid_iff _ _ _ _).mp fieldLength
    · exact (tagged_with_eq_valid_iff _ _).mp fieldTags
  · intro given
    rcases given with ⟨same, atStart, ofLength, noted, tagged, makes⟩
    refine ⟨congrArg Check.valid same, ?_, ?_, congrArg Check.valid noted, ?_, rfl, makes⟩
    · exact (coordinate_eq_valid_iff _ _ _ _).mpr atStart
    · exact (coordinate_eq_valid_iff _ _ _ _).mpr ofLength
    · exact (tagged_with_eq_valid_iff _ _).mpr tagged

theorem draft_of_eq_ok_iff (text : Text) (found : Match) (draft : Draft) :
    draftOf text found = .ok draft ↔ ∃ start length body,
      numbersOf found = .ok (start, length, body) ∧
        draft = ⟨.valid (textOf found.described), .valid start, .valid length,
          .valid (note? text), .valid (tags text), .valid (), body⟩ := by
  rw [draftOf, bind_eq_ok_iff]
  constructor
  · intro given
    rcases given with ⟨⟨start, length, body⟩, numbers, made⟩
    cases made
    exact ⟨start, length, body, numbers, rfl⟩
  · intro given
    rcases given with ⟨start, length, body, numbers, rfl⟩
    exact ⟨(start, length, body), numbers, rfl⟩

/-- The numbers of a form and the fields of its operand, as far as they make a span
and an action. -/
theorem numbers_make_iff (found : Match) (span : Span) (action : Action) :
    (∃ body, numbersOf found = .ok ((span.start : Int), (span.length : Int), body) ∧
      body.kind.leastPosition ≤ span.start ∧ 1 ≤ span.length ∧ body.Makes action) ↔
      Reads found.position.text found.operand.kind.leastPosition span.start ∧
        ReadsLength found.length? span.length ∧ found.operand.Writes action := by
  rcases found with ⟨whole, described, position, length, operand⟩
  cases operand with
  | delete =>
      simp only [numbersOf, bind_eq_ok_iff]
      constructor
      · intro given
        rcases given with ⟨body, ⟨_, start, _, size, made⟩, least, _, makes⟩
        cases made
        cases makes
        exact ⟨(position_of_eq_ok_iff _ _ _ 1 _).mp start, (length_of_eq_ok_iff _ _ _ _).mp size,
          .delete⟩
      · intro given
        rcases given with ⟨start, size, writes⟩
        cases writes
        exact ⟨_, ⟨_, (position_of_eq_ok_iff _ _ _ 1 _).mpr start, _,
          (length_of_eq_ok_iff _ _ _ _).mpr size, rfl⟩, start.2, one_le_of_reads_length size,
          .delete⟩
  | insert side content =>
      simp only [numbersOf, bind_eq_ok_iff]
      constructor
      · intro given
        rcases given with ⟨body, ⟨_, start, made⟩, _, _, makes⟩
        rcases Prod.mk.inj (Except.ok.inj made) with ⟨rfl, rest⟩
        rcases Prod.mk.inj rest with ⟨single, rfl⟩
        cases makes
        exact ⟨(position_of_eq_ok_iff _ _ _ 0 _).mp start, (Int.ofNat_inj.mp single).symm,
          .insert side content⟩
      · intro given
        rcases given with ⟨start, single, writes⟩
        change span.length = 1 at single
        cases writes
        rw [single]
        exact ⟨_, ⟨_, (position_of_eq_ok_iff _ _ _ 0 _).mpr start, rfl⟩, start.2, Nat.le_refl 1,
          .insert side content.text⟩
  | replace content =>
      simp only [numbersOf, bind_eq_ok_iff]
      constructor
      · intro given
        rcases given with ⟨body, ⟨_, start, _, size, made⟩, _, _, makes⟩
        cases made
        cases makes
        exact ⟨(position_of_eq_ok_iff _ _ _ 1 _).mp start, (length_of_eq_ok_iff _ _ _ _).mp size,
          .replace content⟩
      · intro given
        rcases given with ⟨start, size, writes⟩
        cases writes
        exact ⟨_, ⟨_, (position_of_eq_ok_iff _ _ _ 1 _).mpr start, _,
          (length_of_eq_ok_iff _ _ _ _).mpr size, rfl⟩, start.2, one_le_of_reads_length size,
          .replace content.text⟩
  | move side target =>
      simp only [numbersOf, bind_eq_ok_iff]
      constructor
      · intro given
        rcases given with ⟨body, ⟨_, start, _, size, _, reached, made⟩, _, _, makes⟩
        cases made
        cases makes with
        | move _ least =>
            exact ⟨(position_of_eq_ok_iff _ _ _ 1 _).mp start,
              (length_of_eq_ok_iff _ _ _ _).mp size,
              .move side ((position_of_eq_ok_iff _ _ _ 1 _).mp reached)⟩
      · intro given
        rcases given with ⟨start, size, writes⟩
        cases writes with
        | move _ reads =>
            exact ⟨_, ⟨_, (position_of_eq_ok_iff _ _ _ 1 _).mpr start, _,
              (length_of_eq_ok_iff _ _ _ _).mpr size, _,
              (position_of_eq_ok_iff _ _ _ 1 _).mpr reads, rfl⟩, start.2,
              one_le_of_reads_length size, .move side reads.2⟩
  | swap other first second =>
      simp only [numbersOf, bind_eq_ok_iff]
      constructor
      · intro given
        rcases given with
          ⟨body, ⟨_, start, _, size, _, otherStart, _, otherSize, made⟩, _, _, makes⟩
        cases made
        cases makes with
        | swap _ leastStart leastLength =>
            exact ⟨(position_of_eq_ok_iff _ _ _ 1 _).mp start,
              (length_of_eq_ok_iff _ _ _ _).mp size,
              .swap other ((position_of_eq_ok_iff _ _ _ 1 _).mp otherStart)
                ((length_of_eq_ok_iff _ _ _ _).mp otherSize)⟩
      · intro given
        rcases given with ⟨start, size, writes⟩
        cases writes with
        | swap _ otherStart otherSize =>
            exact ⟨_, ⟨_, (position_of_eq_ok_iff _ _ _ 1 _).mpr start, _,
              (length_of_eq_ok_iff _ _ _ _).mpr size, _,
              (position_of_eq_ok_iff _ _ _ 1 _).mpr otherStart, _,
              (length_of_eq_ok_iff _ _ _ _).mpr otherSize, rfl⟩, start.2,
              one_le_of_reads_length size,
              .swap (textOf other) otherStart.2 (one_le_of_reads_length otherSize)⟩

/-- A form that has been found makes an operation exactly if its parts do. -/
theorem form_makes_iff (kind : Kind) (text : Text) (found : Match) (operation : Operation) :
    draftOf text found >>= assemble kind text = .ok operation ↔
      found.Writes (note? text) (tags text) operation := by
  simp only [bind_eq_ok_iff, draft_of_eq_ok_iff, assemble_eq_ok_iff]
  constructor
  · intro given
    rcases given with ⟨draft, ⟨start, length, body, numbers, rfl⟩, makes⟩
    rw [draft_makes_iff] at makes
    rcases makes with ⟨described, ⟨rfl, least⟩, ⟨rfl, some⟩, noted, ⟨tagged, words⟩, made⟩
    rcases (numbers_make_iff found operation.span operation.action).mp
      ⟨body, numbers, least, some, made⟩ with ⟨reads, size, writes⟩
    exact ⟨described, reads, size, noted, words, tagged.symm, writes⟩
  · intro given
    rcases given with ⟨described, reads, size, noted, words, tagged, writes⟩
    rcases (numbers_make_iff found operation.span operation.action).mpr
      ⟨reads, size, writes⟩ with ⟨body, numbers, least, some, made⟩
    refine ⟨_, ⟨_, _, body, numbers, rfl⟩, ?_⟩
    rw [draft_makes_iff]
    exact ⟨described, ⟨rfl, least⟩, ⟨rfl, some⟩, noted, ⟨tagged.symm, words⟩, made⟩

theorem parse_kind_eq_ok_iff (kind : Kind) (text : Text) (operation : Operation) :
    parseKind kind text = .ok operation ↔
      ∃ found, find? kind (maskAnnotations text) = some found ∧
        found.Writes (note? text) (tags text) operation := by
  unfold parseKind
  cases find? kind (maskAnnotations text) with
  | none => simp
  | some found => simp [form_makes_iff]

theorem present_eq_ok_iff (text : Option Text) (there : Text) :
    present text = .ok there ↔ text = some there ∧ Text.strip there ≠ [] := by
  cases text with
  | none => simp [present]
  | some given =>
      by_cases blank : Text.strip given = []
      · simp only [present, blank, List.isEmpty_nil, if_true, reduceCtorEq, false_iff, not_and]
        intro same
        cases same
        exact fun filled => filled blank
      · have filled : (Text.strip given).isEmpty = false := by
          simpa using blank
        simp only [present, filled, Bool.false_eq_true, if_false, Except.ok.injEq,
          Option.some.injEq]
        constructor
        · intro same
          subst same
          exact ⟨rfl, blank⟩
        · intro given
          rcases given with ⟨rfl, _⟩
          rfl

theorem detect_eq_ok_iff (text : Text) (kind : Kind) :
    detect text = .ok kind ↔ detect? text = some kind := by
  unfold detect
  cases detect? text <;> simp

/-- What is logged does not change how a reading ends. -/
theorem parse_outcome (text : Option Text) :
    (Operation.parse text).outcome =
      present text >>= fun given => detect given >>= fun kind => parseKind kind given := by
  simp only [Operation.parse, Traced.outcome_bind, Traced.outcome_ofExcept, Traced.outcome_log,
    Traced.outcome_pure]
  cases present text with
  | error failure => rfl
  | ok given =>
      change detect given >>= _ = detect given >>= _
      cases detect given with
      | error failure => rfl
      | ok kind =>
          change parseKind kind given >>= _ = parseKind kind given
          cases parseKind kind given <;> rfl

/-- What has to hold of a text for it to be read as an operation. -/
theorem parse_eq_ok_iff (text : Text) (operation : Operation) :
    (Operation.parse (some text)).outcome = .ok operation ↔
      Text.strip text ≠ [] ∧ ∃ kind, detect? text = some kind ∧
        ∃ found, find? kind (maskAnnotations text) = some found ∧
          found.Writes (note? text) (tags text) operation := by
  simp only [parse_outcome, bind_eq_ok_iff, present_eq_ok_iff, detect_eq_ok_iff,
    parse_kind_eq_ok_iff]
  constructor
  · intro given
    rcases given with ⟨_, ⟨same, filled⟩, kind, detected, found, there, writes⟩
    cases same
    exact ⟨filled, kind, detected, found, there, writes⟩
  · intro given
    rcases given with ⟨filled, kind, detected, found, there, writes⟩
    exact ⟨text, ⟨rfl, filled⟩, kind, detected, found, there, writes⟩

end Grammar

end EditScript
