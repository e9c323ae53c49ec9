import EditScript.Proofs.FieldChecks
import Mathlib.Algebra.Ring.Int.Defs

/-!
# How building an operation ends

The fields of a kind are checked in the order in which they are declared. So the first number
that is too small ends the building, whatever else is at fault; without one the faults of all
fields are told, in that order; and without any the operation holds what its fields are given.
-/

namespace EditScript

set_option autoImplicit false

open Json

/-- The parts of an action are those that the fields of its kind hold. -/
def Action.TakenFrom (kind : Kind) (members : Members) : Action → Prop
  | .delete => True
  | .insert _ text => Field.insertedText.value? kind members = some (.string text)
  | .replace text => Field.replacementText.value? kind members = some (.string text)
  | .move _ target => Field.target.Counts kind members target
  | .swap other described =>
    Field.secondPosition.Counts kind members other.start ∧
      Field.secondLength.Counts kind members other.length ∧
      ∃ told, Field.secondDescribed.Tells kind members told ∧ described = describing told

/-- An operation holds what its fields are given. Only numbers are converted, an empty
description is none, and a note is trimmed. -/
structure Operation.TakenFrom (kind : Kind) (members : Members) (operation : Operation) :
    Prop where
  own : operation.kind = kind
  described : ∃ told, Field.described.Tells kind members told ∧
    operation.described = describing told
  start : Field.position.Counts kind members operation.span.start
  length : Field.length.Counts kind members operation.span.length
  note : ∃ told, Field.note.Tells kind members told ∧ operation.note = annotating told
  tags : Field.tags.value? kind members = some (.array (operation.tags.map .string))
  action : operation.action.TakenFrom kind members

namespace Kind

/-- The fields that not every kind has, with the kind itself among them. -/
def ownFields : Kind → List Field
  | .delete => [.kind]
  | .insert _ => [.kind, .insertedText]
  | .replace => [.kind, .replacementText]
  | .move _ => [.target, .kind]
  | .swap => [.kind, .secondPosition, .secondLength, .secondDescribed]

theorem fields_eq (kind : Kind) :
    kind.fields = [.described, .position, .length, .note, .tags] ++ kind.ownFields := by
  cases kind <;> rfl

/-- The faults of all fields, in the order in which they are declared. -/
def faults (kind : Kind) (members : Members) : List FieldFault :=
  kind.fields.flatMap (Field.faults kind members)

end Kind

/-! ### What building comes to -/

section

variable (kind : Kind) (members : Members)

/-- The fields that only some kinds have. -/
theorem reports_action :
    Check.Reports (fun action => action.kind = kind ∧ action.TakenFrom kind members)
      (Draft.ofMembers kind members).action
      (kind.ownFields.flatMap fun field => (field.rangeFault? kind members).toList)
      (kind.ownFields.flatMap (Field.faults kind members)) := by
  have named := @Field.reports_named kind members
  cases kind with
  | delete =>
      simp only [Kind.ownFields, List.flatMap_cons, List.flatMap_nil, List.append_nil]
      exact named.map fun _ _ => ⟨rfl, trivial⟩
  | insert side =>
      simp only [Kind.ownFields, List.flatMap_cons, List.flatMap_nil, List.append_nil]
      have content := @Field.reports_content (.insert side) members .insertedText rfl rfl
        fun _ => rfl
      exact (named.both content).map fun _ both => ⟨rfl, both.2⟩
  | replace =>
      simp only [Kind.ownFields, List.flatMap_cons, List.flatMap_nil, List.append_nil]
      have content := @Field.reports_content .replace members .replacementText rfl rfl fun _ => rfl
      exact (named.both content).map fun _ both => ⟨rfl, both.2⟩
  | move side =>
      simp only [Kind.ownFields, List.flatMap_cons, List.flatMap_nil, List.append_nil]
      have target := @Field.reports_required_number (.move side) members .target .target rfl rfl rfl
        fun _ => rfl
      exact (target.both named).map fun _ both => ⟨rfl, both.1⟩
  | swap =>
      simp only [Kind.ownFields, List.flatMap_cons, List.flatMap_nil, List.append_nil]
      have start := @Field.reports_required_number .swap members .secondPosition .secondPosition
        rfl rfl rfl fun _ => rfl
      have length := @Field.reports_optional_number .swap members .secondLength .secondLength
        rfl rfl rfl fun _ => rfl
      have told := @Field.reports_told .swap members .secondDescribed describing rfl rfl
        fun _ => rfl
      exact (named.both (start.both (length.both told))).map fun _ all => ⟨rfl, all.2⟩

/-- All fields, in the order in which they are declared. -/
theorem reports_operation :
    Check.Reports (Operation.TakenFrom kind members) (Operation.ofMembers kind members)
      (kind.fields.flatMap fun field => (field.rangeFault? kind members).toList)
      (kind.faults members) := by
  have described := @Field.reports_told kind members .described describing rfl rfl fun _ => rfl
  have start := @Field.reports_required_number kind members .position .position rfl rfl rfl
    fun _ => rfl
  have length := @Field.reports_optional_number kind members .length .length rfl rfl rfl
    fun _ => rfl
  have note := @Field.reports_told kind members .note annotating rfl rfl fun _ => rfl
  have tags := @Field.reports_tagged kind members
  have whole := described.both (start.both (length.both (note.both (tags.both
    (reports_action kind members)))))
  rw [Kind.faults, Kind.fields_eq, List.flatMap_append, List.flatMap_append]
  simp only [List.flatMap_cons, List.flatMap_nil, List.append_nil, List.append_assoc]
  rw [Operation.ofMembers, Draft.operation]
  have least : (Draft.ofMembers kind members).body.kind.leastPosition =
      Coordinate.position.least kind := by
    change (Draft.Body.ofMembers kind members).kind.leastPosition = _
    rw [Operation.body_kind]
    rfl
  rw [least]
  refine whole.map ?_
  rintro ⟨_, _, _, _, _, action⟩ ⟨described, start, length, note, tags, own, parts⟩
  exact ⟨own, described, start, length, note, tags, parts⟩

/-- The faults that are told are about exactly those fields of the kind that are at fault. -/
theorem Kind.listed_iff (field : Field) :
    (∃ fault ∈ kind.faults members, fault.field = field) ↔
      field ∈ kind.fields ∧ field.faults kind members ≠ [] := by
  constructor
  · rintro ⟨fault, member, rfl⟩
    obtain ⟨field, declared, own⟩ := List.mem_flatMap.mp member
    rw [(Field.faults_alone fault own).1]
    exact ⟨declared, List.ne_nil_of_mem own⟩
  · rintro ⟨declared, some⟩
    obtain ⟨fault, own⟩ := List.exists_mem_of_ne_nil _ some
    exact ⟨fault, List.mem_flatMap.mpr ⟨field, declared, own⟩, (Field.faults_alone fault own).1⟩

/-- What the faults of the fields tell about the values that they are given. -/
structure FaultsTold : Prop where
  /-- A field is out of range exactly if it is given a number below the least one, short enough
  to be named. The fault carries that number. -/
  range : ∀ (field : Field) (fault : RangeFault), field.rangeFault? kind members = some fault ↔
    ∃ which number, field.coordinate? = some which ∧
      (∃ given ∈ field.value? kind members, field.wholeNumber given = .valid number) ∧
      number < which.least kind ∧ Numeral.writable number = true ∧
      fault = .tooSmall which (which.least kind) number
  /-- The fields that are told about are the fields of the kind that are at fault. -/
  listed : ∀ field : Field, (∃ fault ∈ kind.faults members, fault.field = field) ↔
    field ∈ kind.fields ∧ field.faults kind members ≠ []
  /-- A field is told about once, unless it is a list of tags. -/
  alone : ∀ field : Field, field.Alone (field.faults kind members)
  /-- A field that may be left out is not at fault then. -/
  left : ∀ (field : Field) (default : Value), field.default? kind = some default →
    field.faultsOf kind default = [] ∧ field.belowLeast? kind default = none

theorem faults_told : FaultsTold kind members where
  range := fun _ _ => Field.range_fault_iff
  listed := Kind.listed_iff kind members
  alone := fun _ => Field.faults_alone
  left := fun _ _ => Field.default_passes

/-- How building an operation from the values of its fields ends. -/
structure BuildingEnds (named : Option Kind) (outcome : Except Failure Operation) : Prop where
  /-- The first number that is too small ends it, whatever else is at fault. -/
  range : ∀ fault, kind.fields.findSome? (Field.rangeFault? kind members) = some fault →
    outcome = .error (.range fault none)
  /-- Without one, all faults of fields are told. -/
  faulty : kind.fields.findSome? (Field.rangeFault? kind members) = none →
    kind.faults members ≠ [] → outcome = .error (.fields named (kind.faults members))
  /-- Without these, there is an operation, and it holds what the fields are given. -/
  made : kind.fields.findSome? (Field.rangeFault? kind members) = none →
    kind.faults members = [] →
      ∃ operation, outcome = .ok operation ∧ operation.TakenFrom kind members

theorem first_range_fault :
    (kind.fields.flatMap fun field => (field.rangeFault? kind members).toList).head? =
      kind.fields.findSome? (Field.rangeFault? kind members) := by
  rw [List.head?_flatMap]
  apply congrArg (List.findSome? · kind.fields)
  funext field
  cases field.rangeFault? kind members <;> rfl

theorem building_ends_of_members (named : Option Kind) :
    BuildingEnds kind members named ((Operation.ofMembers kind members).toExcept named) := by
  obtain ⟨range, faulty, made⟩ := (reports_operation kind members).ends named
  rw [first_range_fault] at range faulty made
  exact ⟨range, faulty, made⟩

/-- Building ends in the same way from the fields of a kind that is known beforehand, and from
data that names its kind; only the faults of fields are told with the kind in the second case.
The faults are those of the fields that are at fault, each of them once. -/
theorem Operation.building_ends :
    BuildingEnds kind members none (construct kind members) ∧
      (Kind.ofData members = .ok kind →
        BuildingEnds kind members (some kind) (ofData members)) ∧
      FaultsTold kind members := by
  refine ⟨building_ends_of_members kind members none, fun named => ?_, faults_told kind members⟩
  rw [ofData, named]
  exact building_ends_of_members kind members (some kind)

end

/-- Members of a move, all of which can be taken. -/
def moveMembers : Members :=
  [Operation.member .kind (.string "move_before".toList),
    Operation.member .position (.string " 2 ".toList), Operation.member .length (.bool true),
    Operation.member .described (.string []), Operation.member .note (.string " n ".toList),
    Operation.member .target (.integer 4)]

/-- The same, with a number among the tags, a null and no target. -/
def faultyMembers : Members :=
  Operation.member .tags (.array [.string "a".toList, .integer 3, .null]) ::
    Operation.member .note (.bool false) :: moveMembers.dropLast

/-- The same, with a position and a target that are too small. -/
def smallMembers : Members :=
  [Operation.member .target (.integer 0), Operation.member .position (.integer (-1))] ++
    faultyMembers

theorem move_members_end :
    Operation.construct (.move .before) smallMembers =
        .error (.range (.tooSmall .position 1 (-1)) none) ∧
      Operation.ofData faultyMembers =
        .error (.fields (some (.move .before))
          [⟨.note, none, .notText⟩, ⟨.tags, some 1, .notText⟩, ⟨.tags, some 2, .notText⟩,
            ⟨.target, none, .missing⟩]) ∧
      ∃ operation, Operation.ofData moveMembers = .ok operation ∧
        operation.TakenFrom (.move .before) moveMembers := by
  refine ⟨?_, ?_, ?_⟩
  · exact (Operation.building_ends (.move .before) smallMembers).1.range _
      (by with_unfolding_all rfl)
  · have named : Kind.ofData faultyMembers = .ok (.move .before) := by
      with_unfolding_all rfl
    have ends := (Operation.building_ends (.move .before) faultyMembers).2.1 named
    exact ends.faulty (by with_unfolding_all rfl) (by with_unfolding_all nofun)
  · have named : Kind.ofData moveMembers = .ok (.move .before) := by
      with_unfolding_all rfl
    have ends := (Operation.building_ends (.move .before) moveMembers).2.1 named
    exact ends.made (by with_unfolding_all rfl) (by with_unfolding_all rfl)

/-- A position that is too small and too long to be named. -/
theorem long_number_refused {number : Int} (small : number < 1)
    (long : Numeral.writable number = false) :
    Operation.construct .delete [Operation.member .position (.integer number)] =
      .error (.fields none [⟨.position, none, .unwritable⟩]) := by
  let members := [Operation.member .position (.integer number)]
  have unwritten : ¬Numeral.writable number = true := by
    rw [long]
    exact Bool.false_ne_true
  have position : Field.position.faults .delete members = [⟨.position, none, .unwritable⟩] :=
    if_pos ⟨small, unwritten⟩
  have within : Field.position.rangeFault? .delete members = none :=
    if_neg fun both => unwritten both.2
  have all : Kind.faults .delete members = [⟨.position, none, .unwritable⟩] := by
    change Field.position.faults .delete members ++ [] = _
    rw [position, List.append_nil]
  have none : Kind.delete.fields.findSome? (Field.rangeFault? .delete members) = none := by
    rw [List.findSome?_eq_none_iff]
    change ∀ field ∈ [Field.described, .position, .length, .note, .tags, .kind], _
    simp only [List.forall_mem_cons]
    exact ⟨rfl, within, rfl, rfl, rfl, rfl, List.forall_mem_nil _⟩
  have ends := (building_ends_of_members .delete members Option.none).faulty none
  rw [all] at ends
  exact ends (List.cons_ne_nil _ _)

theorem power_below : -10 ^ Numeral.digitLimit < (1 : Int) := by
  have positive : (0 : Int) < 10 ^ Numeral.digitLimit := Int.pow_pos (by decide)
  exact Int.lt_trans (Int.neg_neg_of_pos positive) Int.one_pos

theorem power_not_writable : Numeral.writable (-10 ^ Numeral.digitLimit) = false := by
  have ten : (10 : Int).natAbs = 10 := rfl
  rw [Numeral.writable, decide_eq_false_iff_not, Int.natAbs_neg, Int.natAbs_pow, Numeral.decimal,
    Nat.length_toDigits_le_iff (by decide) (by decide), ten]
  exact Nat.lt_irrefl _

/-- Two tags with blanks in them are two bad items, but only the first one is told. And a number
that is too small is a fault of its field and no range fault, if it is too long to be written. -/
theorem building_tells_less :
    Operation.construct .delete
        [Operation.member .position (.integer 1),
          Operation.member .tags (.array [.string "a b".toList, .string "c d".toList])] =
      .error (.fields none [⟨.tags, none, .invalidTag "a b".toList⟩]) ∧
    Operation.construct .delete
        [Operation.member .position (.integer (-10 ^ Numeral.digitLimit))] =
      .error (.fields none [⟨.position, none, .unwritable⟩]) := by
  refine ⟨?_, long_number_refused power_below power_not_writable⟩
  with_unfolding_all rfl

end EditScript
