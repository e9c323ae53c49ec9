import EditScript.Proofs.Dump

/-!
# What the checks of fields come to

Every field of a kind has a value to be checked, the one that is given for it or its default.
A check comes to a range fault, to faults of the field or to a part of an operation; and checks
in a row come to the first range fault, or else to all faults of fields in their order, or else
to all parts. A field that holds a number is out of range if the number is too small and can be
named in a message; every other fault is one of its field, and it is told with the field.
-/

namespace EditScript

set_option autoImplicit false

open Json

/-! ### Checks in a row -/

namespace Check

variable {α β : Type} {first : Check α} {next : Check β} {ranges others : List RangeFault}
  {faults more : List FieldFault} {Holds : α → Prop} {Also : β → Prop}

/-- A check comes to the first of some range faults. Without one it comes to all of some faults
of fields, and without those to a value of which something holds. -/
inductive Reports (Holds : α → Prop) : Check α → List RangeFault → List FieldFault → Prop
  | range (fault : RangeFault) (later : List RangeFault) (faults : List FieldFault) :
      Reports Holds (.outOfRange fault) (fault :: later) faults
  | fields (first : FieldFault) (others : List FieldFault) :
      Reports Holds (.invalid first others) [] (first :: others)
  | value {value : α} (holds : Holds value) : Reports Holds (.valid value) [] []

theorem Reports.map {function : α → β} (reports : Reports Holds first ranges faults)
    (passes : ∀ value, Holds value → Also (function value)) :
    Reports Also (first.map function) ranges faults := by
  cases reports with
  | range fault later faults => exact .range fault later faults
  | fields fault others => exact .fields fault others
  | value holds => exact .value (passes _ holds)

theorem Reports.weaken {Weaker : α → Prop} (reports : Reports Holds first ranges faults)
    (passes : ∀ value, Holds value → Weaker value) : Reports Weaker first ranges faults := by
  cases reports with
  | range fault later faults => exact .range fault later faults
  | fields fault others => exact .fields fault others
  | value holds => exact .value (passes _ holds)

/-- Of two checks in a row, the faults of the first one come first. -/
theorem Reports.both (left : Reports Holds first ranges faults)
    (right : Reports Also next others more) :
    Reports (fun pair => Holds pair.1 ∧ Also pair.2) (first.both next) (ranges ++ others)
      (faults ++ more) := by
  cases left with
  | range fault later faults => exact .range fault (later ++ others) (faults ++ more)
  | fields fault tail =>
      cases right with
      | range range later _ => exact .range range later _
      | fields other later => exact .fields fault (tail ++ other :: later)
      | value _ =>
          rw [List.append_nil, List.append_nil]
          exact .fields fault tail
  | value holds =>
      cases right with
      | range range later more => exact .range range later more
      | fields other later => exact .fields other later
      | value also => exact .value ⟨holds, also⟩

theorem Reports.ends (reports : Reports Holds first ranges faults) (named : Option Kind) :
    (∀ fault, ranges.head? = some fault → first.toExcept named = .error (.range fault none)) ∧
      (ranges.head? = none → faults ≠ [] →
        first.toExcept named = .error (.fields named faults)) ∧
      (ranges.head? = none → faults = [] →
        ∃ value, first.toExcept named = .ok value ∧ Holds value) := by
  cases reports with
  | range fault later faults =>
      refine ⟨?_, nofun, nofun⟩
      rintro _ ⟨⟩
      rfl
  | fields fault others => exact ⟨nofun, fun _ _ => rfl, nofun⟩
  | value holds => exact ⟨nofun, fun _ some => absurd rfl some, fun _ _ => ⟨_, rfl, holds⟩⟩

end Check

/-! ### What is checked of a field -/

def Coordinate.least (kind : Kind) : Coordinate → Nat
  | .position => kind.leastPosition
  | _ => 1

namespace Field

/-- The coordinate that a field holds, if it holds a number. -/
def coordinate? : Field → Option Coordinate
  | .position => some .position
  | .length => some .length
  | .target => some .target
  | .secondPosition => some .secondPosition
  | .secondLength => some .secondLength
  | _ => none

/-- What stands for a field that is left out; some fields may not be. -/
def default? (kind : Kind) : Field → Option Value
  | .described | .note | .secondDescribed => some .null
  | .length | .secondLength => some (.integer 1)
  | .tags => some (.array [])
  | .kind => some (.string kind.name.toList)
  | .position | .target | .secondPosition | .insertedText | .replacementText => none

/-- The value of a field that is checked. -/
def value? (kind : Kind) (members : Members) (field : Field) : Option Value :=
  (lookup? field.name.toList members).or (field.default? kind)

/-- The whole number that a value of a field passes for. -/
def integer? (field : Field) (given : Value) : Option Int :=
  match field.wholeNumber given with
  | .valid number => some number
  | _ => none

/-- The fault of a value that passes for a number below the least one. -/
def belowLeast? (kind : Kind) (field : Field) (given : Value) : Option RangeFault :=
  match field.coordinate?, field.integer? given with
  | some which, some number =>
    if number < which.least kind ∧ Numeral.writable number then
      some (.tooSmall which (which.least kind) number)
    else none
  | _, _ => none

/-- The faults of the type of a number. A number that is too small and too long to be named in a
message counts among them. -/
def numberFaults (least : Nat) (field : Field) (given : Value) : List FieldFault :=
  match field.wholeNumber given with
  | .valid number =>
    if number < least ∧ ¬Numeral.writable number then [⟨field, none, .unwritable⟩] else []
  | .invalid first others => first :: others
  | .outOfRange _ => []

def optionalTextFaults (field : Field) : Value → List FieldFault
  | .string _ | .null => []
  | _ => [⟨field, none, .notText⟩]

def textFaults (field : Field) : Value → List FieldFault
  | .string _ => []
  | _ => [⟨field, none, .notText⟩]

def text? : Value → Option Text
  | .string text => some text
  | _ => none

/-- The faults of the items of a list that are no texts, one for each. -/
def wrongItems (items : List Value) : List FieldFault :=
  (items.zipIdx.filter fun entry => (text? entry.1).isNone).map
    fun entry => ⟨.tags, some entry.2, .notText⟩

/-- The faults of a list of tags: all items that are no texts, or else the first text that is no
tag. -/
def tagFaults : Value → List FieldFault
  | .array items =>
    if wrongItems items = [] then
      ((items.filterMap text?).find? fun tag => !isTag tag).toList.map
        fun tag => ⟨.tags, none, .invalidTag tag⟩
    else wrongItems items
  | _ => [⟨.tags, none, .notList⟩]

/-- The faults of a value of a field, in their order. -/
def faultsOf (kind : Kind) (field : Field) (given : Value) : List FieldFault :=
  match field with
  | .described | .note | .secondDescribed => optionalTextFaults field given
  | .insertedText | .replacementText => textFaults field given
  | .position => numberFaults kind.leastPosition .position given
  | .length | .target | .secondPosition | .secondLength => numberFaults 1 field given
  | .tags => tagFaults given
  | .kind => if text? given = some kind.name.toList then [] else [⟨.kind, none, .otherKind kind⟩]

/-- The range fault of a field, if it is given a number that is too small. -/
def rangeFault? (kind : Kind) (members : Members) (field : Field) : Option RangeFault :=
  (field.value? kind members).bind (field.belowLeast? kind)

/-- The faults of a field. -/
def faults (kind : Kind) (members : Members) (field : Field) : List FieldFault :=
  match field.value? kind members with
  | none => [⟨field, none, .missing⟩]
  | some given => field.faultsOf kind given

/-! ### What the check of a field comes to -/

section

variable {α : Type} {kind : Kind} {members : Members} {field : Field} {given : Value}

/-- A check of the value of a field, which may be asked for and left out. -/
def checked (field : Field) (read : Value → Check α) : Option Value → Check α
  | none => .refuse field .missing
  | some given => read given

theorem required_eq_checked (read : Value → Check α) (asked : field.default? kind = none) :
    field.required read members = field.checked read (field.value? kind members) := by
  rw [required, value?, asked, Option.or_none]
  cases lookup? field.name.toList members <;> rfl

theorem optional_eq_checked {absent : α} {read : Value → Check α} {default : Value}
    (left : field.default? kind = some default) (passes : read default = .valid absent) :
    field.optional absent read members = field.checked read (field.value? kind members) := by
  rw [optional, value?, left]
  cases lookup? field.name.toList members with
  | none => exact passes.symm
  | some given => rfl

theorem map_checked {β : Type} (function : α → β) (read : Value → Check α) (value : Option Value) :
    (field.checked read value).map function =
      field.checked (fun given => (read given).map function) value := by
  cases value <;> rfl

theorem and_then_checked {β : Type} (next : α → Check β) (read : Value → Check α)
    (value : Option Value) :
    (field.checked read value).andThen next =
      field.checked (fun given => (read given).andThen next) value := by
  cases value <;> rfl

/-- A field is at fault as its value is, and if it is asked for and left out. -/
theorem reports_checked {read : Value → Check α} {Holds : Value → α → Prop}
    (reports : ∀ given, Check.Reports (Holds given) (read given)
      (field.belowLeast? kind given).toList (field.faultsOf kind given)) :
    Check.Reports (fun value => ∃ given ∈ field.value? kind members, Holds given value)
      (field.checked read (field.value? kind members))
      (field.rangeFault? kind members).toList (field.faults kind members) := by
  rw [rangeFault?, faults]
  cases field.value? kind members with
  | none => exact .fields _ []
  | some given => exact (reports given).weaken fun value holds => ⟨given, rfl, holds⟩

theorem reports_text_or_null (field : Field) (given : Value) :
    Check.Reports (fun text => given = ofText? text) (field.textOrNull given) []
      (field.optionalTextFaults given) := by
  cases given with
  | null =>
      have same : Value.null = ofText? none := rfl
      exact .value same
  | string text =>
      have same : Value.string text = ofText? (some text) := rfl
      exact .value same
  | _ => exact .fields _ []

theorem reports_text (field : Field) (given : Value) :
    Check.Reports (fun text => given = .string text) (field.text given) []
      (field.textFaults given) := by
  cases given with
  | string text => exact .value rfl
  | _ => exact .fields _ []

/-- A value passes for a number, or it is refused for one reason. -/
theorem whole_number_ends (field : Field) (given : Value) :
    (∃ number, field.wholeNumber given = .valid number) ∨
      ∃ problem, field.wholeNumber given = .refuse field problem := by
  unfold wholeNumber
  split
  · exact .inl ⟨_, rfl⟩
  · exact .inl ⟨_, rfl⟩
  · split
    · exact .inr ⟨_, rfl⟩
    · split
      · exact .inr ⟨_, rfl⟩
      · split
        · exact .inl ⟨_, rfl⟩
        · exact .inr ⟨_, rfl⟩
  · split
    · exact .inl ⟨_, rfl⟩
    · exact .inr ⟨_, rfl⟩
    · exact .inr ⟨_, rfl⟩
  · exact .inr ⟨_, rfl⟩

theorem reports_number {which : Coordinate} (holds : field.coordinate? = some which)
    (own : which.field = field) (given : Value) :
    Check.Reports (fun number : Nat => field.wholeNumber given = .valid (number : Int))
      ((field.wholeNumber given).andThen (coordinate which (which.least kind)))
      (field.belowLeast? kind given).toList (numberFaults (which.least kind) field given) := by
  rw [belowLeast?, numberFaults, holds, integer?]
  rcases field.whole_number_ends given with ⟨number, passes⟩ | ⟨problem, refused⟩
  · rw [passes]
    simp only [Check.andThen, coordinate]
    by_cases enough : (which.least kind : Int) ≤ number
    · have within : ¬number < which.least kind := Int.not_lt.mpr enough
      have natural : ((number.toNat : Nat) : Int) = number := by omega
      rw [if_pos enough, if_neg fun both => within both.1, if_neg fun both => within both.1]
      exact .value (congrArg Check.valid natural.symm)
    · have below : number < which.least kind := Int.not_le.mp enough
      by_cases written : Numeral.writable number = true
      · rw [if_neg enough, if_pos written, if_pos ⟨below, written⟩,
          if_neg fun both => both.2 written]
        exact .range _ [] []
      · rw [if_neg enough, if_neg written, if_neg fun both => written both.2,
          if_pos ⟨below, written⟩, own]
        exact .fields _ []
  · rw [refused]
    exact .fields _ []

theorem item_faults_eq (index : Nat) (items : List Value) :
    itemFaults .tags index items =
      ((items.zipIdx index).filter fun entry => (text? entry.1).isNone).map
        fun entry => ⟨.tags, some entry.2, .notText⟩ := by
  induction items generalizing index with
  | nil => rfl
  | cons item rest induction =>
      have later := induction (index + 1)
      cases item <;> simp [itemFaults, List.zipIdx_cons, text?, later]

theorem texts_of_no_faults {index : Nat} {items : List Value}
    (fine : itemFaults .tags index items = []) : items = (items.filterMap text?).map .string := by
  induction items generalizing index with
  | nil => rfl
  | cons item rest induction =>
      cases item with
      | string text => exact congrArg (Value.string text :: ·) (induction fine)
      | _ => cases fine

theorem reports_tags (given : Value) :
    Check.Reports (fun tags => given = .array (tags.map .string))
      ((Field.tags.textList given).andThen taggedWith) [] (tagFaults given) := by
  cases given with
  | array items =>
      have told : wrongItems items = itemFaults .tags 0 items := (item_faults_eq 0 items).symm
      rw [tagFaults, told]
      cases wrong : itemFaults .tags 0 items with
      | cons first others =>
          simp only [textList, wrong, Check.andThen]
          exact .fields first others
      | nil =>
          have read : Field.tags.textList (.array items) = .valid (items.filterMap text?) := by
            simp only [textList, wrong]
            rfl
          rw [read, Check.andThen, taggedWith, if_pos rfl]
          cases (items.filterMap text?).find? fun tag => !isTag tag with
          | none => exact .value (congrArg Value.array (texts_of_no_faults wrong))
          | some tag => exact .fields _ []
  | _ => exact .fields _ []

theorem reports_kind (kind : Kind) (given : Value) :
    Check.Reports (fun _ => True) (kindNamed kind given) []
      (if text? given = some kind.name.toList then [] else [⟨.kind, none, .otherKind kind⟩]) := by
  cases given with
  | string name =>
      rw [kindNamed, text?]
      by_cases same : name = kind.name.toList
      · rw [if_pos same, if_pos (congrArg some same)]
        exact .value trivial
      · rw [if_neg same, if_neg fun named => same (Option.some.inj named)]
        exact .fields _ []
  | _ => exact .fields _ []

end

/-! ### How the faults of a field are told -/

section

variable {kind : Kind} {members : Members} {field : Field} {given : Value}

/-- A field that is left out is not at fault. -/
theorem default_passes {default : Value} (left : field.default? kind = some default) :
    field.faultsOf kind default = [] ∧ field.belowLeast? kind default = none := by
  cases field with
  | described | note | secondDescribed | length | secondLength | tags =>
      cases left
      exact ⟨rfl, rfl⟩
  | kind =>
      cases left
      exact ⟨if_pos rfl, rfl⟩
  | position | target | secondPosition | insertedText | replacementText => cases left

/-- A field has a range fault exactly if it is given a number below the least one, short enough
to be named. The fault carries that number. -/
theorem range_fault_iff {fault : RangeFault} :
    field.rangeFault? kind members = some fault ↔
      ∃ which number, field.coordinate? = some which ∧
        (∃ given ∈ field.value? kind members, field.wholeNumber given = .valid number) ∧
        number < which.least kind ∧ Numeral.writable number = true ∧
        fault = .tooSmall which (which.least kind) number := by
  constructor
  · intro found
    obtain ⟨given, present, below⟩ := Option.bind_eq_some_iff.mp found
    unfold belowLeast? at below
    split at below
    · next which number holds passes =>
        split at below
        · next both =>
            cases below
            unfold integer? at passes
            split at passes
            · next read =>
                cases passes
                exact ⟨which, _, holds, ⟨given, present, read⟩, both.1, both.2, rfl⟩
            · cases passes
        · cases below
    · cases below
  · rintro ⟨which, number, holds, ⟨given, present, read⟩, below, written, rfl⟩
    rw [rangeFault?, present, Option.bind_some, belowLeast?, integer?, read, holds]
    exact if_pos ⟨below, written⟩

/-- A fault is about its field, and only a list of tags can have several. -/
def Alone (field : Field) (faults : List FieldFault) : Prop :=
  ∀ fault ∈ faults, fault.field = field ∧ (field = .tags ∨ faults = [fault])

theorem alone_nil : field.Alone [] :=
  List.forall_mem_nil _

theorem alone_single (problem : FieldProblem) : field.Alone [⟨field, none, problem⟩] :=
  List.forall_mem_singleton.mpr ⟨rfl, .inr rfl⟩

theorem number_faults_alone (least : Nat) : field.Alone (numberFaults least field given) := by
  unfold numberFaults
  rcases field.whole_number_ends given with ⟨number, passes⟩ | ⟨problem, refused⟩
  · rw [passes]
    dsimp only
    split
    · exact alone_single .unwritable
    · exact alone_nil
  · rw [refused]
    exact alone_single problem

theorem tag_faults_alone : Field.tags.Alone (tagFaults given) := by
  unfold tagFaults
  split
  · split
    · intro fault member
      obtain ⟨tag, _, rfl⟩ := List.mem_map.mp member
      exact ⟨rfl, .inl rfl⟩
    · intro fault member
      obtain ⟨entry, _, rfl⟩ := List.mem_map.mp member
      exact ⟨rfl, .inl rfl⟩
  · exact alone_single .notList

theorem faults_of_alone : field.Alone (field.faultsOf kind given) := by
  cases field with
  | described | note | secondDescribed =>
      cases given with
      | null | string => exact alone_nil
      | _ => exact alone_single .notText
  | insertedText | replacementText =>
      cases given with
      | string => exact alone_nil
      | _ => exact alone_single .notText
  | position | length | target | secondPosition | secondLength => exact number_faults_alone _
  | tags => exact tag_faults_alone
  | kind =>
      unfold faultsOf
      dsimp only
      split
      · exact alone_nil
      · exact alone_single (.otherKind kind)

theorem faults_alone : field.Alone (field.faults kind members) := by
  unfold faults
  split
  · exact alone_single .missing
  · exact faults_of_alone

end

/-! ### What an operation takes from its fields -/

section

variable (kind : Kind) (members : Members) (field : Field)

/-- The value of a field is a text, or null. -/
def Tells (text : Option Text) : Prop :=
  field.value? kind members = some (ofText? text)

/-- The value of a field passes for a number. -/
def Counts (number : Nat) : Prop :=
  ∃ given ∈ field.value? kind members, field.wholeNumber given = .valid (number : Int)

end

section

variable {kind : Kind} {members : Members} {field : Field}

/-- A text that may be left out or null. -/
theorem reports_told (function : Option Text → Option Text)
    (left : field.default? kind = some .null) (other : field.coordinate? = none)
    (faulty : ∀ given, field.faultsOf kind given = field.optionalTextFaults given) :
    Check.Reports (fun text => ∃ told, field.Tells kind members told ∧ text = function told)
      ((field.optional none field.textOrNull members).map function)
      (field.rangeFault? kind members).toList (field.faults kind members) := by
  have each : ∀ given, Check.Reports (fun text => ∃ told, given = ofText? told ∧
      text = function told) ((field.textOrNull given).map function)
        (field.belowLeast? kind given).toList (field.faultsOf kind given) := by
    intro given
    rw [belowLeast?, other, faulty]
    exact (reports_text_or_null field given).map fun told same => ⟨told, same, rfl⟩
  rw [optional_eq_checked left (by rfl), map_checked]
  refine (reports_checked each).weaken ?_
  rintro text ⟨given, present, told, rfl, rfl⟩
  exact ⟨told, present, rfl⟩

/-- A text that is asked for. -/
theorem reports_content (asked : field.default? kind = none) (other : field.coordinate? = none)
    (faulty : ∀ given, field.faultsOf kind given = field.textFaults given) :
    Check.Reports (fun text => field.value? kind members = some (.string text))
      (field.required field.text members)
      (field.rangeFault? kind members).toList (field.faults kind members) := by
  have each : ∀ given, Check.Reports (fun text => given = .string text) (field.text given)
      (field.belowLeast? kind given).toList (field.faultsOf kind given) := by
    intro given
    rw [belowLeast?, other, faulty]
    exact reports_text field given
  rw [required_eq_checked _ asked]
  refine (reports_checked each).weaken ?_
  rintro text ⟨given, present, rfl⟩
  exact present

/-- A number whose field is checked, whether it is asked for or not. -/
theorem reports_counted {which : Coordinate} {taken : Check Int}
    (reads : taken = field.checked field.wholeNumber (field.value? kind members))
    (holds : field.coordinate? = some which) (own : which.field = field)
    (faulty : ∀ given, field.faultsOf kind given = numberFaults (which.least kind) field given) :
    Check.Reports (field.Counts kind members) (taken.andThen (coordinate which (which.least kind)))
      (field.rangeFault? kind members).toList (field.faults kind members) := by
  rw [reads, and_then_checked]
  apply reports_checked
  intro given
  rw [faulty]
  exact reports_number holds own given

theorem reports_tagged :
    Check.Reports
      (fun tags => Field.tags.value? kind members = some (.array (tags.map .string)))
      ((Field.tags.optional [] Field.tags.textList members).andThen taggedWith)
      (Field.tags.rangeFault? kind members).toList (Field.tags.faults kind members) := by
  have each : ∀ given, Check.Reports (fun tags => given = .array (tags.map .string))
      ((Field.tags.textList given).andThen taggedWith)
      (Field.tags.belowLeast? kind given).toList (Field.tags.faultsOf kind given) :=
    reports_tags
  have left : Field.tags.default? kind = some (.array []) := rfl
  rw [optional_eq_checked left (by rfl), and_then_checked]
  refine (reports_checked each).weaken ?_
  rintro tags ⟨given, present, rfl⟩
  exact present

theorem reports_named :
    Check.Reports (fun _ => True) (Field.kind.optional () (kindNamed kind) members)
      (Field.kind.rangeFault? kind members).toList (Field.kind.faults kind members) := by
  have each : ∀ given, Check.Reports (fun _ => True) (kindNamed kind given)
      (Field.kind.belowLeast? kind given).toList (Field.kind.faultsOf kind given) :=
    reports_kind kind
  have left : Field.kind.default? kind = some (.string kind.name.toList) := rfl
  rw [optional_eq_checked left (if_pos rfl)]
  exact (reports_checked each).weaken fun _ _ => trivial

theorem reports_required_number {which : Coordinate} (asked : field.default? kind = none)
    (holds : field.coordinate? = some which) (own : which.field = field)
    (faulty : ∀ given, field.faultsOf kind given = numberFaults (which.least kind) field given) :
    Check.Reports (field.Counts kind members)
      ((field.required field.wholeNumber members).andThen (coordinate which (which.least kind)))
      (field.rangeFault? kind members).toList (field.faults kind members) :=
  reports_counted (required_eq_checked _ asked) holds own faulty

theorem reports_optional_number {which : Coordinate}
    (left : field.default? kind = some (.integer 1)) (holds : field.coordinate? = some which)
    (own : which.field = field)
    (faulty : ∀ given, field.faultsOf kind given = numberFaults (which.least kind) field given) :
    Check.Reports (field.Counts kind members)
      ((field.optional 1 field.wholeNumber members).andThen (coordinate which (which.least kind)))
      (field.rangeFault? kind members).toList (field.faults kind members) :=
  reports_counted (optional_eq_checked left rfl) holds own faulty

end

end Field

end EditScript
