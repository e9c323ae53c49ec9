import EditScript.Proofs.DerivedOperations
import EditScript.Proofs.Dump
import EditScript.Proofs.Matching
import EditScript.Proofs.Stability

/-!
# The operations that there are

An operation comes from a notation, from data, from its fields, from two texts, or from
other operations that are merged. Whichever way it comes, it is in order; and there is no
other condition on operations, since each one that is in order is loaded from its own
members. Fields and notations are in order once they have been checked. What is derived
and what is merged is put together without a check: there the positions and lengths come
from the texts, and from operations that are in order already.
-/

namespace EditScript

set_option autoImplicit false

open Grammar

theorem Draft.Body.Makes.kind {body : Draft.Body} {action : Action} (makes : body.Makes action) :
    body.kind = action.kind := by
  cases makes <;> rfl

theorem Draft.Body.Makes.valid {body : Draft.Body} {action : Action} (makes : body.Makes action) :
    action.Valid := by
  cases makes with
  | move side least => exact least
  | swap described leastStart leastLength =>
      exact ⟨leastStart, leastLength, described_of_describing described⟩
  | _ => trivial

/-- What is made of fields that pass their checks is in order. -/
theorem Draft.Makes.valid {draft : Draft} {operation : Operation} (makes : draft.Makes operation) :
    operation.Valid where
  described := by
    obtain ⟨described, _, same⟩ := (Check.map_eq_valid_iff _ _ _).mp makes.described
    rw [← same]
    exact described_of_describing described
  start := by
    obtain ⟨_, _, enough⟩ := (Check.and_then_eq_valid_iff _ _ _).mp makes.start
    rw [Operation.kind, ← makes.body.kind]
    exact ((coordinate_eq_valid_iff _ _ _ _).mp enough).2
  length := by
    obtain ⟨_, _, enough⟩ := (Check.and_then_eq_valid_iff _ _ _).mp makes.length
    exact ((coordinate_eq_valid_iff _ _ _ _).mp enough).2
  note := by
    obtain ⟨note, _, same⟩ := (Check.map_eq_valid_iff _ _ _).mp makes.note
    rw [← same]
    exact noted_of_annotating note
  tags := by
    obtain ⟨tags, _, tagged⟩ := (Check.and_then_eq_valid_iff _ _ _).mp makes.tags
    obtain ⟨same, words⟩ := (tagged_with_eq_valid_iff tags _).mp tagged
    rw [same]
    exact words
  action := makes.body.valid

theorem Check.to_except_eq_ok_iff {α : Type} (kind : Option Kind) (check : Check α) (value : α) :
    check.toExcept kind = .ok value ↔ check = .valid value := by
  cases check <;> simp [Check.toExcept]

namespace Operation

variable {operation : Operation}

theorem valid_of_parse_kind {kind : Kind} {text : Text}
    (parsed : parseKind kind text = .ok operation) : operation.Valid := by
  obtain ⟨found, _, writes⟩ := (parse_kind_eq_ok_iff kind text operation).mp parsed
  exact writes.valid

theorem valid_of_parse {text : Option Text} (parsed : (parse text).outcome = .ok operation) :
    operation.Valid := by
  rw [parse_outcome] at parsed
  simp only [bind_eq_ok_iff] at parsed
  obtain ⟨_, _, _, _, made⟩ := parsed
  exact valid_of_parse_kind made

theorem valid_of_parse_as {kind : Kind} {text : Option Text}
    (parsed : parseAs kind text = .ok operation) : operation.Valid := by
  obtain ⟨_, _, made⟩ := (bind_eq_ok_iff _ _ _).mp parsed
  exact valid_of_parse_kind made

theorem valid_of_members {kind : Kind} {members : Json.Members}
    (made : ofMembers kind members = .valid operation) : operation.Valid :=
  ((Draft.operation_eq_valid_iff _ operation).mp made).valid

theorem valid_of_construct {kind : Kind} {members : Json.Members}
    (constructed : construct kind members = .ok operation) : operation.Valid :=
  valid_of_members ((Check.to_except_eq_ok_iff none _ operation).mp constructed)

theorem valid_of_data {members : Json.Members} (loaded : ofData members = .ok operation) :
    operation.Valid := by
  obtain ⟨kind, _, made⟩ := (bind_eq_ok_iff _ _ _).mp loaded
  exact valid_of_members ((Check.to_except_eq_ok_iff (some kind) _ operation).mp made)

/-- A move that takes the place of a deletion goes at least to the first position: its
target is one behind the place of the other operation. -/
theorem merged_move_valid {deletion introduction : Operation} (deletionValid : deletion.Valid)
    (introductionValid : introduction.Valid) (deletes : deletion.deletes?.isSome) :
    (mergedMove deletion introduction).Valid where
  described := deletionValid.described
  start := by
    have least := deletionValid.start
    cases action : deletion.action <;> simp [deletes?, action] at deletes
    rw [kind, action] at least
    exact least
  length := deletionValid.length
  note := by
    intro text noted
    rw [mergedMove] at noted
    cases own : deletion.note with
    | some note =>
        rw [own] at noted
        exact deletionValid.note text (own.trans noted)
    | none =>
        rw [own] at noted
        exact introductionValid.note text noted
  tags := by
    rw [mergedMove]
    dsimp only
    split
    · exact introductionValid.tags
    · exact deletionValid.tags
  action := Nat.succ_pos introduction.span.start

end Operation

theorem AdjustmentStep.valid_of_stands {script : Script} {step : AdjustmentStep}
    (stands : step.StandsIn script) (valid : ∀ operation ∈ script, operation.Valid) :
    step.operation.Valid := by
  cases step with
  | kept operation => exact valid operation stands
  | ambiguous deletion text => exact valid deletion stands
  | merged deletion introduction =>
      obtain ⟨deletionIn, deletes, introductionIn, _⟩ := stands
      exact Operation.merged_move_valid (valid deletion deletionIn)
        (valid introduction introductionIn) deletes

namespace Script

variable {operation : Operation}

/-- Merging keeps operations in order. -/
theorem adjustment_valid (insertOnly : Bool) {script : Script}
    (valid : ∀ operation ∈ script, operation.Valid) :
    ∀ operation ∈ (adjustment insertOnly script).script, operation.Valid := by
  rw [Adjustment.script, List.forall_mem_map]
  intro step member
  exact step.valid_of_stands (adjust_from_stands [] 0 (fun _ inside => inside) step member) valid

theorem adjust_valid {insertOnly : Bool} {script result : Script}
    (valid : ∀ operation ∈ script, operation.Valid)
    (adjusted : (script.adjust insertOnly).outcome = .ok result) :
    ∀ operation ∈ result, operation.Valid := by
  rw [adjust, Traced.outcome_bind, bind_eq_ok_iff] at adjusted
  obtain ⟨_, _, same⟩ := adjusted
  cases same
  exact adjustment_valid insertOnly valid

theorem diff_valid {options : DiffOptions} {source : Text} {target : Option Text} {result : Script}
    (derived : (diffTo options source target).outcome = .ok result) :
    ∀ operation ∈ result, operation.Valid := by
  have walked : ∀ operation ∈ walk options.describe 0 0 source (target.getD []), operation.Valid :=
    fun operation member => (walk_drawn _ _ _ operation member).valid
  rw [derived_outcome] at derived
  cases derived
  split
  · exact adjustment_valid options.insertOnly walked
  · exact walked

/-- A text that does not parse is passed over unless reading is strict. -/
theorem parse_one_outcome (strict : Bool) (text : Text) :
    (parseOne strict text).outcome =
      match strict, (Operation.parse (some text)).outcome with
      | false, .error (.parse _) => .ok none
      | _, reading => reading >>= fun operation => .ok (some operation) := by
  have kept : (some <$> Operation.parse (some text)).outcome =
      (Operation.parse (some text)).outcome >>= fun operation => .ok (some operation) := by
    change Traced.outcome (Operation.parse (some text) >>= fun first => pure (some first)) = _
    exact Traced.outcome_bind _ _
  cases strict with
  | true => exact kept
  | false =>
      simp only [parseOne]
      cases reading : (Operation.parse (some text)).outcome with
      | ok operation =>
          rw [reading] at kept
          exact kept
      | error failure =>
          rw [reading] at kept
          cases failure with
          | parse fault => rfl
          | _ => exact kept

/-- Every operation of a script was read from one of the texts. -/
theorem parsed_among {strict : Bool} {texts : List Text} {script : Script}
    (parsed : (parse strict texts).outcome = .ok script) :
    ∀ operation ∈ script, ∃ text ∈ texts,
      (Operation.parse (some text)).outcome = .ok operation := by
  induction texts generalizing script with
  | nil =>
      cases parsed
      exact List.forall_mem_nil _
  | cons text rest induction =>
      simp only [parse, Traced.outcome_bind, bind_eq_ok_iff] at parsed
      obtain ⟨first, read, others, later, same⟩ := parsed
      cases same
      rw [List.forall_mem_append]
      constructor
      · intro operation member
        rw [Option.mem_toList] at member
        rw [parse_one_outcome, member] at read
        refine ⟨text, List.mem_cons_self, ?_⟩
        split at read
        · cases read
        · obtain ⟨_, reading, same⟩ := (bind_eq_ok_iff _ _ _).mp read
          cases same
          exact reading
      · intro operation member
        obtain ⟨source, listed, reading⟩ := induction later operation member
        exact ⟨source, List.mem_cons_of_mem text listed, reading⟩

theorem parse_valid {strict : Bool} {texts : List Text} {script : Script}
    (parsed : (parse strict texts).outcome = .ok script) :
    ∀ operation ∈ script, operation.Valid := by
  intro operation member
  obtain ⟨_, _, reading⟩ := parsed_among parsed operation member
  exact Operation.valid_of_parse reading

end Script

namespace Operation

/-- The operations that are returned by some function: read from a notation, alone, as one
of a kind, or among others; loaded from data; constructed from the fields of a kind;
derived from two texts; or left when operations that have been returned are merged. -/
inductive Returned : Operation → Prop
  | parsed {operation : Operation} (text : Option Text)
      (parsed : (parse text).outcome = .ok operation) : Returned operation
  | parsedAs {operation : Operation} (kind : Kind) (text : Option Text)
      (parsed : parseAs kind text = .ok operation) : Returned operation
  | parsedAmong {operation : Operation} (strict : Bool) (texts : List Text) (script : Script)
      (parsed : (Script.parse strict texts).outcome = .ok script) (member : operation ∈ script) :
      Returned operation
  | loaded {operation : Operation} (members : Json.Members)
      (loaded : ofData members = .ok operation) : Returned operation
  | constructed {operation : Operation} (kind : Kind) (members : Json.Members)
      (constructed : construct kind members = .ok operation) : Returned operation
  | derived {operation : Operation} (options : DiffOptions) (source : Text)
      (target : Option Text) (script : Script)
      (derived : (Script.diffTo options source target).outcome = .ok script)
      (member : operation ∈ script) : Returned operation
  | adjusted {operation : Operation} (insertOnly : Bool) (script result : Script)
      (returned : ∀ given ∈ script, Returned given)
      (adjusted : (script.adjust insertOnly).outcome = .ok result) (member : operation ∈ result) :
      Returned operation

/-- The operations that are returned are those that are in order: no description is empty,
positions and lengths are at least one, apart from the positions of insertions, notes are
trimmed and not blank, and tags are words without brackets. -/
theorem returned_iff_valid (operation : Operation) : operation.Returned ↔ operation.Valid := by
  constructor
  · intro returned
    induction returned with
    | parsed text parsed => exact valid_of_parse parsed
    | parsedAs kind text parsed => exact valid_of_parse_as parsed
    | parsedAmong strict texts script parsed member => exact Script.parse_valid parsed _ member
    | loaded members loaded => exact valid_of_data loaded
    | constructed kind members constructed => exact valid_of_construct constructed
    | derived options source target script derived member =>
        exact Script.diff_valid derived _ member
    | adjusted insertOnly script result _ adjusted member valid =>
        exact Script.adjust_valid valid adjusted _ member
  · intro valid
    exact .loaded operation.members (of_data_members valid)

end Operation

end EditScript
