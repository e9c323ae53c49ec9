import EditScript.Proofs.Relocation

/-!
# Texts with a common front

The walk passes the characters that both texts begin with and then goes on as it would on the
rests, with both cursors the same number of characters further. Where it looks ahead it
compares the two offsets, so it makes the same choices; and merging sees the texts of the
operations only. So the script is that of the rests, with all of its positions shifted.
-/

namespace EditScript

set_option autoImplicit false

/-- The target of a move, further back. No other action that is derived holds a position. -/
def Action.shift (count : Nat) : Action → Action
  | .move side target => .move side (target + count)
  | action => action

/-- The operation with its positions further back by a number of characters. -/
def Operation.shift (count : Nat) (operation : Operation) : Operation :=
  { operation with
    span := ⟨operation.span.start + count, operation.span.length⟩
    action := operation.action.shift count }

def Script.shift (count : Nat) (script : Script) : Script :=
  script.map (Operation.shift count)

namespace Script

/-- A change of operations that merging does not notice: the texts that are deleted and
introduced stay the same, and a merged pair is changed like its parts. -/
structure Unnoticed (insertOnly : Bool) (change : Operation → Operation) : Prop where
  deletes : ∀ operation, (change operation).deletes? = operation.deletes?
  candidate : ∀ operation,
    (change operation).isCandidate insertOnly = operation.isCandidate insertOnly
  introduced : ∀ operation, (change operation).introduced = operation.introduced
  merged : ∀ deletion introduction,
    mergedMove (change deletion) (change introduction) = change (mergedMove deletion introduction)

variable {insertOnly : Bool} {change : Operation → Operation} {script : Script} {index : Nat}

theorem deleted_at_map (unnoticed : Unnoticed insertOnly change) :
    deletedAt? (script.map change) index = script.deletedAt? index := by
  rw [deletedAt?, deletedAt?, List.getElem?_map]
  cases script[index]? with
  | none => rfl
  | some operation => exact unnoticed.deletes operation

theorem introduced_at_map (unnoticed : Unnoticed insertOnly change) {text : Text} :
    IntroducedAt insertOnly (script.map change) text index ↔
      script.IntroducedAt insertOnly text index := by
  rw [IntroducedAt, IntroducedAt, List.getElem?_map]
  cases script[index]? with
  | none => simp
  | some operation => simp [unnoticed.candidate, unnoticed.introduced]

theorem merges_map (unnoticed : Unnoticed insertOnly change) {text : Text} {first second : Nat} :
    Merges insertOnly (script.map change) text first second ↔
      script.Merges insertOnly text first second := by
  constructor
  · intro merges
    constructor
    · exact (deleted_at_map unnoticed).symm.trans merges.deleted
    · intro index
      rw [← introduced_at_map unnoticed]
      exact merges.introduced index
    · exact merges.behind
    · intro earlier before
      rw [← deleted_at_map unnoticed]
      exact merges.foremost earlier before
  · intro merges
    constructor
    · exact (deleted_at_map unnoticed).trans merges.deleted
    · intro index
      rw [introduced_at_map unnoticed]
      exact merges.introduced index
    · exact merges.behind
    · intro earlier before
      rw [deleted_at_map unnoticed]
      exact merges.foremost earlier before

theorem merged_with_map (unnoticed : Unnoticed insertOnly change) :
    mergedWith? insertOnly (script.map change) index = script.mergedWith? insertOnly index := by
  ext second
  rw [merged_with_eq_some_iff, merged_with_eq_some_iff]
  simp only [merges_map unnoticed]

theorem outcome_at_of_partner {operation : Operation} {second : Nat}
    (partner : script.mergedWith? insertOnly index = some second) :
    script.outcomeAt insertOnly operation index = script[second]?.map (mergedMove operation) := by
  rw [outcomeAt, partner]
  dsimp only
  cases script[second]? with
  | none => rfl
  | some introduction => simp [mergedMove, List.isEmpty_iff]

theorem outcome_at_map (unnoticed : Unnoticed insertOnly change) (operation : Operation) :
    outcomeAt insertOnly (script.map change) (change operation) index =
      (script.outcomeAt insertOnly operation index).map change := by
  have same := @merged_with_map insertOnly change script index unnoticed
  cases partner : script.mergedWith? insertOnly index with
  | some second =>
      rw [outcome_at_of_partner partner, outcome_at_of_partner (same.trans partner),
        List.getElem?_map]
      cases script[second]? with
      | none => rfl
      | some introduction => exact congrArg some (unnoticed.merged operation introduction)
  | none =>
      have taken : PartnerBefore insertOnly (script.map change) index index ↔
          script.PartnerBefore insertOnly index index := by
        simp only [PartnerBefore, merged_with_map unnoticed]
      rw [outcomeAt, outcomeAt, same, partner]
      simp only [taken]
      split <;> rfl

/-- Merging commutes with every change that it does not notice. -/
theorem merged_map (unnoticed : Unnoticed insertOnly change) (script : Script) :
    merged insertOnly (script.map change) = (script.merged insertOnly).map change := by
  rw [merged, merged, List.zipIdx_map, List.filterMap_map, List.map_filterMap]
  apply congrArg (List.filterMap · script.zipIdx)
  funext entry
  exact outcome_at_map unnoticed entry.1

theorem shift_unnoticed (insertOnly : Bool) (count : Nat) :
    Unnoticed insertOnly (Operation.shift count) where
  deletes operation := by
    unfold Operation.deletes? Operation.shift
    cases operation.action <;> rfl
  candidate operation := by
    unfold Operation.isCandidate Operation.shift
    cases operation.action <;> rfl
  introduced operation := by
    unfold Operation.introduced Operation.shift
    cases operation.action <;> rfl
  merged deletion introduction := by
    have target : introduction.span.start + count + 1 = introduction.span.start + 1 + count :=
      Nat.add_right_comm _ _ _
    simp only [mergedMove, Operation.shift, Action.shift, target]
    rfl

end Script

/-- Both offsets are compared with one another only. -/
theorem choose_shift (count sourceOffset targetOffset : Nat) (old new : Char)
    (source target : Text) :
    choose (sourceOffset + count) (targetOffset + count) old source new target =
      choose sourceOffset targetOffset old source new target := by
  unfold choose
  split
  · rfl
  · rfl
  · rfl
  · next sourceFront _ targetFront _ _ _ =>
      have nearer : sourceOffset + count + sourceFront.length ≤
          targetOffset + count + targetFront.length ↔
            sourceOffset + sourceFront.length ≤ targetOffset + targetFront.length := by
        omega
      simp only [nearer]

/-- The walk at two cursors that are moved on alike. The induction follows the recursion of the
walk at the cursors in front. -/
theorem walk_shift (describe : Bool) (count sourceOffset targetOffset : Nat)
    (source target : Text) :
    walk describe (sourceOffset + count) (targetOffset + count) source target =
      (walk describe sourceOffset targetOffset source target).shift count := by
  fun_induction walk describe sourceOffset targetOffset source target with
  | case1 sourceOffset targetOffset =>
      rw [walk]
      rfl
  | case2 sourceOffset targetOffset old source =>
      rw [walk, Nat.add_right_comm]
      rfl
  | case3 sourceOffset targetOffset new target =>
      rw [walk]
      rfl
  | case4 sourceOffset targetOffset source char target induction =>
      rw [walk_keep, Nat.add_right_comm sourceOffset, Nat.add_right_comm targetOffset]
      exact induction
  | case5 sourceOffset targetOffset old source new target different deleted rest choice induction =>
      rw [← choose_shift count] at choice
      rw [walk_delete different choice, Nat.add_right_comm sourceOffset,
        Nat.add_right_comm targetOffset, induction]
      rfl
  | case6 sourceOffset targetOffset old source new target different inserted rest choice
      induction =>
      rw [← choose_shift count] at choice
      rw [walk_insert different choice, Nat.add_right_comm targetOffset _ 1,
        Nat.add_right_comm targetOffset _ inserted.length, induction]
      rfl
  | case7 sourceOffset targetOffset old source new target different choice induction =>
      rw [← choose_shift count] at choice
      rw [walk_replace different choice, Nat.add_right_comm sourceOffset,
        Nat.add_right_comm targetOffset, induction]
      rfl

theorem walk_behind_common_front (describe : Bool) (sourceOffset targetOffset : Nat)
    (common source target : Text) :
    walk describe sourceOffset targetOffset (common ++ source) (common ++ target) =
      walk describe (sourceOffset + common.length) (targetOffset + common.length) source
        target := by
  induction common generalizing sourceOffset targetOffset with
  | nil => rfl
  | cons char rest induction =>
      rw [List.cons_append, List.cons_append, walk_keep, induction, List.length_cons]
      simp only [Nat.add_assoc, Nat.add_comm 1]

theorem unadjusted_diff_outcome (describe insertOnly : Bool) (source target : Text) :
    (Script.diff ⟨describe, false, insertOnly⟩ source target).outcome =
      .ok (walk describe 0 0 source target) := rfl

/-- The script of two texts that begin alike is the script of their rests, with its positions
and the targets of its moves shifted by the length of what they begin with; and there is one,
under all options. -/
theorem diff_behind_common_front (options : DiffOptions) (common source target : Text) :
    ∃ script, (Script.diff options source target).outcome = .ok script ∧
      (Script.diff options (common ++ source) (common ++ target)).outcome =
        .ok (script.shift common.length) := by
  obtain ⟨describe, adjust, insertOnly⟩ := options
  have walked : walk describe 0 0 (common ++ source) (common ++ target) =
      (walk describe 0 0 source target).shift common.length := by
    rw [walk_behind_common_front, walk_shift]
  cases adjust with
  | false =>
      refine ⟨_, unadjusted_diff_outcome describe insertOnly source target, ?_⟩
      rw [unadjusted_diff_outcome, walked]
  | true =>
      refine ⟨_, adjusted_diff_outcome describe insertOnly source target, ?_⟩
      rw [adjusted_diff_outcome, walked]
      exact congrArg Except.ok (Script.merged_map (Script.shift_unnoticed insertOnly _) _)

end EditScript
