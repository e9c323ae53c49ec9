import EditScript.Proofs.CommonPrefix
import EditScript.Proofs.NormalForm

/-!
# What descriptions say and what hangs on them

Deletions and replacements of a derived script say which text they remove, if this is asked
for. What they say is true at the moment of their execution. The walk itself does not depend on
whether it is asked for; but a deletion is merged by the text that it says it deletes, so
without descriptions nothing is merged at all.
-/

namespace EditScript

set_option autoImplicit false

namespace Operation

/-- What an operation says about the text that it is executed on is true: what is removed is
described as it stands there, and nothing is described where nothing is removed. -/
def DescribesTruly (operation : Operation) (text : Text) : Prop :=
  match operation.action with
  | .delete => ∃ removed, operation.described = some removed ∧ text.Holds operation.span removed
  | .insert _ _ => operation.described = none
  | .replace _ => ∃ removed, operation.described = some removed ∧ text.Holds operation.span removed
  | .move _ _ => False
  | .swap _ _ => False

/-- The operation without its description. -/
def undescribed (operation : Operation) : Operation :=
  { operation with described := none }

theorem undescribed_deletes (operation : Operation) : operation.undescribed.deletes? = none := by
  unfold deletes? undescribed
  cases operation.action <;> rfl

end Operation

namespace Edit

theorem operation_describes_truly {edit : Edit} (front rest : Text) {atEnd : Bool}
    {operation : Operation} (found : edit.operation? true atEnd front.length = some operation) :
    operation.DescribesTruly (front ++ (edit.old ++ rest)) := by
  cases edit with
  | keep char => cases found
  | remove deleted =>
      cases found
      exact ⟨deleted, rfl, Text.holds_at_split front deleted rest⟩
  | add inserted =>
      cases found
      cases atEnd with
      | true => rfl
      | false => rfl
  | exchange old new =>
      cases found
      exact ⟨[old], rfl, Text.holds_at_split front [old] rest⟩

theorem operation_undescribed (atEnd : Bool) (offset : Nat) (edit : Edit) :
    edit.operation? false atEnd offset =
      (edit.operation? true atEnd offset).map Operation.undescribed := by
  cases edit with
  | add inserted =>
      cases atEnd with
      | true => rfl
      | false => rfl
  | _ => rfl

end Edit

/-- Each deletion and each replacement of a derived script describes the very characters that
its span holds when its turn comes, and insertions describe nothing. -/
theorem unadjusted_diff_describes_truly (insertOnly : Bool) (source target : Text) :
    ∃ script, (Script.diff ⟨true, false, insertOnly⟩ source target).outcome = .ok script ∧
      script.Throughout Operation.DescribesTruly source := by
  obtain ⟨alignment, traces⟩ := walk_traces 0 0 source target
  have derived := traces.script_eq true
  obtain rfl := traces.source_eq
  obtain rfl := traces.target_eq
  refine ⟨_, unadjusted_diff_outcome true insertOnly _ _, ?_⟩
  rw [derived]
  apply Alignment.script_throughout traces.tight.proper _ []
  intro edit _ front rest atEnd operation found
  exact edit.operation_describes_truly front rest found

/-! ### Two runs -/

/-- Column by column, the script without descriptions is the other one without what it says. -/
theorem Alignment.script_undescribed (behind : Text) (offset : Nat) (alignment : Alignment) :
    alignment.script false behind offset =
      (alignment.script true behind offset).map Operation.undescribed := by
  induction alignment generalizing offset with
  | nil => rfl
  | cons edit rest induction =>
      rw [script, script, induction, Edit.operation_undescribed, Option.toList_map,
        List.map_append]

theorem walk_undescribed (sourceOffset targetOffset : Nat) (source target : Text) :
    walk false sourceOffset targetOffset source target =
      (walk true sourceOffset targetOffset source target).map Operation.undescribed := by
  obtain ⟨alignment, traces⟩ := walk_traces sourceOffset targetOffset source target
  rw [traces.script_eq, traces.script_eq]
  exact alignment.script_undescribed [] targetOffset

namespace Script

/-- Without descriptions nothing is merged. -/
theorem merged_undescribed (insertOnly : Bool) (script : Script) :
    merged insertOnly (script.map Operation.undescribed) = script.map Operation.undescribed := by
  apply merged_of_no_pair
  intro text first second merges
  have deleted := merges.deleted
  rw [deletedAt?, List.getElem?_map, Option.bind_map] at deleted
  obtain ⟨operation, _, deletes⟩ := Option.bind_eq_some_iff.mp deleted
  rw [Function.comp_apply, operation.undescribed_deletes] at deletes
  cases deletes

/-- A merged script has fewer operations, so it is the script itself, descriptions apart, only
if nothing is merged. -/
theorem merged_alike_iff (insertOnly : Bool) (script : Script) :
    script.map Operation.undescribed = (script.merged insertOnly).map Operation.undescribed ↔
      ∀ text first second, ¬script.Merges insertOnly text first second := by
  constructor
  · intro same text first second merges
    have long := congrArg List.length same
    rw [List.length_map, List.length_map] at long
    exact Nat.lt_irrefl _ (long ▸ length_merged_lt merges)
  · intro apart
    rw [merged_of_no_pair apart]

end Script

theorem undescribed_diff_outcome (adjust insertOnly : Bool) (source target : Text) :
    (Script.diff ⟨false, adjust, insertOnly⟩ source target).outcome =
      .ok ((walk true 0 0 source target).map Operation.undescribed) := by
  cases adjust with
  | false => rw [unadjusted_diff_outcome, walk_undescribed]
  | true => rw [adjusted_diff_outcome, walk_undescribed, Script.merged_undescribed]

/-- Under all options, the script without descriptions is the one that is derived with them and
not merged, less what it says. So asking for descriptions changes nothing else exactly if
merging is not asked for or no deletion of the script has an operation to be merged with. -/
theorem undescribed_diff_is_unmerged (adjust insertOnly : Bool) (source target : Text) :
    ∃ bare unmerged described,
      (Script.diff ⟨false, adjust, insertOnly⟩ source target).outcome = .ok bare ∧
      (Script.diff ⟨true, false, insertOnly⟩ source target).outcome = .ok unmerged ∧
      (Script.diff ⟨true, adjust, insertOnly⟩ source target).outcome = .ok described ∧
      bare = unmerged.map Operation.undescribed ∧
      (bare = described.map Operation.undescribed ↔
        (adjust = true → ∀ text first second, ¬unmerged.Merges insertOnly text first second)) := by
  have bare := undescribed_diff_outcome adjust insertOnly source target
  have unmerged := unadjusted_diff_outcome true insertOnly source target
  cases adjust with
  | false =>
      refine ⟨_, _, _, bare, unmerged, unmerged, rfl, ?_⟩
      exact iff_of_true rfl nofun
  | true =>
      have described := adjusted_diff_outcome true insertOnly source target
      refine ⟨_, _, _, bare, unmerged, described, rfl, ?_⟩
      rw [Script.merged_alike_iff]
      exact ⟨fun apart _ => apart, fun apart => apart rfl⟩

/-- A character that changes places with the next one is moved if it is described, and deleted
and inserted again if it is not. -/
theorem undescribed_pair_not_merged :
    ¬ ∀ (adjust insertOnly : Bool) (source target : Text), ∃ bare described,
      (Script.diff ⟨false, adjust, insertOnly⟩ source target).outcome = .ok bare ∧
        (Script.diff ⟨true, adjust, insertOnly⟩ source target).outcome = .ok described ∧
        bare = described.map Operation.undescribed := by
  intro alike
  rcases alike true false ['a', 'b', 'c'] ['b', 'a', 'c'] with ⟨bare, described, first, second, same⟩
  have walked : walk true 0 0 ['a', 'b', 'c'] ['b', 'a', 'c'] =
      [deletion true 1 ['a'], insertion .before 2 ['a']] := by
    simp [walk, choose, splitBefore?]
  have merged : Script.merged false [deletion true 1 ['a'], insertion .before 2 ['a']] =
      [mergedMove (deletion true 1 ['a']) (insertion .before 2 ['a'])] := by
    decide
  rw [undescribed_diff_outcome, walked] at first
  rw [adjusted_diff_outcome, walked, merged] at second
  cases first
  cases second
  cases congrArg List.length same

end EditScript
