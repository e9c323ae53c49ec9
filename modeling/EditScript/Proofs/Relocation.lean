import EditScript.Proofs.Matching
import EditScript.Proofs.Rebuild

/-!
# Texts that are shown early

A move carries out an insertion long before its turn. The texts on the way then
hold some inserted texts early, in the gaps where they belong. What stands in such
a text behind the columns already carried out is told by the columns that are left;
and the operations between a merged pair lengthen the text by as much as its columns
are still short of what they will be in the end.
-/

namespace EditScript

set_option autoImplicit false

/-- By how many characters an operation lengthens a text. -/
def Operation.growth (operation : Operation) : Int :=
  match operation.action with
  | .delete => -(operation.span.length : Int)
  | .insert _ text => text.length
  | .replace text => (text.length : Int) - operation.span.length
  | _ => 0

/-- How many characters stand in front of the place of an insertion. -/
def Operation.insertionPoint (operation : Operation) : Int :=
  match operation.action with
  | .insert .before _ => (operation.span.start : Int) - 1
  | _ => operation.span.start

/-- The text with a span cut out and put in behind a number of the characters left. -/
def Text.relocate (text : Text) (span : Span) (index : Nat) : Text :=
  (text.splice span []).take index ++ text.middle span ++ (text.splice span []).drop index

namespace Script

/-- How much the operations from an index on lengthen a text, where some of them have
had their effect already. -/
def growthWithout (done : Nat → Bool) : (index : Nat) → Script → Int
  | _, [] => 0
  | index, operation :: rest =>
      (if done index then 0 else operation.growth) + growthWithout done (index + 1) rest

/-- An operation is the partner of a deletion in front of an index, so its text is
shown early. -/
def shownBefore (insertOnly : Bool) (script : Script) (first index : Nat) : Bool :=
  decide (script.PartnerBefore insertOnly first index)

/-- How much the operations between two indices lengthen a text in a merged script. -/
def growthBetween (insertOnly : Bool) (script : Script) (first second : Nat) : Int :=
  growthWithout (script.shownBefore insertOnly first) (first + 1)
    ((script.take second).drop (first + 1))

/-- The part of the merged script that stems from in front of an index. -/
def mergedUpTo (insertOnly : Bool) (script : Script) (index : Nat) : Script :=
  (script.zipIdx.take index).filterMap
    fun (operation, index) => script.outcomeAt insertOnly operation index

theorem growth_append (done : Nat → Bool) (index : Nat) (front back : Script) :
    growthWithout done index (front ++ back) =
      growthWithout done index front + growthWithout done (index + front.length) back := by
  induction front generalizing index with
  | nil => simp [growthWithout]
  | cons operation rest induction =>
      rw [List.cons_append, growthWithout, growthWithout, induction, List.length_cons,
        Nat.add_assoc index 1, Nat.add_comm 1, Int.add_assoc]

theorem merged_up_to_succ {insertOnly : Bool} {script : Script} {index : Nat}
    {operation : Operation} (here : script[index]? = some operation) :
    script.mergedUpTo insertOnly (index + 1) =
      script.mergedUpTo insertOnly index ++
        (script.outcomeAt insertOnly operation index).toList := by
  rw [mergedUpTo, mergedUpTo, List.take_add_one, List.filterMap_append]
  apply congrArg (List.filterMap _ _ ++ ·)
  rw [List.getElem?_zipIdx, here]
  simp [List.filterMap_cons]
  cases script.outcomeAt insertOnly operation index <;> rfl

theorem merged_up_to_length (insertOnly : Bool) (script : Script) :
    script.mergedUpTo insertOnly script.length = script.merged insertOnly := by
  rw [mergedUpTo, merged, List.take_of_length_le (by simp)]

end Script

/-- The number of operations of a column. -/
def Edit.weight : Edit → Nat
  | keep _ => 0
  | _ => 1

/-- The side of a column in a text that holds some inserted texts early. -/
def Edit.early (shown : Bool) : Edit → Text
  | add inserted => if shown then inserted else []
  | edit => edit.old

namespace Alignment

def weight : Alignment → Nat
  | [] => 0
  | edit :: rest => edit.weight + weight rest

/-- What stands behind the columns already carried out when the texts of some later
insertions have been moved to their places. -/
def filled (shown : Nat → Bool) : (index : Nat) → Alignment → Text
  | _, [] => []
  | index, edit :: rest => edit.early (shown index) ++ filled shown (index + edit.weight) rest

theorem weight_append (first second : Alignment) :
    weight (first ++ second) = weight first + weight second := by
  induction first with
  | nil => simp [weight]
  | cons edit rest induction => rw [List.cons_append, weight, weight, induction, Nat.add_assoc]

theorem weight_concat (done : Alignment) (edit : Edit) :
    weight (done ++ [edit]) = weight done + edit.weight :=
  weight_append done [edit]

theorem operation_count (describe atEnd : Bool) (offset : Nat) (edit : Edit) :
    (edit.operation? describe atEnd offset).toList.length = edit.weight := by
  cases edit <;> rfl

theorem length_script (describe : Bool) (behind : Text) (offset : Nat) (alignment : Alignment) :
    (script describe behind offset alignment).length = alignment.weight := by
  induction alignment generalizing offset with
  | nil => rfl
  | cons edit rest induction =>
      rw [script, List.length_append, induction, operation_count, weight]

theorem script_append (describe : Bool) (behind : Text) (offset : Nat)
    (first second : Alignment) :
    script describe behind offset (first ++ second) =
      script describe (source second ++ behind) offset first ++
        script describe behind (offset + (target first).length) second := by
  induction first generalizing offset with
  | nil => simp [script, target]
  | cons edit rest induction =>
      have sources : source (rest ++ second) = source rest ++ source second :=
        List.flatMap_append
      rw [List.cons_append, script, script, induction, sources]
      simp [Nat.add_assoc]

theorem filled_append (shown : Nat → Bool) (index : Nat) (first second : Alignment) :
    filled shown index (first ++ second) =
      filled shown index first ++ filled shown (index + first.weight) second := by
  induction first generalizing index with
  | nil => simp [filled, weight]
  | cons edit rest induction =>
      rw [List.cons_append, filled, filled, induction, weight]
      simp [Nat.add_assoc]

theorem filled_congr {shown other : Nat → Bool} {index : Nat} {alignment : Alignment}
    (same : ∀ later, index ≤ later → later < index + alignment.weight →
      shown later = other later) :
    filled shown index alignment = filled other index alignment := by
  induction alignment generalizing index with
  | nil => rfl
  | cons edit rest induction =>
      rw [weight] at same
      have here : edit.early (shown index) = edit.early (other index) := by
        cases edit with
        | add inserted =>
            rw [same index (Nat.le_refl index) (by simp only [Edit.weight]; omega)]
        | keep char => rfl
        | remove deleted => rfl
        | exchange old new => rfl
      rw [filled, filled, here, induction]
      intro later lower upper
      exact same later (by omega) (by omega)

theorem filled_of_hidden {shown : Nat → Bool} (hidden : ∀ index, shown index = false)
    (index : Nat) (alignment : Alignment) : filled shown index alignment = source alignment := by
  induction alignment generalizing index with
  | nil => rfl
  | cons edit rest induction =>
      rw [filled, source_cons, induction, hidden]
      cases edit <;> rfl

theorem source_length_le_filled (shown : Nat → Bool) (index : Nat) (alignment : Alignment) :
    (source alignment).length ≤ (filled shown index alignment).length := by
  induction alignment generalizing index with
  | nil => exact Nat.le_refl _
  | cons edit rest induction =>
      have later := induction (index + edit.weight)
      rw [source_cons, filled, List.length_append, List.length_append]
      cases edit <;> simp [Edit.old, Edit.early] <;> omega

theorem split_at_operation {describe : Bool} {behind : Text} {offset index : Nat}
    {alignment : Alignment} {operation : Operation}
    (position : (script describe behind offset alignment)[index]? = some operation) :
    ∃ (before : Alignment) (edit : Edit) (after : Alignment),
      alignment = before ++ edit :: after ∧ before.weight = index ∧
        edit.operation? describe (source after ++ behind).isEmpty
          (offset + (target before).length) = some operation := by
  induction alignment generalizing offset index with
  | nil => simp [script] at position
  | cons edit rest induction =>
      have count := operation_count describe (source rest ++ behind).isEmpty offset edit
      rw [script] at position
      by_cases here : index < edit.weight
      · rw [List.getElem?_append_left (by omega)] at position
        cases found : edit.operation? describe (source rest ++ behind).isEmpty offset with
        | none => simp [found] at position
        | some first =>
            rw [found, Option.toList_some, List.getElem?_singleton] at position
            split at position
            · next zero =>
                obtain rfl := Option.some.inj position
                exact ⟨[], edit, rest, rfl, zero.symm, found⟩
            · simp at position
      · rw [List.getElem?_append_right (by omega), count] at position
        rcases induction position with ⟨before, column, after, rfl, size, operates⟩
        refine ⟨edit :: before, column, after, rfl, ?_, ?_⟩
        · rw [weight, size]
          omega
        · rw [target_cons, List.length_append, ← Nat.add_assoc]
          exact operates

theorem early_length (describe atEnd : Bool) (offset index : Nat) (shown : Nat → Bool) (edit : Edit)
    (insertions : ∀ operation, edit.operation? describe atEnd offset = some operation →
      shown index = true → ∃ side text, operation.action = .insert side text) :
    ((edit.early (shown index)).length : Int) = edit.new.length -
      Script.growthWithout shown index (edit.operation? describe atEnd offset).toList := by
  cases edit with
  | keep char => rfl
  | remove deleted =>
      cases early : shown index with
      | true =>
          rcases insertions _ rfl early with ⟨side, text, action⟩
          simp [deletion, Operation.plain] at action
      | false =>
          simp [Edit.operation?, Edit.early, Edit.old, Edit.new, Script.growthWithout, early,
            Operation.growth, deletion, Operation.plain]
  | add inserted =>
      cases early : shown index with
      | true => simp [Edit.operation?, Edit.early, Edit.new, Script.growthWithout, early]
      | false =>
          have growth : Operation.growth (if atEnd then insertion .after offset inserted
              else insertion .before (offset + 1) inserted) = inserted.length := by
            cases atEnd <;> rfl
          simp [Edit.operation?, Edit.early, Edit.new, Script.growthWithout, early, growth]
  | exchange old new =>
      cases early : shown index with
      | true =>
          rcases insertions _ rfl early with ⟨side, text, action⟩
          simp [replacement, Operation.plain] at action
      | false =>
          simp [Edit.operation?, Edit.early, Edit.old, Edit.new, Script.growthWithout, early,
            Operation.growth, replacement, Operation.plain]

/-- Early texts account for the difference between what stands in a text by now and
what will stand there in the end, up to the growth that is still to come. -/
theorem filled_length (describe : Bool) (behind : Text) (offset index : Nat)
    (shown : Nat → Bool) (alignment : Alignment)
    (insertions : ∀ position operation,
      (script describe behind offset alignment)[position]? = some operation →
      shown (index + position) = true → ∃ side text, operation.action = .insert side text) :
    ((filled shown index alignment).length : Int) = (target alignment).length -
      Script.growthWithout shown index (script describe behind offset alignment) := by
  induction alignment generalizing offset index with
  | nil => rfl
  | cons edit rest induction =>
      have count := operation_count describe (source rest ++ behind).isEmpty offset edit
      rw [script] at insertions ⊢
      have here := early_length describe (source rest ++ behind).isEmpty offset index shown edit (by
        intro operation found early
        apply insertions 0 operation _ early
        rw [found]
        rfl)
      have later := induction (offset + edit.new.length) (index + edit.weight) (by
        intro position operation found early
        apply insertions (edit.weight + position) operation
        · rw [← count, List.getElem?_append_right (Nat.le_add_right _ _), Nat.add_sub_cancel_left]
          exact found
        · rw [← Nat.add_assoc]
          exact early)
      rw [filled, target_cons, Script.growth_append, count, List.length_append, List.length_append,
        Int.natCast_add, here, later]
      omega

theorem remove_of_deletes {atEnd : Bool} {offset : Nat} {edit : Edit} {operation : Operation}
    {text : Text} (found : edit.operation? true atEnd offset = some operation)
    (deletes : operation.deletes? = some text) :
    edit = .remove text ∧ operation.span = ⟨offset + 1, text.length⟩ := by
  cases edit with
  | keep char => simp [Edit.operation?] at found
  | remove deleted =>
      obtain rfl := Option.some.inj found
      obtain rfl := Option.some.inj deletes
      exact ⟨rfl, rfl⟩
  | add inserted =>
      obtain rfl := Option.some.inj found
      cases atEnd <;> simp [Operation.deletes?, insertion, Operation.plain] at deletes
  | exchange old new =>
      obtain rfl := Option.some.inj found
      simp [Operation.deletes?, replacement, Operation.plain] at deletes

theorem add_of_insertion {describe atEnd : Bool} {offset : Nat} {edit : Edit}
    {operation : Operation} {side : Side} {text : Text}
    (found : edit.operation? describe atEnd offset = some operation)
    (action : operation.action = .insert side text) :
    edit = .add text ∧ operation.insertionPoint = offset := by
  cases edit with
  | keep char => simp [Edit.operation?] at found
  | remove deleted =>
      obtain rfl := Option.some.inj found
      simp [deletion, Operation.plain] at action
  | add inserted =>
      obtain rfl := Option.some.inj found
      cases atEnd with
      | true =>
          rcases Action.insert.inj action with ⟨rfl, rfl⟩
          exact ⟨rfl, rfl⟩
      | false =>
          rcases Action.insert.inj action with ⟨rfl, rfl⟩
          exact ⟨rfl, by simp [Operation.insertionPoint, insertion, Operation.plain]⟩
  | exchange old new =>
      obtain rfl := Option.some.inj found
      simp [replacement, Operation.plain] at action

end Alignment

theorem relocate_at_split (front moved between behind : Text) :
    (front ++ (moved ++ (between ++ behind))).relocate ⟨front.length + 1, moved.length⟩
      (front.length + between.length) = front ++ (between ++ (moved ++ behind)) := by
  have size : front.length + between.length = (front ++ between).length := by simp
  rw [Text.relocate, Text.splice_at_split, Text.middle_at_split, List.nil_append,
    ← List.append_assoc front between behind, size, List.take_left, List.drop_left]
  simp

namespace Script

variable {script : Script} {first second index : Nat} {operation : Operation} {text : Text}

theorem insertion_of_introduced (introduced : script.IntroducedAt true text index)
    (here : script[index]? = some operation) :
    ∃ side, operation.action = .insert side text := by
  rcases introduced with ⟨other, there, candidate, introduces⟩
  obtain rfl := Option.some.inj (here.symm.trans there)
  unfold Operation.isCandidate at candidate
  unfold Operation.introduced at introduces
  cases action : operation.action <;> simp_all

theorem insertion_of_partner (partner : script.PartnerBefore true first index)
    (here : script[index]? = some operation) :
    ∃ side text, operation.action = .insert side text := by
  rcases partner with ⟨earlier, _, merged⟩
  rcases merged_with_eq_some_iff.mp merged with ⟨text, merges⟩
  rcases insertion_of_introduced ((merges.introduced index).mpr rfl) here with ⟨side, action⟩
  exact ⟨side, text, action⟩

theorem operations_between {before inside after : Script} {deletion introduction : Operation}
    (whole : script = before ++ deletion :: (inside ++ introduction :: after)) :
    (script.take (before.length + 1 + inside.length)).drop (before.length + 1) = inside := by
  have front : (before ++ deletion :: inside).length = before.length + 1 + inside.length := by
    rw [List.length_append, List.length_cons]
    omega
  have split : script = (before ++ deletion :: inside) ++ introduction :: after := by
    rw [whole, List.append_assoc, List.cons_append]
  rw [split, List.take_left' front]
  simp [List.drop_append]

/-- A merged pair seen in the columns: the insertion adds the text behind some columns, and
the operations of these columns still have to make up for the texts shown early. -/
structure MergedColumns (script : Script) (done : Alignment) (text : Text)
    (before after : Alignment) (second : Nat) (introduction : Operation) : Prop where
  reaches : second = done.weight + 1 + before.weight
  there : script[second]? = some introduction
  operates : (Edit.add text).operation? true after.source.isEmpty
    (done.target.length + before.target.length) = some introduction
  growth : script.growthBetween true done.weight second = (before.target.length : Int) -
    (Alignment.filled (script.shownBefore true done.weight) (done.weight + 1) before).length

theorem merged_pair_columns {done rest : Alignment}
    (whole : script = Alignment.script true [] 0 (done ++ .remove text :: rest))
    (merges : script.Merges true text done.weight second) :
    ∃ (before after : Alignment) (introduction : Operation),
      rest = before ++ .add text :: after ∧
        script.MergedColumns done text before after second introduction := by
  rcases (merges.introduced second).mpr rfl with ⟨introduction, there, _, _⟩
  rcases insertion_of_introduced ((merges.introduced second).mpr rfl) there with ⟨side, action⟩
  have behind := merges.behind
  rw [Alignment.script_append, Alignment.script] at whole
  simp only [List.append_nil, Edit.operation?, Edit.new, Option.toList_some, List.singleton_append,
    List.length_nil, Nat.add_zero, Nat.zero_add] at whole
  have size := Alignment.length_script true (Alignment.source (.remove text :: rest)) 0 done
  have position := there
  rw [whole, List.getElem?_append_right (by omega), size,
    show second - done.weight = second - (done.weight + 1) + 1 by omega,
    List.getElem?_cons_succ] at position
  rcases Alignment.split_at_operation position with ⟨before, edit, after, rfl, inside, operates⟩
  rcases Alignment.add_of_insertion operates action with ⟨rfl, _⟩
  have reaches : second = done.weight + 1 + before.weight := by omega
  rw [Alignment.script_append, Alignment.script, operates, List.append_nil] at whole
  rw [List.append_nil] at operates
  refine ⟨before, after, introduction, rfl, reaches, there, operates, ?_⟩
  have between := operations_between whole
  rw [size, Alignment.length_script, ← reaches] at between
  have growth := Alignment.filled_length true (Alignment.source (.add text :: after))
    done.target.length (done.weight + 1) (script.shownBefore true done.weight) before (by
      intro position operation found early
      rw [← between, List.getElem?_drop, List.getElem?_take] at found
      split at found
      · exact insertion_of_partner (of_decide_eq_true early) found
      · cases found)
  rw [growthBetween, between]
  omega

/-- A partner is not shown before its own deletion is carried out. -/
theorem partner_not_shown (merges : script.Merges true text first second) :
    script.shownBefore true first second = false := by
  apply decide_eq_false
  intro shown
  rcases shown with ⟨earlier, inFront, also⟩
  rcases merged_with_eq_some_iff.mp also with ⟨_, alsoMerges⟩
  have same := merges_first_unique merges alsoMerges
  omega

theorem shown_before_succ (partner : script.mergedWith? true first = some second)
    (away : index ≠ second) :
    script.shownBefore true (first + 1) index = script.shownBefore true first index := by
  unfold shownBefore
  rw [decide_eq_decide, partner_before_succ_iff, partner]
  simp [Ne.symm away]

theorem shown_before_succ_of_alone (alone : script.mergedWith? true first = none) :
    script.shownBefore true (first + 1) = script.shownBefore true first := by
  funext index
  unfold shownBefore
  rw [decide_eq_decide, partner_before_succ_iff, alone]
  simp

end Script

theorem adjusted_diff_outcome (describe insertOnly : Bool) (source target : Text) :
    (Script.diff ⟨describe, true, insertOnly⟩ source target).outcome =
      .ok ((walk describe 0 0 source target).merged insertOnly) := by
  rw [Script.diff, Script.derived_outcome]
  simp only [Option.getD_some, Bool.true_and]
  cases script : walk describe 0 0 source target with
  | nil => rfl
  | cons operation rest =>
      exact congrArg Except.ok (Script.adjustment_script_eq insertOnly (operation :: rest))

end EditScript
