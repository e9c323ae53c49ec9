import EditScript.Proofs.Alignment

/-!
# Derived scripts rebuild their target

A script is executed column by column along an alignment of its two texts. Behind
the columns carried out so far stands the front of the target, and behind it the
rest of the source; every position of the script is counted in this mixed text.
-/

namespace EditScript

set_option autoImplicit false

namespace Text

theorem head_at_split (front rest : Text) (length : Nat) :
    (front ++ rest).head ⟨front.length + 1, length⟩ = front := by
  simp [head]

theorem middle_at_split (front middle rest : Text) :
    (front ++ (middle ++ rest)).middle ⟨front.length + 1, middle.length⟩ = middle := by
  simp [Text.middle]

theorem tail_at_split (front middle rest : Text) :
    (front ++ (middle ++ rest)).tail ⟨front.length + 1, middle.length⟩ = rest := by
  simp [tail, ← List.drop_drop]

theorem splice_at_split (front middle rest replacement : Text) :
    (front ++ (middle ++ rest)).splice ⟨front.length + 1, middle.length⟩ replacement =
      front ++ (replacement ++ rest) := by
  rw [splice, head_at_split, tail_at_split, List.append_assoc]

end Text

theorem span_fits_at_split (front rest : Text) {middle : Text} (nonempty : middle ≠ []) :
    Span.check ⟨front.length + 1, middle.length⟩ (front ++ (middle ++ rest)).length = .ok () := by
  have positive := List.length_pos_iff.mpr nonempty
  rw [Span.check_eq_ok_iff]
  simp only [Span.Fits, List.length_append]
  omega

theorem delete_at_split (front rest : Text) {deleted : Text} (nonempty : deleted ≠ []) :
    Action.delete.execute ⟨front.length + 1, deleted.length⟩ (front ++ (deleted ++ rest)) =
      .ok (front ++ rest) := by
  simp only [Action.execute]
  rw [span_fits_at_split front rest nonempty, Text.splice_at_split]
  rfl

theorem replace_at_split (front rest replacement : Text) {replaced : Text}
    (nonempty : replaced ≠ []) :
    (Action.replace replacement).execute ⟨front.length + 1, replaced.length⟩
      (front ++ (replaced ++ rest)) = .ok (front ++ (replacement ++ rest)) := by
  simp only [Action.execute]
  rw [span_fits_at_split front rest nonempty, Text.splice_at_split]
  rfl

theorem insert_before_at_split (front inserted : Text) {rest : Text} (nonempty : rest ≠ []) :
    (Action.insert .before inserted).execute ⟨front.length + 1, 1⟩ (front ++ rest) =
      .ok (front ++ (inserted ++ rest)) := by
  have positive := List.length_pos_iff.mpr nonempty
  have fits : Span.check ⟨front.length + 1, 1⟩ (front ++ rest).length = .ok () := by
    rw [Span.check_eq_ok_iff]
    simp only [Span.Fits, List.length_append]
    omega
  simp only [Action.execute, insertionIndex]
  rw [if_pos (Nat.succ_ne_zero _), fits]
  simp [bind, Except.bind, pure, Except.pure]

theorem insert_after_at_end (front inserted : Text) :
    (Action.insert .after inserted).execute ⟨front.length, 1⟩ front = .ok (front ++ inserted) := by
  simp only [Action.execute]
  cases size : front.length with
  | zero =>
      obtain rfl := List.length_eq_zero_iff.mp size
      simp [insertionIndex, pure, Except.pure]
  | succ count =>
      have fits : Span.check ⟨count + 1, 1⟩ (count + 1) = .ok () := by
        rw [Span.check_eq_ok_iff]
        simp only [Span.Fits]
        omega
      have whole : front.take (count + 1) = front := by
        rw [← size, List.take_length]
      have nothing : front.drop (count + 1) = [] := by
        rw [← size, List.drop_length]
      rw [if_pos (Nat.succ_ne_zero _), fits]
      simp [insertionIndex, whole, nothing, bind, Except.bind, pure, Except.pure]

/-- Each column is carried out in front of any text `rest` that ends where the
source does. -/
theorem edit_result_at_split {describe atEnd : Bool} {edit : Edit} {operation : Operation}
    {front rest : Text} (filled : edit ≠ .remove [])
    (ends : ∀ inserted, edit = .add inserted → (atEnd = true ↔ rest = []))
    (found : edit.operation? describe atEnd front.length = some operation) :
    operation.result (front ++ (edit.old ++ rest)) = .ok (front ++ (edit.new ++ rest)) := by
  cases edit with
  | keep char => simp [Edit.operation?] at found
  | remove deleted =>
      obtain rfl := Option.some.inj found
      exact delete_at_split front rest fun empty => filled (by rw [empty])
  | add inserted =>
      obtain rfl := Option.some.inj found
      cases atEnd with
      | true =>
          obtain rfl := (ends inserted rfl).mp rfl
          have appended := insert_after_at_end front inserted
          simp only [Edit.old, Edit.new, List.append_nil]
          exact appended
      | false =>
          have nonempty : rest ≠ [] := fun empty => by simpa using (ends inserted rfl).mpr empty
          exact insert_before_at_split front inserted nonempty
  | exchange old new =>
      obtain rfl := Option.some.inj found
      exact replace_at_split front rest [new] (List.cons_ne_nil old [])

theorem execute_of_result {operation : Operation} {text result : Text}
    (effect : operation.result text = .ok result) : operation.execute text = .ok result := by
  rw [Operation.execute, effect]
  rfl

namespace Script

theorem apply_cons (operation : Operation) (rest : Script) (text : Text) :
    (apply (operation :: rest) text).outcome =
      operation.execute text >>= fun result => (apply rest result).outcome := by
  simp only [apply, Traced.outcome_bind, Traced.outcome_ofExcept, Traced.outcome_log]
  rfl

theorem apply_append (first second : Script) (text : Text) :
    (apply (first ++ second) text).outcome =
      (apply first text).outcome >>= fun result => (apply second result).outcome := by
  induction first generalizing text with
  | nil => rfl
  | cons operation rest induction =>
      rw [List.cons_append, apply_cons, apply_cons]
      cases operation.execute text with
      | error failure => rfl
      | ok result => exact induction result

theorem apply_singleton (operation : Operation) (text : Text) :
    (apply [operation] text).outcome = operation.execute text := by
  rw [apply_cons]
  cases operation.execute text <;> rfl

theorem apply_cons_of_ok {operation : Operation} {text middle : Text}
    (executed : operation.execute text = .ok middle) (rest : Script) :
    (apply (operation :: rest) text).outcome = (apply rest middle).outcome := by
  rw [apply_cons, executed]
  rfl

theorem apply_append_of_ok {first : Script} {text middle : Text}
    (applied : (apply first text).outcome = .ok middle) (second : Script) :
    (apply (first ++ second) text).outcome = (apply second middle).outcome := by
  rw [apply_append, applied]
  rfl

end Script

namespace Alignment

theorem apply_column {describe atEnd : Bool} {edit : Edit} (front rest : Text)
    (filled : edit ≠ .remove [])
    (ends : ∀ inserted, edit = .add inserted → (atEnd = true ↔ rest = [])) :
    (Script.apply (edit.operation? describe atEnd front.length).toList
      (front ++ (edit.old ++ rest))).outcome = .ok (front ++ (edit.new ++ rest)) := by
  cases found : edit.operation? describe atEnd front.length with
  | none =>
      cases edit with
      | keep char => rfl
      | _ => simp [Edit.operation?] at found
  | some operation =>
      have effect := edit_result_at_split filled ends found
      rw [Option.toList_some, Script.apply_singleton, execute_of_result effect]

/-- The induction follows the columns: what has been carried out moves from the
alignment to the text in front of it. -/
theorem script_rebuilds (describe : Bool) (alignment : Alignment) (proper : alignment.Proper)
    (front : Text) :
    (Script.apply (alignment.script describe [] front.length) (front ++ alignment.source)).outcome =
      .ok (front ++ alignment.target) := by
  induction alignment generalizing front with
  | nil => rfl
  | cons edit rest induction =>
      have step : (Script.apply (edit.operation? describe (source rest).isEmpty front.length).toList
          (front ++ (edit.old ++ source rest))).outcome =
          .ok (front ++ (edit.new ++ source rest)) := by
        apply apply_column
        · intro same
          subst same
          exact proper.1 rfl
        · intro inserted column
          exact List.isEmpty_iff
      have later := induction (proper_tail proper) (front ++ edit.new)
      rw [List.length_append, List.append_assoc, List.append_assoc] at later
      rw [script, List.append_nil, source_cons, target_cons, Script.apply_append, step]
      exact later

end Alignment

/-- Without merging, the derived script turns the source into the target: it is
derived without a failure and executed without one. -/
theorem unadjusted_diff_rebuilds_target (source target : Text) (describe insertOnly : Bool) :
    ∃ script, (Script.diff ⟨describe, false, insertOnly⟩ source target).outcome = .ok script ∧
      (script.apply source).outcome = .ok target := by
  obtain ⟨alignment, proper, rfl, rfl, derived⟩ :=
    walk_is_alignment_script describe 0 0 source target
  refine ⟨_, rfl, ?_⟩
  simp only [Option.getD_some, derived]
  exact alignment.script_rebuilds describe proper []

end EditScript
