import EditScript.Proofs.Alignment
import Mathlib.Logic.Basic

/-!
# Looking ahead

Where the texts differ, the walk looks for each side's character on the other side. If both
occur, the offsets of the two occurrences decide, each counted from the start of its text. The
distances from the cursors decide only as far as the cursors are level: the text whose cursor
is behind has that much of an advantage. The walk is followed step by step here, so that this
can be said of every place that it comes to.
-/

namespace EditScript

set_option autoImplicit false

/-- A character stands at a distance behind an offset of a text, and nowhere nearer. -/
structure NextAt (char : Char) (text : Text) (offset distance : Nat) : Prop where
  there : text[offset + distance]? = some char
  nearest : ∀ nearer, nearer < distance → text[offset + nearer]? ≠ some char

/-- The offsets that the walk has come to. -/
structure Cursors where
  source : Nat
  target : Nat
  deriving DecidableEq, Repr

namespace Cursors

/-- The operation that the walk derives at its cursors, if any, and where it goes on. There is
no step from the end of a text. -/
def step (describe : Bool) (source target : Text) (cursors : Cursors) :
    Option (Option Operation × Cursors) :=
  match source.drop cursors.source, target.drop cursors.target with
  | old :: oldRest, new :: newRest =>
    if old = new then some (none, ⟨cursors.source + 1, cursors.target + 1⟩)
    else match choose cursors.source cursors.target old oldRest new newRest with
      | .delete deleted _ =>
        some (some (deletion describe (cursors.target + 1) deleted),
          ⟨cursors.source + deleted.length, cursors.target⟩)
      | .insert inserted _ =>
        some (some (insertion .before (cursors.target + 1) inserted),
          ⟨cursors.source, cursors.target + inserted.length⟩)
      | .replace =>
        some (some (replacement describe (cursors.target + 1) old new),
          ⟨cursors.source + 1, cursors.target + 1⟩)
  | _, _ => none

/-- What the walk still derives from its cursors on. -/
def remaining (describe : Bool) (source target : Text) (cursors : Cursors) : Script :=
  walk describe cursors.source cursors.target (source.drop cursors.source)
    (target.drop cursors.target)

/-- The deletion up to a distance from the cursor of the source. -/
def deletionUpTo (describe : Bool) (source : Text) (cursors : Cursors) (distance : Nat) :
    Operation :=
  deletion describe (cursors.target + 1) ((source.drop cursors.source).take distance)

/-- The insertion of what stands up to a distance from the cursor of the target. -/
def insertionUpTo (target : Text) (cursors : Cursors) (distance : Nat) : Operation :=
  insertion .before (cursors.target + 1) ((target.drop cursors.target).take distance)

/-- The walk comes to these cursors, with this script derived on its way. -/
inductive Reached (describe : Bool) (source target : Text) : Cursors → Script → Prop where
  | start : Reached describe source target ⟨0, 0⟩ []
  | next {cursors later : Cursors} {script : Script} {operation : Option Operation}
      (reached : Reached describe source target cursors script)
      (step : cursors.step describe source target = some (operation, later)) :
      Reached describe source target later (script ++ operation.toList)

variable {describe : Bool} {source target : Text} {cursors later : Cursors}
  {operation : Option Operation} {script : Script}

theorem drop_behind {text front back : Text} {offset : Nat}
    (split : text.drop offset = front ++ back) : text.drop (offset + front.length) = back := by
  rw [← List.drop_drop, split, List.drop_left]

/-- One step: its operation comes first, and the rest is derived from where it goes on. -/
theorem remaining_of_step (step : cursors.step describe source target = some (operation, later)) :
    cursors.remaining describe source target =
      operation.toList ++ later.remaining describe source target := by
  unfold Cursors.step at step
  unfold remaining
  split at step
  · next old oldRest new newRest oldHere newHere =>
      have oldBehind := @drop_behind source [old] oldRest cursors.source oldHere
      have newBehind := @drop_behind target [new] newRest cursors.target newHere
      rw [List.length_singleton] at oldBehind newBehind
      rw [oldHere, newHere]
      split at step
      · next same =>
          cases step
          rw [same, walk_keep, oldBehind, newBehind]
          rfl
      · next different =>
          have cuts := choose_cuts cursors.source cursors.target old new oldRest newRest
          split at step
          · next deleted rest choice =>
              cases step
              rw [choice] at cuts
              rw [walk_delete different choice, drop_behind (oldHere.trans cuts.2), newHere]
              rfl
          · next inserted rest choice =>
              cases step
              rw [choice] at cuts
              rw [walk_insert different choice, drop_behind (newHere.trans cuts.2), oldHere]
              rfl
          · next choice =>
              cases step
              rw [walk_replace different choice, oldBehind, newBehind]
              rfl
  · cases step

/-- The whole run, by induction on the steps taken: what has been derived on the way, followed
by what is still to be derived, is the walk. -/
theorem Reached.walk_eq (reached : Reached describe source target cursors script) :
    walk describe 0 0 source target = script ++ cursors.remaining describe source target := by
  induction reached with
  | start => rfl
  | next _ step induction => rw [induction, remaining_of_step step, List.append_assoc]

end Cursors

/-- A character that stands next at a distance is where the look-ahead finds it. -/
theorem split_before_of_next {char : Char} {text : Text} {distance : Nat}
    (there : text[distance]? = some char)
    (nearest : ∀ nearer, nearer < distance → text[nearer]? ≠ some char) :
    splitBefore? char text = some (text.take distance, text.drop distance) := by
  induction text generalizing distance with
  | nil => cases there
  | cons first rest induction =>
      cases distance with
      | zero =>
          obtain rfl := Option.some.inj there
          rw [splitBefore?, if_pos rfl]
          rfl
      | succ distance =>
          have different : first ≠ char := by
            intro same
            exact nearest 0 (Nat.succ_pos distance) (congrArg some same)
          have found := induction there fun nearer before =>
            nearest (nearer + 1) (Nat.succ_lt_succ before)
          rw [splitBefore?, if_neg different, found]
          rfl

namespace NextAt

variable {char head : Char} {text rest : Text} {offset distance : Nat}

/-- Behind another character, the next occurrence is found by the look-ahead from there on. -/
theorem split (next : NextAt char text offset distance) (here : text.drop offset = head :: rest)
    (different : head ≠ char) :
    ∃ nearer, distance = nearer + 1 ∧ (rest.take nearer).length = nearer ∧
      splitBefore? char rest = some (rest.take nearer, rest.drop nearer) := by
  have shown (index : Nat) : text[offset + index]? = (head :: rest)[index]? := by
    rw [← here, List.getElem?_drop]
  have there := next.there
  rw [shown] at there
  cases distance with
  | zero => exact absurd (Option.some.inj there) different
  | succ nearer =>
      rw [List.getElem?_cons_succ] at there
      refine ⟨nearer, rfl, ?_, ?_⟩
      · have inside := (List.getElem?_eq_some_iff.mp there).1
        exact List.length_take_of_le (Nat.le_of_lt inside)
      · apply split_before_of_next there
        intro earlier before
        have absent := next.nearest (earlier + 1) (Nat.succ_lt_succ before)
        rw [shown, List.getElem?_cons_succ] at absent
        exact absent

theorem length_take (next : NextAt char text offset distance) :
    ((text.drop offset).take distance).length = distance := by
  have inside := (List.getElem?_eq_some_iff.mp next.there).1
  apply List.length_take_of_le
  rw [List.length_drop]
  omega

end NextAt

theorem drop_of_getElem {text : Text} {offset : Nat} {char : Char}
    (here : text[offset]? = some char) : text.drop offset = char :: text.drop (offset + 1) := by
  obtain ⟨inside, there⟩ := List.getElem?_eq_some_iff.mp here
  rw [List.drop_eq_getElem_cons inside, there]

namespace Cursors

variable {describe : Bool} {source target : Text} {cursors : Cursors} {script : Script}
  {old new : Char} {sourceDistance targetDistance : Nat}

/-- The step at a difference where both characters occur on the other side. -/
theorem step_of_next (oldHere : source[cursors.source]? = some old)
    (newHere : target[cursors.target]? = some new) (different : old ≠ new)
    (sourceNext : NextAt new source cursors.source sourceDistance)
    (targetNext : NextAt old target cursors.target targetDistance) :
    ∃ later, cursors.step describe source target =
      some (some (
        if cursors.source + sourceDistance ≤ cursors.target + targetDistance then
          cursors.deletionUpTo describe source sourceDistance
        else cursors.insertionUpTo target targetDistance), later) := by
  have oldDrop := drop_of_getElem oldHere
  have newDrop := drop_of_getElem newHere
  obtain ⟨sourceNearer, rfl, sourceLength, sourceSplit⟩ := sourceNext.split oldDrop different
  obtain ⟨targetNearer, rfl, targetLength, targetSplit⟩ :=
    targetNext.split newDrop (Ne.symm different)
  rw [step, deletionUpTo, insertionUpTo, oldDrop, newDrop]
  simp only [if_neg different, choose, sourceSplit, targetSplit, sourceLength, targetLength,
    List.take_succ_cons]
  by_cases nearer : cursors.source + (sourceNearer + 1) ≤ cursors.target + (targetNearer + 1)
  · have compared : cursors.source + sourceNearer ≤ cursors.target + targetNearer := by omega
    rw [if_pos nearer, if_pos compared]
    exact ⟨_, rfl⟩
  · have compared : ¬cursors.source + sourceNearer ≤ cursors.target + targetNearer := by omega
    rw [if_neg nearer, if_neg compared]
    exact ⟨_, rfl⟩

/-- The operation that the walk derives at a difference where both characters occur on the
other side: the offsets of the two occurrences decide, and the deletion wins at a tie. So the
nearer occurrence wins, and the deletion at a tie of the distances, exactly where the
distances compare like the offsets; they do wherever the cursors are level. -/
theorem lookahead_compares_offsets (reached : Reached describe source target cursors script)
    (oldHere : source[cursors.source]? = some old) (newHere : target[cursors.target]? = some new)
    (different : old ≠ new) (sourceNext : NextAt new source cursors.source sourceDistance)
    (targetNext : NextAt old target cursors.target targetDistance) :
    ∃ operation rest, walk describe 0 0 source target = script ++ operation :: rest ∧
      (cursors.source + sourceDistance ≤ cursors.target + targetDistance →
        operation = cursors.deletionUpTo describe source sourceDistance ∧
          operation.span.length = sourceDistance) ∧
      (cursors.target + targetDistance < cursors.source + sourceDistance →
        operation = cursors.insertionUpTo target targetDistance ∧
          ∃ inserted, operation.introduced = some inserted ∧ inserted.length = targetDistance) ∧
      ((operation =
          if sourceDistance ≤ targetDistance then
            cursors.deletionUpTo describe source sourceDistance
          else cursors.insertionUpTo target targetDistance) ↔
        (sourceDistance ≤ targetDistance ↔
          cursors.source + sourceDistance ≤ cursors.target + targetDistance)) := by
  obtain ⟨later, stepped⟩ :=
    @step_of_next describe source target cursors _ _ _ _ oldHere newHere different sourceNext
      targetNext
  have run := reached.walk_eq
  rw [remaining_of_step stepped, Option.toList_some, List.singleton_append] at run
  have unlike : cursors.deletionUpTo describe source sourceDistance ≠
      cursors.insertionUpTo target targetDistance := by
    intro same
    cases congrArg Operation.action same
  refine ⟨_, _, run, ?_, ?_, ?_⟩
  · intro first
    rw [if_pos first]
    refine ⟨rfl, ?_⟩
    exact sourceNext.length_take
  · intro first
    rw [if_neg (Nat.not_le.mpr first)]
    refine ⟨rfl, _, rfl, ?_⟩
    exact targetNext.length_take
  · by_cases first : cursors.source + sourceDistance ≤ cursors.target + targetDistance
    · rw [if_pos first, eq_comm, unlike.ite_eq_left_iff]
      exact (iff_true_right first).symm
    · rw [if_neg first, eq_comm, unlike.ite_eq_right_iff]
      exact (iff_false_right first).symm

/-- Texts whose cursors are not level at the second difference. -/
def unlevelSource : Text :=
  ['x', 'a', 'p', 'r']

def unlevelTarget : Text :=
  ['a', 'r', 'p']

theorem unlevel_reached :
    Reached true unlevelSource unlevelTarget ⟨2, 1⟩ [deletion true 1 ['x']] := by
  have deletes : step true unlevelSource unlevelTarget ⟨0, 0⟩ =
      some (some (deletion true 1 ['x']), ⟨1, 0⟩) := rfl
  have keeps : step true unlevelSource unlevelTarget ⟨1, 0⟩ = some (none, ⟨2, 1⟩) := rfl
  exact (Reached.start.next deletes).next keeps

theorem unlevel_next :
    NextAt 'r' unlevelSource 2 1 ∧ NextAt 'p' unlevelTarget 1 1 := by
  constructor
  · exact ⟨rfl, by decide⟩
  · exact ⟨rfl, by decide⟩

/-- Both characters occur one character further on. The occurrence in the source has the greater
offset, so that it is the insertion that is derived. -/
theorem unlevel_inserts :
    ∃ rest, walk true 0 0 unlevelSource unlevelTarget =
      deletion true 1 ['x'] :: insertion .before 2 ['r'] :: rest := by
  have different : 'p' ≠ 'r' := by decide
  obtain ⟨operation, rest, run, _, inserts, _⟩ :=
    lookahead_compares_offsets unlevel_reached rfl rfl different unlevel_next.1 unlevel_next.2
  obtain ⟨rfl, _⟩ := inserts (by decide)
  exact ⟨rest, run⟩

/-- Where the distances are level and the cursors are not, the deletion does not win. -/
theorem unlevel_tie_inserts :
    ¬ ∀ (describe : Bool) (source target : Text) (cursors : Cursors) (script : Script)
        (old new : Char) (sourceDistance targetDistance : Nat),
      Reached describe source target cursors script → source[cursors.source]? = some old →
      target[cursors.target]? = some new → old ≠ new →
      NextAt new source cursors.source sourceDistance →
      NextAt old target cursors.target targetDistance →
        ∃ rest, walk describe 0 0 source target = script ++
          (if sourceDistance ≤ targetDistance then
            cursors.deletionUpTo describe source sourceDistance
          else cursors.insertionUpTo target targetDistance) :: rest := by
  intro nearer
  have different : 'p' ≠ 'r' := by decide
  obtain ⟨rest, walked⟩ := nearer true unlevelSource unlevelTarget ⟨2, 1⟩ _ 'p' 'r' 1 1
    unlevel_reached rfl rfl different unlevel_next.1 unlevel_next.2
  have inserted : walk true 0 0 unlevelSource unlevelTarget =
      [deletion true 1 ['x'], insertion .before 2 ['r'], deletion true 4 ['r']] := by
    simp [unlevelSource, unlevelTarget, walk, choose, splitBefore?]
  rw [inserted] at walked
  cases (List.cons.inj (List.cons.inj walked).2).1

end Cursors

end EditScript
