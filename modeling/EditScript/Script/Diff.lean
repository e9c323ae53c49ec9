import EditScript.Script.Adjust

/-!
# Deriving a script from two texts

The walk compares two texts from left to right. Where they differ, it looks for
the next occurrence of each side's character on the other side: the offset that
is less, counted from the start of its text, decides between deleting up to one
and inserting up to the other, and with neither occurrence one character is
replaced. The script is to be executed in order, so its positions count in the
text as it is rebuilt: they follow the target.
-/

namespace EditScript

/-- A text in front of the first occurrence of a character, and from it on. -/
def splitBefore? (char : Char) : Text → Option (Text × Text)
  | [] => none
  | first :: rest =>
    if first = char then some ([], first :: rest)
    else (splitBefore? char rest).map fun (front, back) => (first :: front, back)

theorem append_of_splitBefore {char : Char} {text front back : Text}
    (split : splitBefore? char text = some (front, back)) : text = front ++ back := by
  induction text generalizing front with
  | nil => simp [splitBefore?] at split
  | cons first rest induction =>
    by_cases same : first = char
    · simp only [splitBefore?, same, if_true, Option.some.injEq, Prod.mk.injEq] at split
      obtain ⟨rfl, rfl⟩ := split
      simp [same]
    · simp only [splitBefore?, same, if_false, Option.map_eq_some_iff] at split
      obtain ⟨⟨inner, outer⟩, found, equal⟩ := split
      simp only [Prod.mk.injEq] at equal
      obtain ⟨rfl, rfl⟩ := equal
      simp [induction found]

theorem length_le_of_splitBefore {char : Char} {text front back : Text}
    (split : splitBefore? char text = some (front, back)) : back.length ≤ text.length := by
  simp [append_of_splitBefore split]

inductive Choice where
  /-- Delete these characters and go on with the rest of the source. -/
  | delete (deleted rest : Text)
  /-- Insert these characters and go on with the rest of the target. -/
  | insert (inserted rest : Text)
  | replace
  deriving DecidableEq, Repr

/-- The choice at a difference: the source goes on with one character and a rest,
the target with another character and a rest, at the given offsets. -/
def choose (sourceOffset targetOffset : Nat) (old : Char) (source : Text)
    (new : Char) (target : Text) : Choice :=
  match splitBefore? new source, splitBefore? old target with
  | none, none => .replace
  | some (front, back), none => .delete (old :: front) back
  | none, some (front, back) => .insert (new :: front) back
  | some (sourceFront, sourceBack), some (targetFront, targetBack) =>
    if sourceOffset + sourceFront.length ≤ targetOffset + targetFront.length then
      .delete (old :: sourceFront) sourceBack
    else .insert (new :: targetFront) targetBack

theorem length_le_of_choose_delete {sourceOffset targetOffset : Nat} {old new : Char}
    {source target deleted rest : Text}
    (choice : choose sourceOffset targetOffset old source new target = .delete deleted rest) :
    rest.length ≤ source.length := by
  unfold choose at choice
  split at choice
  · simp at choice
  · next split _ =>
    simp only [Choice.delete.injEq] at choice
    exact choice.2 ▸ length_le_of_splitBefore split
  · simp at choice
  · next split _ =>
    split at choice
    · simp only [Choice.delete.injEq] at choice
      exact choice.2 ▸ length_le_of_splitBefore split
    · simp at choice

theorem length_le_of_choose_insert {sourceOffset targetOffset : Nat} {old new : Char}
    {source target inserted rest : Text}
    (choice : choose sourceOffset targetOffset old source new target = .insert inserted rest) :
    rest.length ≤ target.length := by
  unfold choose at choice
  split at choice
  · simp at choice
  · simp at choice
  · next split =>
    simp only [Choice.insert.injEq] at choice
    exact choice.2 ▸ length_le_of_splitBefore split
  · next split =>
    split at choice
    · simp at choice
    · simp only [Choice.insert.injEq] at choice
      exact choice.2 ▸ length_le_of_splitBefore split

def describedAs (describe : Bool) (text : Text) : Option Text :=
  if describe then some text else none

def deletion (describe : Bool) (start : Nat) (deleted : Text) : Operation :=
  .plain (describedAs describe deleted) ⟨start, deleted.length⟩ .delete

def insertion (side : Side) (start : Nat) (inserted : Text) : Operation :=
  .plain none ⟨start, 1⟩ (.insert side inserted)

def replacement (describe : Bool) (start : Nat) (old new : Char) : Operation :=
  .plain (describedAs describe [old]) ⟨start, 1⟩ (.replace [new])

/-- The script that turns the rest of a source into the rest of a target, where
each rest starts at an offset. -/
def walk (describe : Bool) (sourceOffset targetOffset : Nat) : (source target : Text) → Script
  | [], [] => []
  | old :: source, [] => [deletion describe (targetOffset + 1) (old :: source)]
  | [], new :: target => [insertion .after targetOffset (new :: target)]
  | old :: source, new :: target =>
    if old = new then walk describe (sourceOffset + 1) (targetOffset + 1) source target
    else match _choice : choose sourceOffset targetOffset old source new target with
      | .delete deleted rest =>
        deletion describe (targetOffset + 1) deleted ::
          walk describe (sourceOffset + deleted.length) targetOffset rest (new :: target)
      | .insert inserted rest =>
        insertion .before (targetOffset + 1) inserted ::
          walk describe sourceOffset (targetOffset + inserted.length) (old :: source) rest
      | .replace =>
        replacement describe (targetOffset + 1) old new ::
          walk describe (sourceOffset + 1) (targetOffset + 1) source target
termination_by source target => source.length + target.length
decreasing_by
  · simp; omega
  · have shorter := length_le_of_choose_delete _choice
    simp; omega
  · have shorter := length_le_of_choose_insert _choice
    simp; omega
  · simp; omega

section

variable {describe : Bool} {sourceOffset targetOffset : Nat} {old new : Char}
  {source target : Text}

theorem walk_keep (char : Char) :
    walk describe sourceOffset targetOffset (char :: source) (char :: target) =
      walk describe (sourceOffset + 1) (targetOffset + 1) source target := by
  rw [walk, if_pos rfl]

theorem walk_delete {deleted rest : Text} (different : old ≠ new)
    (choice : choose sourceOffset targetOffset old source new target = .delete deleted rest) :
    walk describe sourceOffset targetOffset (old :: source) (new :: target) =
      deletion describe (targetOffset + 1) deleted ::
        walk describe (sourceOffset + deleted.length) targetOffset rest (new :: target) := by
  rw [walk, if_neg different]
  split
  · next chosen =>
      cases choice.symm.trans chosen
      rfl
  · next chosen => cases choice.symm.trans chosen
  · next chosen => cases choice.symm.trans chosen

theorem walk_insert {inserted rest : Text} (different : old ≠ new)
    (choice : choose sourceOffset targetOffset old source new target = .insert inserted rest) :
    walk describe sourceOffset targetOffset (old :: source) (new :: target) =
      insertion .before (targetOffset + 1) inserted ::
        walk describe sourceOffset (targetOffset + inserted.length) (old :: source) rest := by
  rw [walk, if_neg different]
  split
  · next chosen => cases choice.symm.trans chosen
  · next chosen =>
      cases choice.symm.trans chosen
      rfl
  · next chosen => cases choice.symm.trans chosen

theorem walk_replace (different : old ≠ new)
    (choice : choose sourceOffset targetOffset old source new target = .replace) :
    walk describe sourceOffset targetOffset (old :: source) (new :: target) =
      replacement describe (targetOffset + 1) old new ::
        walk describe (sourceOffset + 1) (targetOffset + 1) source target := by
  rw [walk, if_neg different]
  split
  · next chosen => cases choice.symm.trans chosen
  · next chosen => cases choice.symm.trans chosen
  · rfl

end

structure DiffOptions where
  /-- Whether operations describe the text of the source that they affect. -/
  describe : Bool
  adjust : Bool
  /-- Whether replacements are left out of the merging. -/
  insertOnly : Bool
  deriving DecidableEq, Repr

/-- The script that turns a source into a target, or into nothing if no target is
given. -/
def Script.diffTo (options : DiffOptions) (source : Text) (target : Option Text) :
    Traced Script := do
  let script := walk options.describe 0 0 source (target.getD [])
  Traced.log (.derived source target script)
  if options.adjust && !script.isEmpty then
    let adjustment := Script.adjustment options.insertOnly script
    Traced.logAll adjustment.events
    return adjustment.script
  else return script

/-- A derivation returns the walk, merged if that is asked for. -/
theorem Script.derived_outcome (options : DiffOptions) (source : Text) (target : Option Text) :
    (diffTo options source target).outcome =
      let script := walk options.describe 0 0 source (target.getD [])
      .ok (if options.adjust && !script.isEmpty then (adjustment options.insertOnly script).script
        else script) := by
  rw [diffTo, Traced.outcome_bind]
  change Traced.outcome (ite _ _ _) = _
  dsimp only
  split <;> rfl

def Script.diff (options : DiffOptions) (source target : Text) : Traced Script :=
  diffTo options source (some target)

end EditScript
