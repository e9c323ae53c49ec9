import EditScript.Log

/-!
# Merging deletions and insertions into moves

A deletion of a described text and a later operation that introduces exactly
this text are merged into a move, provided that no other operation of the script
introduces it. Insertions introduce text, and replacements do too unless only
insertions are asked for. The move stands in the place of the deletion.
-/

namespace EditScript

/-- Whether an operation introduces a text that may be the target of a move. -/
def Operation.introduces (insertOnly : Bool) (text : Text) (operation : Operation) : Bool :=
  match operation.action with
  | .insert _ inserted => inserted == text
  | .replace replacement => !insertOnly && replacement == text
  | _ => false

/-- The text that a deletion says it deletes. -/
def Operation.deletes? (operation : Operation) : Option Text :=
  match operation.action with
  | .delete => operation.described
  | _ => none

/-- The move that a deletion and an operation of the same text are merged into. It
goes in front of the character behind the place of that operation, and has the
note and the tags of the deletion, or else those of the other. -/
def mergedMove (deletion introduction : Operation) : Operation where
  described := deletion.described
  span := deletion.span
  note := deletion.note.or introduction.note
  tags := if deletion.tags.isEmpty then introduction.tags else deletion.tags
  action := .move .before (introduction.span.start + 1)

namespace Script

/-- The first operation at or behind an index that introduces a text, among those
that have not been merged. -/
def partner? (insertOnly : Bool) (text : Text) (taken : List Nat) :
    (index : Nat) → Script → Option (Nat × Operation)
  | _, [] => none
  | index, operation :: rest =>
    if !taken.contains index && operation.introduces insertOnly text then
      some (index, operation)
    else partner? insertOnly text taken (index + 1) rest

/-- Whether an operation other than the one at an index introduces a text, in a
script whose first operation has the given number. -/
def introducedElsewhere (insertOnly : Bool) (text : Text) (index : Nat) :
    (number : Nat) → Script → Bool
  | _, [] => false
  | number, operation :: rest =>
    (number != index && operation.introduces insertOnly text) ||
      introducedElsewhere insertOnly text index (number + 1) rest

end Script

/-- What becomes of an operation that has not been merged before. -/
inductive AdjustmentStep where
  | kept (operation : Operation)
  /-- A deletion that is kept because its text is introduced more than once. -/
  | ambiguous (deletion : Operation) (text : Text)
  | merged (deletion introduction : Operation)
  deriving DecidableEq, Repr

namespace AdjustmentStep

def operation : AdjustmentStep → Operation
  | kept operation => operation
  | ambiguous deletion _ => deletion
  | merged deletion introduction => mergedMove deletion introduction

def event? : AdjustmentStep → Option Event
  | kept _ => none
  | ambiguous deletion text => some (.ambiguous deletion text)
  | merged deletion introduction =>
    some (.merged deletion introduction (mergedMove deletion introduction))

def writable : AdjustmentStep → Bool
  | kept _ => true
  | ambiguous deletion _ => deletion.writable
  | merged deletion introduction =>
    deletion.writable && introduction.writable && (mergedMove deletion introduction).writable

end AdjustmentStep

abbrev Adjustment := List AdjustmentStep

namespace Adjustment

def script (adjustment : Adjustment) : Script :=
  adjustment.map AdjustmentStep.operation

def events (adjustment : Adjustment) : List Event :=
  adjustment.filterMap AdjustmentStep.event?

end Adjustment

namespace Script

/-- What becomes of one operation, and the index of its partner if it is merged. The
whole script, the operations behind this one and their index are given. -/
def adjustStep (insertOnly : Bool) (whole : Script) (taken : List Nat) (index : Nat)
    (operation : Operation) (later : Script) : AdjustmentStep × Option Nat :=
  match operation.deletes? with
  | none => (.kept operation, none)
  | some text =>
    match partner? insertOnly text taken index later with
    | none => (.kept operation, none)
    | some (found, introduction) =>
      if introducedElsewhere insertOnly text found 0 whole then
        (.ambiguous operation text, none)
      else (.merged operation introduction, some found)

/-- The steps for the operations from an index on, where the operations at some
indices have been merged already. -/
def adjustFrom (insertOnly : Bool) (whole : Script) (taken : List Nat) :
    (index : Nat) → Script → Adjustment
  | _, [] => []
  | index, operation :: later =>
    if taken.contains index then adjustFrom insertOnly whole taken (index + 1) later
    else
      let (step, partner) := adjustStep insertOnly whole taken (index + 1) operation later
      step :: adjustFrom insertOnly whole (partner.toList ++ taken) (index + 1) later

def adjustment (insertOnly : Bool) (script : Script) : Adjustment :=
  adjustFrom insertOnly script [] 0 script

/-- Logs the events of steps up to the first that cannot be written. -/
def logSteps : Adjustment → Traced Unit
  | [] => return ()
  | step :: rest => do
    if step.writable then
      Traced.logAll step.event?.toList
      logSteps rest
    else Traced.fail Failure.unwritable

def adjust (insertOnly : Bool) (script : Script) : Traced Script := do
  logSteps (adjustment insertOnly script)
  return (adjustment insertOnly script).script

end Script

end EditScript
