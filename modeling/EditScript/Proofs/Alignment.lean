import EditScript.Script.Apply
import EditScript.Script.Diff

/-!
# Alignments of two texts

An alignment cuts two texts into columns: characters that both share, texts that
only one of them has, and characters exchanged for one another. The walk is not
studied choice by choice here. It is shown to be the script of some alignment of
its two texts, and every column of an alignment is shown to do its work on any
text in which the columns before it have been carried out already.
-/

namespace EditScript

set_option autoImplicit false

inductive Edit where
  | keep (char : Char)
  | remove (deleted : Text)
  | add (inserted : Text)
  | exchange (old new : Char)
  deriving DecidableEq, Repr

namespace Edit

/-- The side of a column in the source. -/
def old : Edit → Text
  | keep char => [char]
  | remove deleted => deleted
  | add _ => []
  | exchange old _ => [old]

/-- The side of a column in the target. -/
def new : Edit → Text
  | keep char => [char]
  | remove _ => []
  | add inserted => inserted
  | exchange _ new => [new]

/-- The operation of a column behind an offset of the target; it depends on
whether the source ends there. -/
def operation? (describe atEnd : Bool) (offset : Nat) : Edit → Option Operation
  | keep _ => none
  | remove deleted => some (deletion describe (offset + 1) deleted)
  | add inserted =>
    some (if atEnd then insertion .after offset inserted
      else insertion .before (offset + 1) inserted)
  | exchange old new => some (replacement describe (offset + 1) old new)

end Edit

abbrev Alignment := List Edit

namespace Alignment

def source (alignment : Alignment) : Text :=
  alignment.flatMap Edit.old

def target (alignment : Alignment) : Text :=
  alignment.flatMap Edit.new

/-- The operations of the columns, in order, where a further part of the source
stands behind them. -/
def script (describe : Bool) (behind : Text) : (offset : Nat) → Alignment → Script
  | _, [] => []
  | offset, edit :: rest =>
    (edit.operation? describe (source rest ++ behind).isEmpty offset).toList ++
      script describe behind (offset + edit.new.length) rest

/-- No column is empty, and text is added behind the source once at most. -/
def Proper : Alignment → Prop
  | [] => True
  | .remove deleted :: rest => deleted ≠ [] ∧ Proper rest
  | .add inserted :: rest => inserted ≠ [] ∧ (source rest = [] → rest = []) ∧ Proper rest
  | _ :: rest => Proper rest

@[simp] theorem source_cons (edit : Edit) (rest : Alignment) :
    source (edit :: rest) = edit.old ++ source rest := rfl

@[simp] theorem target_cons (edit : Edit) (rest : Alignment) :
    target (edit :: rest) = edit.new ++ target rest := rfl

theorem proper_tail {edit : Edit} {rest : Alignment} (proper : Proper (edit :: rest)) :
    Proper rest := by
  cases edit with
  | keep char => exact proper
  | remove deleted => exact proper.2
  | add inserted => exact proper.2.2
  | exchange old new => exact proper

end Alignment

/-- What a choice takes off the front of its text is not empty. -/
def Choice.Cuts (source target : Text) : Choice → Prop
  | delete deleted rest => deleted ≠ [] ∧ source = deleted ++ rest
  | insert inserted rest => inserted ≠ [] ∧ target = inserted ++ rest
  | replace => True

theorem choose_cuts (sourceOffset targetOffset : Nat) (old new : Char) (source target : Text) :
    (choose sourceOffset targetOffset old source new target).Cuts
      (old :: source) (new :: target) := by
  have deletion {front back : Text} (split : splitBefore? new source = some (front, back)) :
      (Choice.delete (old :: front) back).Cuts (old :: source) (new :: target) := by
    exact ⟨by simp, by simp [append_of_splitBefore split]⟩
  have insertion {front back : Text} (split : splitBefore? old target = some (front, back)) :
      (Choice.insert (new :: front) back).Cuts (old :: source) (new :: target) := by
    exact ⟨by simp, by simp [append_of_splitBefore split]⟩
  unfold choose
  split
  · trivial
  · next found _ => exact deletion found
  · next found => exact insertion found
  · next sourceFound targetFound =>
      split
      · exact deletion sourceFound
      · exact insertion targetFound

/-- The front that is cut off ends where both texts go on with the same character. -/
def Choice.Meets (old new : Char) : Choice → Prop
  | delete _ rest => ∃ later, rest = new :: later
  | insert _ rest => ∃ later, rest = old :: later
  | replace => True

theorem meets_at_split {char : Char} {text front back : Text}
    (split : splitBefore? char text = some (front, back)) : ∃ later, back = char :: later := by
  induction text generalizing front with
  | nil => cases split
  | cons first rest induction =>
      by_cases same : first = char
      · rw [splitBefore?, if_pos same] at split
        cases split
        exact ⟨rest, by rw [same]⟩
      · rw [splitBefore?, if_neg same, Option.map_eq_some_iff] at split
        obtain ⟨⟨inner, outer⟩, found, equal⟩ := split
        cases equal
        exact induction found

theorem choose_meets (sourceOffset targetOffset : Nat) (old new : Char) (source target : Text) :
    (choose sourceOffset targetOffset old source new target).Meets old new := by
  unfold choose
  split
  · trivial
  · next found _ => exact meets_at_split found
  · next found => exact meets_at_split found
  · next sourceFound targetFound =>
      split
      · exact meets_at_split sourceFound
      · exact meets_at_split targetFound

namespace Alignment

/-- The alignments that the walk makes. A shared character comes after whatever is removed
or added, except at the end, where one of the texts may have something left over. What is
added starts with another character. -/
inductive Tight : Alignment → Prop
  | nothing : Tight []
  | removedRest {deleted : Text} (nonempty : deleted ≠ []) : Tight [.remove deleted]
  | addedRest {inserted : Text} (nonempty : inserted ≠ []) : Tight [.add inserted]
  | keep {rest : Alignment} (char : Char) (tight : Tight rest) : Tight (.keep char :: rest)
  | remove {rest : Alignment} {deleted : Text} (nonempty : deleted ≠ []) (char : Char)
      (tight : Tight rest) : Tight (.remove deleted :: .keep char :: rest)
  | add {rest : Alignment} {inserted : Text} (nonempty : inserted ≠ []) (char : Char)
      (different : inserted.head? ≠ some char) (tight : Tight rest) :
      Tight (.add inserted :: .keep char :: rest)
  | exchange {rest : Alignment} {old new : Char} (different : old ≠ new) (tight : Tight rest) :
      Tight (.exchange old new :: rest)

theorem Tight.proper {alignment : Alignment} (tight : alignment.Tight) : alignment.Proper := by
  induction tight with
  | nothing => trivial
  | removedRest nonempty => exact ⟨nonempty, trivial⟩
  | addedRest nonempty => exact ⟨nonempty, fun _ => rfl, trivial⟩
  | keep char tight proper => exact proper
  | remove nonempty char tight proper => exact ⟨nonempty, proper⟩
  | add nonempty char different tight proper => exact ⟨nonempty, nofun, proper⟩
  | exchange different tight proper => exact proper

theorem tight_tail {edit : Edit} {rest : Alignment} (tight : Tight (edit :: rest)) :
    Tight rest := by
  cases tight with
  | removedRest nonempty => exact .nothing
  | addedRest nonempty => exact .nothing
  | keep char tight => exact tight
  | remove nonempty char tight => exact tight.keep char
  | add nonempty char different tight => exact tight.keep char
  | exchange different tight => exact tight

theorem tight_of_append {front back : Alignment} (tight : Tight (front ++ back)) : Tight back := by
  induction front with
  | nil => exact tight
  | cons edit rest induction => exact induction (tight_tail tight)

/-- A tight alignment of two texts which the walk follows from these offsets on, whether or
not its operations are described. -/
structure Traces (alignment : Alignment) (sourceOffset targetOffset : Nat) (source target : Text) :
    Prop where
  tight : alignment.Tight
  source_eq : alignment.source = source
  target_eq : alignment.target = target
  script_eq : ∀ describe, walk describe sourceOffset targetOffset source target =
    alignment.script describe [] targetOffset

section

variable {alignment : Alignment} {sourceOffset targetOffset : Nat} {source target : Text}
  {old new : Char}

theorem traces_nothing : Traces [] sourceOffset targetOffset [] [] where
  tight := .nothing
  source_eq := rfl
  target_eq := rfl
  script_eq describe := by
    rw [walk]
    rfl

theorem traces_removed_rest :
    Traces [.remove (old :: source)] sourceOffset targetOffset (old :: source) [] where
  tight := .removedRest (List.cons_ne_nil old source)
  source_eq := List.append_nil (old :: source)
  target_eq := rfl
  script_eq describe := by
    rw [walk]
    rfl

theorem traces_added_rest :
    Traces [.add (new :: target)] sourceOffset targetOffset [] (new :: target) where
  tight := .addedRest (List.cons_ne_nil new target)
  source_eq := rfl
  target_eq := List.append_nil (new :: target)
  script_eq describe := by
    rw [walk]
    rfl

theorem Traces.keep (char : Char)
    (traces : alignment.Traces (sourceOffset + 1) (targetOffset + 1) source target) :
    Traces (.keep char :: alignment) sourceOffset targetOffset (char :: source)
      (char :: target) where
  tight := traces.tight.keep char
  source_eq := congrArg (char :: ·) traces.source_eq
  target_eq := congrArg (char :: ·) traces.target_eq
  script_eq describe := by
    rw [walk_keep, traces.script_eq]
    rfl

theorem Traces.remove {deleted rest : Text} (different : old ≠ new)
    (choice : choose sourceOffset targetOffset old source new target = .delete deleted (new :: rest))
    (traces : alignment.Traces (sourceOffset + deleted.length + 1) (targetOffset + 1) rest target) :
    Traces (.remove deleted :: .keep new :: alignment) sourceOffset targetOffset (old :: source)
      (new :: target) := by
  have cuts := choose_cuts sourceOffset targetOffset old new source target
  rw [choice] at cuts
  constructor
  · exact traces.tight.remove cuts.1 new
  · rw [cuts.2, ← traces.source_eq]
    rfl
  · exact congrArg (new :: ·) traces.target_eq
  · intro describe
    rw [walk_delete different choice, walk_keep, traces.script_eq]
    rfl

theorem Traces.add {inserted rest : Text} (different : old ≠ new)
    (choice : choose sourceOffset targetOffset old source new target =
      .insert inserted (old :: rest))
    (traces : alignment.Traces (sourceOffset + 1) (targetOffset + inserted.length + 1) source rest) :
    Traces (.add inserted :: .keep old :: alignment) sourceOffset targetOffset (old :: source)
      (new :: target) := by
  have cuts := choose_cuts sourceOffset targetOffset old new source target
  rw [choice] at cuts
  have head : inserted.head? ≠ some old := by
    obtain ⟨first, later, rfl⟩ := List.exists_cons_of_ne_nil cuts.1
    intro same
    have start : new = first := (List.cons.inj cuts.2).1
    exact different ((start.trans (Option.some.inj same)).symm)
  constructor
  · exact traces.tight.add cuts.1 old head
  · exact congrArg (old :: ·) traces.source_eq
  · rw [cuts.2, ← traces.target_eq]
    rfl
  · intro describe
    rw [walk_insert different choice, walk_keep, traces.script_eq]
    rfl

theorem Traces.exchange (different : old ≠ new)
    (choice : choose sourceOffset targetOffset old source new target = .replace)
    (traces : alignment.Traces (sourceOffset + 1) (targetOffset + 1) source target) :
    Traces (.exchange old new :: alignment) sourceOffset targetOffset (old :: source)
      (new :: target) where
  tight := traces.tight.exchange different
  source_eq := congrArg (old :: ·) traces.source_eq
  target_eq := congrArg (new :: ·) traces.target_eq
  script_eq describe := by
    rw [walk_replace different choice, traces.script_eq]
    rfl

end

end Alignment

/-- The walk follows an alignment. The induction is on what is left of both texts: behind a
removed or an added text the walk keeps a character, so such a column is put in front together
with the one behind it. -/
theorem walk_traces (sourceOffset targetOffset : Nat) (source target : Text) :
    ∃ alignment : Alignment, alignment.Traces sourceOffset targetOffset source target := by
  induction remaining : source.length + target.length using Nat.strongRecOn
    generalizing sourceOffset targetOffset source target with
  | ind size induction =>
      have shorter (sourceOffset targetOffset : Nat) (front back : Text)
          (less : front.length + back.length < size) :
          ∃ alignment : Alignment, alignment.Traces sourceOffset targetOffset front back :=
        induction _ less sourceOffset targetOffset front back rfl
      cases source with
      | nil =>
          cases target with
          | nil => exact ⟨[], Alignment.traces_nothing⟩
          | cons new target => exact ⟨_, Alignment.traces_added_rest⟩
      | cons old source =>
          cases target with
          | nil => exact ⟨_, Alignment.traces_removed_rest⟩
          | cons new target =>
              simp only [List.length_cons] at remaining
              by_cases different : old = new
              · obtain ⟨alignment, traces⟩ :=
                  shorter (sourceOffset + 1) (targetOffset + 1) source target (by omega)
                subst different
                exact ⟨_, traces.keep old⟩
              have cuts := choose_cuts sourceOffset targetOffset old new source target
              have meets := choose_meets sourceOffset targetOffset old new source target
              cases choice : choose sourceOffset targetOffset old source new target with
              | delete deleted rest =>
                  rw [choice] at cuts meets
                  obtain ⟨later, rfl⟩ := meets
                  have whole := congrArg List.length cuts.2
                  simp only [List.length_append, List.length_cons] at whole
                  obtain ⟨alignment, traces⟩ :=
                    shorter (sourceOffset + deleted.length + 1) (targetOffset + 1) later target
                      (by omega)
                  exact ⟨_, traces.remove different choice⟩
              | insert inserted rest =>
                  rw [choice] at cuts meets
                  obtain ⟨later, rfl⟩ := meets
                  have whole := congrArg List.length cuts.2
                  simp only [List.length_append, List.length_cons] at whole
                  obtain ⟨alignment, traces⟩ :=
                    shorter (sourceOffset + 1) (targetOffset + inserted.length + 1) source later
                      (by omega)
                  exact ⟨_, traces.add different choice⟩
              | replace =>
                  obtain ⟨alignment, traces⟩ :=
                    shorter (sourceOffset + 1) (targetOffset + 1) source target (by omega)
                  exact ⟨_, traces.exchange different choice⟩

theorem walk_is_alignment_script (describe : Bool) (sourceOffset targetOffset : Nat)
    (source target : Text) :
    ∃ alignment : Alignment, alignment.Proper ∧ alignment.source = source ∧
      alignment.target = target ∧
      walk describe sourceOffset targetOffset source target =
        alignment.script describe [] targetOffset := by
  obtain ⟨alignment, traces⟩ := walk_traces sourceOffset targetOffset source target
  exact ⟨alignment, traces.tight.proper, traces.source_eq, traces.target_eq,
    traces.script_eq describe⟩

end EditScript
