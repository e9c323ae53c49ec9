import EditScript.Proofs.Relocation
import Mathlib.Data.List.Chain

/-!
# The form of derived scripts

A script that is derived and not merged consists of deletions, insertions and replacements of
one character by another, each of them further on in the text than the one before. A shared
character follows whatever is removed or added, so every operation but the last has a character
of both texts to itself, and there are no more of them than the longer text has characters.
-/

namespace EditScript

set_option autoImplicit false

/-- A span of a text holds exactly these characters. -/
def Text.Holds (text : Text) (span : Span) (part : Text) : Prop :=
  ∃ front back, text = front ++ (part ++ back) ∧ span = ⟨front.length + 1, part.length⟩

theorem Text.holds_at_split (front part back : Text) :
    (front ++ (part ++ back)).Holds ⟨front.length + 1, part.length⟩ part :=
  ⟨front, back, rfl, rfl⟩

/-- Every operation of a script can be executed in its turn, and something holds of it together
with the text that it is executed on. -/
def Script.Throughout (holds : Operation → Text → Prop) : Script → Text → Prop
  | [], _ => True
  | operation :: rest, text =>
    holds operation text ∧
      ∃ result, operation.execute text = .ok result ∧ Throughout holds rest result

/-- Neither side of a column is empty where it may not be, and exchanged characters differ. -/
def Edit.Filled : Edit → Prop
  | keep _ => True
  | remove deleted => deleted ≠ []
  | add inserted => inserted ≠ []
  | exchange old new => old ≠ new

namespace Alignment

variable {alignment : Alignment}

theorem Tight.filled (tight : alignment.Tight) : ∀ edit ∈ alignment, edit.Filled := by
  induction tight with
  | nothing => exact List.forall_mem_nil _
  | removedRest nonempty => exact List.forall_mem_singleton.mpr nonempty
  | addedRest nonempty => exact List.forall_mem_singleton.mpr nonempty
  | keep char tight filled => exact List.forall_mem_cons.mpr ⟨trivial, filled⟩
  | remove nonempty char tight filled | add nonempty char different tight filled =>
      exact List.forall_mem_cons.mpr ⟨nonempty, List.forall_mem_cons.mpr ⟨trivial, filled⟩⟩
  | exchange different tight filled => exact List.forall_mem_cons.mpr ⟨different, filled⟩

/-- What holds of the operation of each column, wherever the column stands, holds throughout
the script. The induction follows the columns; what has been carried out is in front. -/
theorem script_throughout {holds : Operation → Text → Prop} {describe : Bool}
    (proper : alignment.Proper)
    (columns : ∀ edit ∈ alignment, ∀ front rest atEnd operation,
      edit.operation? describe atEnd front.length = some operation →
        holds operation (front ++ (edit.old ++ rest)))
    (front : Text) :
    Script.Throughout holds (alignment.script describe [] front.length)
      (front ++ alignment.source) := by
  induction alignment generalizing front with
  | nil => trivial
  | cons edit rest induction =>
      have later := induction (proper_tail proper)
        (fun other member => columns other (List.mem_cons_of_mem edit member)) (front ++ edit.new)
      rw [List.length_append, List.append_assoc] at later
      rw [script, List.append_nil, source_cons]
      cases found : edit.operation? describe (source rest).isEmpty front.length with
      | none =>
          cases edit with
          | keep char => exact later
          | _ => cases found
      | some operation =>
          have filled : edit ≠ .remove [] := by
            rintro rfl
            exact proper.1 rfl
          have effect := edit_result_at_split filled (fun _ _ => List.isEmpty_iff) found
          refine ⟨?_, _, execute_of_result effect, later⟩
          exact columns edit List.mem_cons_self front (source rest) _ operation found

end Alignment

namespace Operation

/-- What an operation of a derived script is like on the text that it is executed on. -/
def Elementary (operation : Operation) (text : Text) : Prop :=
  match operation.action with
  | .delete => ∃ deleted, deleted ≠ [] ∧ text.Holds operation.span deleted
  | .insert _ inserted => inserted ≠ []
  | .replace replacement =>
    ∃ old new, old ≠ new ∧ replacement = [new] ∧ text.Holds operation.span [old]
  | .move _ _ => False
  | .swap _ _ => False

/-- An operation is further on than a place, or it inserts text right behind it. -/
def Behind (place : Nat) (operation : Operation) : Prop :=
  place < operation.span.start ∨ operation.kind = .insert .after ∧ place = operation.span.start

/-- One operation may come directly in front of another: nothing comes behind an insertion after
a character, and the start increases, except that such an insertion may repeat it. -/
structure LeadsTo (first second : Operation) : Prop where
  goes_on : first.kind ≠ .insert .after
  increases : second.Behind first.span.start

theorem Behind.mono {operation : Operation} {place earlier : Nat} (behind : operation.Behind place)
    (before : earlier ≤ place) : operation.Behind earlier := by
  rcases behind with further | ⟨after, same⟩
  · exact .inl (Nat.lt_of_le_of_lt before further)
  · rcases Nat.eq_or_lt_of_le before with equal | less
    · exact .inr ⟨after, equal.trans same⟩
    · exact .inl (same ▸ less)

end Operation

namespace Script

/-- The operations of a script come one behind the other, and the first behind a place. -/
structure Ascending (place : Nat) (script : Script) : Prop where
  first : ∀ operation ∈ script.head?, operation.Behind place
  chain : script.IsChain Operation.LeadsTo

theorem ascending_nil (place : Nat) : Ascending place [] :=
  ⟨nofun, List.isChain_nil⟩

theorem ascending_singleton {place : Nat} {operation : Operation}
    (behind : operation.Behind place) : Ascending place [operation] where
  first := by
    rintro _ ⟨⟩
    exact behind
  chain := List.isChain_singleton operation

theorem Ascending.cons {place reached : Nat} {operation : Operation} {script : Script}
    (ascending : script.Ascending reached) (behind : place < operation.span.start)
    (goes_on : operation.kind ≠ .insert .after) (before : operation.span.start ≤ reached) :
    Ascending place (operation :: script) where
  first := by
    rintro _ ⟨⟩
    exact .inl behind
  chain := by
    apply List.isChain_cons.mpr
    constructor
    · intro next head
      exact ⟨goes_on, (ascending.first next head).mono before⟩
    · exact ascending.chain

theorem Ascending.mono {place earlier : Nat} {script : Script} (ascending : script.Ascending place)
    (before : earlier ≤ place) : script.Ascending earlier where
  first operation head := (ascending.first operation head).mono before
  chain := ascending.chain

end Script

namespace Alignment

variable {alignment : Alignment}

/-- The operations of a tight alignment come one behind the other: each leaves a character of
the target between its place and that of the next one, an insertion at the end apart. -/
theorem Tight.script_ascending (describe : Bool) (tight : alignment.Tight) (offset : Nat) :
    (alignment.script describe [] offset).Ascending offset := by
  induction tight generalizing offset with
  | nothing => exact Script.ascending_nil offset
  | removedRest nonempty => exact Script.ascending_singleton (.inl (Nat.lt_succ_self offset))
  | addedRest nonempty => exact Script.ascending_singleton (.inr ⟨rfl, rfl⟩)
  | keep char tight ascending => exact (ascending (offset + 1)).mono (Nat.le_succ offset)
  | remove nonempty char tight ascending =>
      exact (ascending (offset + 0 + 1)).cons (Nat.lt_succ_self offset) nofun (Nat.le_refl _)
  | @add rest inserted nonempty char different tight ascending =>
      -- a kept character stands behind what is added, so it is not the end of the source
      change Script.Ascending offset (insertion .before (offset + 1) inserted :: _)
      apply (ascending (offset + inserted.length + 1)).cons
      · exact Nat.lt_succ_self offset
      · change Kind.insert .before ≠ .insert .after
        decide
      · exact Nat.succ_le_succ (Nat.le_add_right offset inserted.length)
  | exchange different tight ascending =>
      exact (ascending (offset + 1)).cons (Nat.lt_succ_self offset) nofun (Nat.le_refl _)

/-- Every operation has a character of each text to itself, except that one at the end may have
a character of one text only. -/
theorem Tight.weight_le (tight : alignment.Tight) :
    alignment.weight ≤ max alignment.source.length alignment.target.length := by
  induction tight with
  | nothing => exact Nat.zero_le _
  | removedRest nonempty | addedRest nonempty =>
      have positive := List.length_pos_iff.mpr nonempty
      simp only [weight, Edit.weight, source_cons, target_cons, Edit.old, Edit.new,
        List.length_append]
      omega
  | keep char tight bound | exchange different tight bound =>
      simp only [weight, Edit.weight, source_cons, target_cons, Edit.old, Edit.new,
        List.length_append, List.length_singleton]
      omega
  | remove nonempty char tight bound | add nonempty char different tight bound =>
      have positive := List.length_pos_iff.mpr nonempty
      simp only [weight, Edit.weight, source_cons, target_cons, Edit.old, Edit.new,
        List.length_append, List.length_singleton, List.length_nil]
      omega

end Alignment

theorem Edit.operation_elementary {edit : Edit} (filled : edit.Filled) (front rest : Text)
    {describe atEnd : Bool} {operation : Operation}
    (found : edit.operation? describe atEnd front.length = some operation) :
    operation.Elementary (front ++ (edit.old ++ rest)) := by
  cases edit with
  | keep char => cases found
  | remove deleted =>
      cases found
      exact ⟨deleted, filled, Text.holds_at_split front deleted rest⟩
  | add inserted =>
      cases found
      cases atEnd with
      | true => exact filled
      | false => exact filled
  | exchange old new =>
      cases found
      exact ⟨old, new, filled, rfl, Text.holds_at_split front [old] rest⟩

/-- Derived without merging, a script consists of deletions, insertions of some text and
replacements of one character by another, all of which can be executed in turn. An insertion
after a character comes last if there is one. The starts increase from each operation to the
next, up to a last insertion that may repeat the start in front of it; and there are at most
as many operations as the longer text has characters. -/
theorem unadjusted_diff_in_normal_form (describe insertOnly : Bool) (source target : Text) :
    ∃ script, (Script.diff ⟨describe, false, insertOnly⟩ source target).outcome = .ok script ∧
      script.Throughout Operation.Elementary source ∧ script.IsChain Operation.LeadsTo ∧
      script.length ≤ max source.length target.length := by
  obtain ⟨alignment, traces⟩ := walk_traces 0 0 source target
  have derived := traces.script_eq describe
  have tight := traces.tight
  obtain rfl := traces.source_eq
  obtain rfl := traces.target_eq
  refine ⟨_, rfl, ?_⟩
  rw [Option.getD_some, derived]
  constructor
  · apply Alignment.script_throughout tight.proper _ []
    intro edit member front rest atEnd operation found
    exact edit.operation_elementary (tight.filled edit member) front rest found
  constructor
  · exact (tight.script_ascending describe 0).chain
  · rw [Alignment.length_script]
    exact tight.weight_le

end EditScript
