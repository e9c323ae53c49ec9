import EditScript.Proofs.Domain
import EditScript.Proofs.Rebuild

/-!
# Texts of equal length

Whether a script can be executed, and which of its operations fails if it cannot, is
settled by the length of the text. One operation lengthens all texts that it accepts by the
same number of characters, so two texts of equal length stay equally long, operation by
operation, until the script ends on both or fails on both.
-/

namespace EditScript

set_option autoImplicit false

/-- The length of what an action makes of a text of a given length. -/
def Action.lengthAfter (action : Action) (span : Span) (bound : Nat) : Nat :=
  match action with
  | .delete => bound - span.length
  | .insert _ inserted => bound + inserted.length
  | .replace replacement => bound - span.length + replacement.length
  | .move _ _ => bound
  | .swap _ _ => bound

namespace Text

variable {text : Text} {span earlier later : Span}

theorem length_middle (fits : span.Fits text.length) :
    (text.middle span).length = span.length := by
  obtain ⟨positive, inside, within⟩ := fits
  simp only [middle, List.length_take, List.length_drop]
  omega

/-- The later span is exchanged first, so the earlier one still fits. -/
theorem length_splice_twice (fitsEarlier : earlier.Fits text.length)
    (fitsLater : later.Fits text.length) (order : earlier.start < later.start)
    (apart : earlier.start + earlier.length ≤ later.start) :
    ((text.splice later (text.middle earlier)).splice earlier (text.middle later)).length =
      text.length := by
  have inner : (text.splice later (text.middle earlier)).length =
      text.length - later.length + earlier.length := by
    rw [length_splice fitsLater, length_middle fitsEarlier]
  obtain ⟨positive, inside, within⟩ := fitsLater
  have fits : earlier.Fits (text.splice later (text.middle earlier)).length := by
    rw [inner]
    exact ⟨fitsEarlier.1, by omega, by omega⟩
  rw [length_splice fits, inner, length_middle ⟨positive, inside, within⟩]
  omega

theorem length_exchange {first second : Span} (fitsFirst : first.Fits text.length)
    (fitsSecond : second.Fits text.length) (apart : first.overlaps second = false) :
    (exchange text first second).length = text.length := by
  unfold exchange
  unfold Span.overlaps at apart
  split at apart
  · cases apart
  · split at apart
    · next order =>
        rw [if_pos order]
        exact length_splice_twice fitsFirst fitsSecond order
          (Nat.not_lt.mp (of_decide_eq_false apart))
    · next different order =>
        rw [if_neg order]
        exact length_splice_twice fitsSecond fitsFirst (by omega)
          (Nat.not_lt.mp (of_decide_eq_false apart))

end Text

/-- What an accepted action does to the length of a text does not depend on its characters. -/
theorem Action.length_effect {action : Action} {span : Span} {text : Text}
    (accepted : action.check span text.length = .ok ()) :
    (action.effect span text).length = action.lengthAfter span text.length := by
  cases action with
  | delete => exact Text.length_splice ((Span.check_eq_ok_iff _ _).mp accepted) []
  | replace replacement =>
      exact Text.length_splice ((Span.check_eq_ok_iff _ _).mp accepted) replacement
  | insert side inserted =>
      simp only [effect, lengthAfter, List.length_append, List.length_take, List.length_drop]
      omega
  | move side target =>
      simp only [check, Grammar.bind_eq_ok_iff] at accepted
      obtain ⟨_, inside, _⟩ := accepted
      have fits := (Span.check_eq_ok_iff _ _).mp inside
      have rest := Text.length_splice fits []
      have moved := Text.length_middle fits
      obtain ⟨positive, inside, within⟩ := fits
      simp only [effect, lengthAfter, List.length_append, List.length_take, List.length_drop, rest,
        moved, List.length_nil]
      omega
  | swap other described =>
      simp only [check, Grammar.bind_eq_ok_iff, ok_unless_iff] at accepted
      obtain ⟨_, first, _, second, apart⟩ := accepted
      exact Text.length_exchange ((Span.check_eq_ok_iff _ _).mp first)
        ((Span.check_eq_ok_iff _ _).mp second) (Bool.eq_false_iff.mpr apart)

/-- Executions end alike if both fail in the same way or both leave texts of one length. -/
def EndAlike (first second : Except Failure Text) : Prop :=
  first.map List.length = second.map List.length

theorem EndAlike.ok {first second : Except Failure Text} {left : Text}
    (alike : EndAlike first second) (ended : first = .ok left) :
    ∃ right, second = .ok right ∧ left.length = right.length := by
  subst ended
  cases second with
  | error failure => cases alike
  | ok right => exact ⟨right, rfl, Except.ok.inj alike⟩

theorem EndAlike.error {first second : Except Failure Text} {failure : Failure}
    (alike : EndAlike first second) (ended : first = .error failure) :
    second = .error failure := by
  subst ended
  cases second with
  | error other => exact congrArg Except.error (Except.error.inj alike).symm
  | ok right => cases alike

/-- One operation: the check is the same for both texts, and so is the growth. -/
theorem Operation.execute_alike (operation : Operation) {first second : Text}
    (same : first.length = second.length) :
    EndAlike (operation.execute first) (operation.execute second) := by
  rw [EndAlike, execute_eq, execute_eq]
  cases checked : operation.action.check operation.span first.length with
  | error fault =>
      rw [same] at checked
      rw [checked]
  | ok =>
      have left := Action.length_effect checked
      rw [same] at checked left
      have right := Action.length_effect checked
      rw [checked]
      exact congrArg Except.ok (left.trans right.symm)

namespace Script

/-- A whole script, by induction on what is left of it; the texts may be any two of one
length, as they change with every operation. -/
theorem apply_alike (script : Script) {first second : Text} (same : first.length = second.length) :
    EndAlike (script.apply first).outcome (script.apply second).outcome := by
  induction script generalizing first second with
  | nil => exact congrArg Except.ok same
  | cons operation rest induction =>
      have step := operation.execute_alike same
      rw [apply_cons, apply_cons]
      cases left : operation.execute first with
      | error failure =>
          rw [step.error left]
          rfl
      | ok result =>
          obtain ⟨other, right, long⟩ := step.ok left
          rw [right]
          exact induction long

/-- A script that fails has a first operation that cannot be executed. -/
theorem apply_error {script : Script} {text : Text} {failure : Failure}
    (failed : (script.apply text).outcome = .error failure) :
    ∃ front operation back reached, script = front ++ operation :: back ∧
      (apply front text).outcome = .ok reached ∧ operation.execute reached = .error failure := by
  induction script generalizing text with
  | nil => cases failed
  | cons operation rest induction =>
      rw [apply_cons] at failed
      cases executed : operation.execute text with
      | error other =>
          rw [executed] at failed
          obtain rfl := Except.error.inj failed
          exact ⟨[], operation, rest, text, rfl, rfl, executed⟩
      | ok result =>
          rw [executed] at failed
          obtain ⟨front, stopped, back, reached, rfl, passed, refused⟩ := induction failed
          refine ⟨operation :: front, stopped, back, reached, rfl, ?_, refused⟩
          rw [apply_cons, executed]
          exact passed

variable {script : Script} {first second : Text}

/-- On two texts of equal length a script ends alike. Either it can be executed on both, with
results of equal length, or one and the same operation of it is the first that does not
suit its text, on both, and the fault is the same in all its numbers; its bound is the
length of the texts that the operations in front of it have left. -/
theorem ends_by_length (valid : ∀ operation ∈ script, operation.Valid)
    (writable : ∀ operation ∈ script, operation.writable = true)
    (same : first.length = second.length) :
    (∃ left right, (script.apply first).outcome = .ok left ∧
        (script.apply second).outcome = .ok right ∧ left.length = right.length) ∨
      ∃ front operation back left right fault, script = front ++ operation :: back ∧
        (apply front first).outcome = .ok left ∧ (apply front second).outcome = .ok right ∧
        left.length = right.length ∧ ¬operation.action.Suits operation.span left.length ∧
        (script.apply first).outcome = .error (.range fault (some operation)) ∧
        (script.apply second).outcome = .error (.range fault (some operation)) ∧
        fault.bound? = some left.length := by
  cases ended : (script.apply first).outcome with
  | ok left =>
      obtain ⟨right, other, long⟩ := (script.apply_alike same).ok ended
      exact Or.inl ⟨left, right, rfl, other, long⟩
  | error failure =>
      obtain ⟨front, operation, back, left, rfl, passed, refused⟩ := apply_error ended
      have member : operation ∈ front ++ operation :: back := by simp
      obtain ⟨fault, rfl, bound⟩ := Operation.fault_of_execute (writable operation member) refused
      obtain ⟨right, other, long⟩ := (front.apply_alike same).ok passed
      have unsuited : ¬operation.action.Suits operation.span left.length := by
        rw [← Operation.executes_iff (valid operation member) left, refused]
        exact fun executed => nomatch executed
      exact Or.inr ⟨front, operation, back, left, right, fault, rfl, passed, other, long,
        unsuited, rfl, (apply_alike _ same).error ended, bound⟩

def lateInsertion : Operation :=
  .plain none ⟨4, 1⟩ (.insert .before ['x'])

/-- The insertion would suit a text of four characters, but the deletion in front of it
leaves only three. -/
def lateScript : Script :=
  [.plain none ⟨1, 1⟩ .delete, lateInsertion]

theorem late_script_valid : ∀ operation ∈ lateScript, operation.Valid := by
  rw [lateScript, List.forall_mem_cons, List.forall_mem_singleton]
  constructor
  · exact ⟨nofun, by decide, by decide, nofun, nofun, trivial⟩
  · exact ⟨nofun, by decide, by decide, nofun, nofun, trivial⟩

theorem late_script_stops :
    (lateScript.apply ['a', 'b', 'c', 'd']).outcome =
      .error (.range (.outside 4 1 3) (some lateInsertion)) := by
  rfl

theorem late_script_stops_alike :
    (lateScript.apply ['w', 'x', 'y', 'z']).outcome =
      .error (.range (.outside 4 1 3) (some lateInsertion)) := by
  have ends := @ends_by_length lateScript ['a', 'b', 'c', 'd'] ['w', 'x', 'y', 'z']
    late_script_valid (by decide) rfl
  rcases ends with ⟨left, _, ended, _⟩ | ⟨_, _, _, _, _, fault, _, _, _, _, _, first, second, _⟩
  · rw [late_script_stops] at ended
    cases ended
  · rw [second, ← first]
    exact late_script_stops

end Script

end EditScript
