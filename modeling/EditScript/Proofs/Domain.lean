import EditScript.Proofs.Assembly
import EditScript.Script.Apply

/-!
# The texts that an operation can be executed on

Execution is a check followed by an effect. The check sees the coordinates and the length
of the text, and no character of it; the effect cannot fail. So the texts that an operation
can be executed on are those of certain lengths, and these are stated here for every kind.
Every other text is refused with a fault that names the operation and the length.
-/

namespace EditScript

set_option autoImplicit false

/-- What execution asks of the coordinates of an action in a text of a given length. -/
def Action.check (action : Action) (span : Span) (bound : Nat) : Except RangeFault Unit :=
  match action with
  | .delete => span.check bound
  | .replace _ => span.check bound
  | .insert _ _ => if span.start ≠ 0 then Span.check ⟨span.start, 1⟩ bound else .ok ()
  | .move side target => do
    span.check bound
    Span.check ⟨target, 1⟩ bound
    if relocationIndex side span target < 0 ∨
        ((bound - span.length : Nat) : Int) < relocationIndex side span target then
      throw (.unreachable span target bound)
  | .swap other _ => do
    span.check bound
    other.check bound
    if span.overlaps other then
      throw (.overlapping span other bound)

/-- What execution makes of a text that has passed the check. -/
def Action.effect (action : Action) (span : Span) (text : Text) : Text :=
  match action with
  | .delete => text.splice span []
  | .replace replacement => text.splice span replacement
  | .insert side inserted =>
    let index := insertionIndex side span.start text.length
    text.take index ++ inserted ++ text.drop index
  | .move side target =>
    let index := (relocationIndex side span target).toNat
    (text.splice span []).take index ++ text.middle span ++ (text.splice span []).drop index
  | .swap other _ => exchange text span other

theorem Text.length_splice {text : Text} {span : Span} (fits : span.Fits text.length)
    (replacement : Text) :
    (text.splice span replacement).length = text.length - span.length + replacement.length := by
  obtain ⟨positive, inside, within⟩ := fits
  simp only [Text.splice, Text.head, Text.tail, List.length_append, List.length_take,
    List.length_drop]
  omega

namespace Action

theorem execute_eq (action : Action) (span : Span) (text : Text) :
    action.execute span text = (action.check span text.length).map
      fun _ => action.effect span text := by
  cases action with
  | delete =>
      simp only [execute, check]
      cases span.check text.length <;> rfl
  | replace replacement =>
      simp only [execute, check]
      cases span.check text.length <;> rfl
  | insert side inserted =>
      simp only [execute, check]
      split
      · cases Span.check ⟨span.start, 1⟩ text.length <;> rfl
      · rfl
  | move side target =>
      simp only [execute, check]
      cases checked : span.check text.length with
      | error fault => rfl
      | ok =>
          have fits := (Span.check_eq_ok_iff span text.length).mp checked
          have size : (text.splice span []).length = text.length - span.length :=
            Text.length_splice fits []
          rw [size]
          cases Span.check ⟨target, 1⟩ text.length with
          | error fault => rfl
          | ok =>
              simp only [bind, Except.bind]
              split <;> rfl
  | swap other described =>
      simp only [execute, check]
      cases span.check text.length with
      | error fault => rfl
      | ok =>
          cases other.check text.length with
          | error fault => rfl
          | ok =>
              simp only [bind, Except.bind]
              split <;> rfl

end Action

namespace Span

/-- The last position of a span that is not empty. -/
def last (span : Span) : Nat :=
  span.start + span.length - 1

def Covers (span : Span) (position : Nat) : Prop :=
  span.start ≤ position ∧ position ≤ span.last

variable {first second span : Span} {bound : Nat}

/-- Spans that are not empty overlap exactly if they share a position: the later one of
their starts, if any. -/
theorem overlaps_eq_false_iff (leastFirst : 1 ≤ first.length) (leastSecond : 1 ≤ second.length) :
    first.overlaps second = false ↔
      ∀ position, ¬(first.Covers position ∧ second.Covers position) := by
  have covers (position : Nat) : first.Covers position ∧ second.Covers position ↔
      first.start ≤ position ∧ position < first.start + first.length ∧
        second.start ≤ position ∧ position < second.start + second.length := by
    unfold Covers last
    omega
  simp only [covers]
  constructor
  · intro apart position both
    unfold overlaps at apart
    split at apart
    · cases apart
    · split at apart
      · have behind := of_decide_eq_false apart
        omega
      · have behind := of_decide_eq_false apart
        omega
  · intro apart
    have later := apart (max first.start second.start)
    unfold overlaps
    split
    · omega
    · split
      · rw [decide_eq_false_iff_not]
        omega
      · rw [decide_eq_false_iff_not]
        omega

theorem fits_iff_last (start : 1 ≤ span.start) (length : 1 ≤ span.length) :
    span.Fits bound ↔ span.last ≤ bound := by
  rw [Fits, last]
  omega

theorem check_eq_ok_iff_last (start : 1 ≤ span.start) (length : 1 ≤ span.length) :
    span.check bound = .ok () ↔ span.last ≤ bound := by
  rw [check_eq_ok_iff, fits_iff_last start length]

theorem check_position_eq_ok_iff {position : Nat} (start : 1 ≤ position) :
    check ⟨position, 1⟩ bound = .ok () ↔ position ≤ bound := by
  simp only [check_eq_ok_iff, Fits]
  omega

end Span

/-- The lengths of the texts that an action can be executed on. All that it names has to lie
within the text. A target behind the start of a moved span is counted back by the length of
the span, and then it must not lie in front of the text. And a span that ends the text cannot
be put behind its own first character. -/
def Action.Suits (action : Action) (span : Span) (bound : Nat) : Prop :=
  match action with
  | .delete => span.last ≤ bound
  | .replace _ => span.last ≤ bound
  | .insert _ _ => span.start ≤ bound
  | .move .before target =>
    span.last ≤ bound ∧ target ≤ bound ∧ ¬(span.start < target ∧ target ≤ span.length)
  | .move .after target =>
    span.last ≤ bound ∧ target ≤ bound ∧ ¬(span.start < target ∧ target < span.length) ∧
      ¬(target = span.start ∧ span.last = bound)
  | .swap other _ =>
    span.last ≤ bound ∧ other.last ≤ bound ∧
      ∀ position, ¬(span.Covers position ∧ other.Covers position)

theorem relocation_before_possible_iff {span : Span} {target bound : Nat} (start : 1 ≤ span.start)
    (length : 1 ≤ span.length) (least : 1 ≤ target) (inside : span.last ≤ bound)
    (reached : target ≤ bound) :
    ¬(relocationIndex .before span target < 0 ∨
        ((bound - span.length : Nat) : Int) < relocationIndex .before span target) ↔
      ¬(span.start < target ∧ target ≤ span.length) := by
  unfold Span.last at inside
  simp only [relocationIndex]
  split <;> omega

theorem relocation_after_possible_iff {span : Span} {target bound : Nat} (start : 1 ≤ span.start)
    (length : 1 ≤ span.length) (least : 1 ≤ target) (inside : span.last ≤ bound)
    (reached : target ≤ bound) :
    ¬(relocationIndex .after span target < 0 ∨
        ((bound - span.length : Nat) : Int) < relocationIndex .after span target) ↔
      ¬(span.start < target ∧ target < span.length) ∧
        ¬(target = span.start ∧ span.last = bound) := by
  unfold Span.last at inside ⊢
  simp only [relocationIndex]
  split <;> omega

theorem ok_unless_iff {ε : Type} (refused : Prop) [Decidable refused] (fault : ε) :
    (if refused then throw fault else pure () : Except ε Unit) = .ok () ↔ ¬refused := by
  split
  · next holds => exact iff_of_false nofun (not_not_intro holds)
  · next fails => exact iff_of_true rfl fails

/-- The check accepts the lengths that suit an action, and no others. -/
theorem Action.check_eq_ok_iff {action : Action} {span : Span}
    (start : action.kind.leastPosition ≤ span.start) (length : 1 ≤ span.length)
    (valid : action.Valid) (bound : Nat) :
    action.check span bound = .ok () ↔ action.Suits span bound := by
  cases action with
  | delete => exact Span.check_eq_ok_iff_last start length
  | replace replacement => exact Span.check_eq_ok_iff_last start length
  | insert side inserted =>
      simp only [check, Suits]
      split
      · next positive => exact Span.check_position_eq_ok_iff (Nat.pos_of_ne_zero positive)
      · next zero => exact iff_of_true rfl (by omega)
  | move side target =>
      have least : 1 ≤ target := valid
      simp only [check, Grammar.bind_eq_ok_iff, ok_unless_iff,
        Span.check_eq_ok_iff_last start length, Span.check_position_eq_ok_iff least, exists_const]
      cases side with
      | before =>
          refine and_congr_right fun inside => and_congr_right fun reached => ?_
          exact relocation_before_possible_iff start length least inside reached
      | after =>
          refine and_congr_right fun inside => and_congr_right fun reached => ?_
          exact relocation_after_possible_iff start length least inside reached
  | swap other described =>
      obtain ⟨leastStart, leastLength, _⟩ := valid
      simp only [check, Grammar.bind_eq_ok_iff, ok_unless_iff,
        Span.check_eq_ok_iff_last start length,
        Span.check_eq_ok_iff_last leastStart leastLength, exists_const, Bool.not_eq_true,
        Span.overlaps_eq_false_iff length leastLength, Suits]

/-- A fault that was found in a text of a given length, and whose message can be written. -/
structure RangeFault.Against (bound : Nat) (fault : RangeFault) : Prop where
  bound : fault.bound? = some bound
  writable : fault.writable = true

theorem Span.fault_against {span : Span} {bound : Nat} {fault : RangeFault}
    (start : Numeral.writable span.start = true) (length : Numeral.writable span.length = true)
    (refused : span.check bound = .error fault) : fault.Against bound := by
  unfold Span.check checkRange at refused
  split at refused
  · obtain rfl := Except.error.inj refused
    exact ⟨rfl, by simp [RangeFault.writable, RangeFault.writtenNumbers, start]⟩
  · split at refused
    · obtain rfl := Except.error.inj refused
      exact ⟨rfl, by simp [RangeFault.writable, RangeFault.writtenNumbers, start, length]⟩
    · cases refused

theorem bind_eq_error_iff {ε α β : Type} (first : Except ε α) (next : α → Except ε β) (fault : ε) :
    first >>= next = .error fault ↔
      first = .error fault ∨ ∃ before, first = .ok before ∧ next before = .error fault := by
  cases first with
  | error other => simp [bind, Except.bind]
  | ok before => simp [bind, Except.bind]

theorem error_if_iff {ε : Type} (refused : Prop) [Decidable refused] (fault found : ε) :
    (if refused then throw fault else pure () : Except ε Unit) = .error found ↔
      refused ∧ fault = found := by
  split
  · next holds =>
      rw [and_iff_right holds]
      exact Except.error.injEq fault found ▸ Iff.rfl
  · next fails => exact iff_of_false nofun fun both => fails both.1

/-- Whatever the check finds, it is a fault in a text of the given length, and it shows no
numbers but those of the operation and one. -/
theorem Operation.fault_against {operation : Operation} {bound : Nat} {fault : RangeFault}
    (writable : operation.writable = true)
    (refused : operation.action.check operation.span bound = .error fault) :
    fault.Against bound := by
  have single : Numeral.writable ((1 : Nat) : Int) = true := by decide
  rw [Operation.writable, writtenNumbers, List.all_eq_true] at writable
  cases action : operation.action with
  | delete =>
      rw [action] at refused writable
      rw [List.forall_mem_cons, List.forall_mem_singleton] at writable
      exact Span.fault_against writable.1 writable.2 refused
  | replace replacement =>
      rw [action] at refused writable
      rw [List.forall_mem_cons, List.forall_mem_singleton] at writable
      exact Span.fault_against writable.1 writable.2 refused
  | insert side inserted =>
      rw [action] at refused writable
      rw [List.forall_mem_singleton] at writable
      rw [Action.check] at refused
      split at refused
      · exact @Span.fault_against ⟨operation.span.start, 1⟩ _ _ writable single refused
      · cases refused
  | move side target =>
      rw [action] at refused writable
      simp only [List.forall_mem_cons] at writable
      obtain ⟨start, length, reached, _⟩ := writable
      simp only [Action.check, bind_eq_error_iff, error_if_iff] at refused
      rcases refused with outside | ⟨_, _, unreached | ⟨_, _, _, rfl⟩⟩
      · exact Span.fault_against start length outside
      · exact Span.fault_against reached single unreached
      · exact ⟨rfl, by simp [RangeFault.writable, RangeFault.writtenNumbers, start, length,
          reached]⟩
  | swap other described =>
      rw [action] at refused writable
      simp only [List.forall_mem_cons] at writable
      obtain ⟨start, length, otherStart, otherLength, _⟩ := writable
      simp only [Action.check, bind_eq_error_iff, error_if_iff] at refused
      rcases refused with outside | ⟨_, _, otherOutside | ⟨_, _, _, rfl⟩⟩
      · exact Span.fault_against start length outside
      · exact Span.fault_against otherStart otherLength otherOutside
      · exact ⟨rfl, by simp [RangeFault.writable, RangeFault.writtenNumbers, start, length,
          otherStart, otherLength]⟩

theorem Operation.execute_eq (operation : Operation) (text : Text) :
    operation.execute text = match operation.action.check operation.span text.length with
      | .ok () => .ok (operation.action.effect operation.span text)
      | .error fault => .error (Failure.ofRange (some operation) fault) := by
  rw [execute, result, Action.execute_eq]
  cases operation.action.check operation.span text.length <;> rfl

theorem Operation.executes_iff {operation : Operation} (valid : operation.Valid) (text : Text) :
    (∃ result, operation.execute text = .ok result) ↔
      operation.action.Suits operation.span text.length := by
  rw [← Action.check_eq_ok_iff valid.start valid.length valid.action, execute_eq]
  cases operation.action.check operation.span text.length with
  | ok => exact iff_of_true ⟨_, rfl⟩ rfl
  | error fault => exact iff_of_false (fun executed => nomatch executed) nofun

theorem Operation.fault_of_execute {operation : Operation} (writable : operation.writable = true)
    {text : Text} {failure : Failure} (failed : operation.execute text = .error failure) :
    ∃ fault, failure = .range fault (some operation) ∧ fault.bound? = some text.length := by
  rw [execute_eq] at failed
  cases checked : operation.action.check operation.span text.length with
  | ok =>
      rw [checked] at failed
      cases failed
  | error fault =>
      rw [checked] at failed
      have against := fault_against writable checked
      have reported : Failure.ofRange (some operation) fault = .range fault (some operation) :=
        if_pos against.writable
      exact ⟨fault, (Except.error.inj failed).symm.trans reported, against.bound⟩

/-- An operation is executed exactly on the texts whose length suits its coordinates. On
every other text it fails with a range fault that carries the operation and the length of
the text, so it never fails in another way. -/
theorem Operation.executed_iff_suits {operation : Operation} (valid : operation.Valid)
    (writable : operation.writable = true) (text : Text) :
    ((∃ result, operation.execute text = .ok result) ↔
        operation.action.Suits operation.span text.length) ∧
      (¬operation.action.Suits operation.span text.length →
        ∃ fault, operation.execute text = .error (.range fault (some operation)) ∧
          fault.bound? = some text.length) := by
  have executes := executes_iff valid text
  refine ⟨executes, fun unsuited => ?_⟩
  cases executed : operation.execute text with
  | ok result => exact absurd (executes.mp ⟨result, executed⟩) unsuited
  | error failure =>
      obtain ⟨fault, rfl, bound⟩ := fault_of_execute writable executed
      exact ⟨fault, rfl, bound⟩

/-- Two characters that are put behind the first of them. -/
def pairBehindItself : Operation :=
  .plain none ⟨2, 2⟩ (.move .after 2)

theorem pair_behind_itself_valid : pairBehindItself.Valid where
  described := nofun
  start := by decide
  length := by decide
  note := nofun
  tags := nofun
  action := Nat.le_succ 1

/-- At the end of a text the pair has no place behind its first character; with a character
behind it, it has. -/
theorem pair_behind_itself_at_end :
    (∃ fault, pairBehindItself.execute ['a', 'b', 'c'] =
        .error (.range fault (some pairBehindItself)) ∧ fault.bound? = some 3) ∧
      ∃ result, pairBehindItself.execute ['a', 'b', 'c', 'd'] = .ok result := by
  have atEnd := Operation.executed_iff_suits pair_behind_itself_valid (by decide) ['a', 'b', 'c']
  have inside := Operation.executed_iff_suits pair_behind_itself_valid (by decide)
    ['a', 'b', 'c', 'd']
  refine ⟨atEnd.2 ?_, inside.1.mpr ?_⟩
  · exact fun suits => suits.2.2.2 ⟨rfl, rfl⟩
  · exact ⟨by decide, by decide, by decide, by decide⟩

end EditScript
