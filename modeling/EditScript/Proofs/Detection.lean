import EditScript.Grammar.Form

/-!
# Which operator stands in a text

An operator that stands once among characters of no operator is the one that is
found, although some operators are parts of others: the longer ones are looked for
first.
-/

namespace EditScript.Grammar

set_option autoImplicit false

/-- The characters that operators are made of. -/
def operatorSigns : List Char :=
  ['!', '+', '=', '<', '>', '-']

/-- A text in which no operator can start or end. -/
def Quiet (text : Text) : Prop :=
  ∀ char ∈ text, char ∉ operatorSigns

theorem quiet_of_class {inClass : Char → Bool} {text : Text}
    (apart : operatorSigns.any inClass = false) (inside : ∀ char ∈ text, inClass char = true) :
    Quiet text := by
  intro char member sign
  have found : operatorSigns.any inClass = true :=
    List.any_eq_true.mpr ⟨char, sign, inside char member⟩
  rw [apart] at found
  cases found

theorem operator_signs (kind : Kind) : ∀ char ∈ kind.operator, char ∈ operatorSigns := by
  have signs : kind.operator.all operatorSigns.contains = true := by
    rcases kind with _ | side | _ | side | _ <;> first | decide | (cases side <;> decide)
  intro char member
  exact List.contains_iff_mem.mp (List.all_eq_true.mp signs char member)

theorem operator_nonempty (kind : Kind) : kind.operator ≠ [] := by
  rcases kind with _ | side | _ | side | _ <;> first | decide | (cases side <;> decide)

theorem Quiet.apart {text : Text} (quiet : Quiet text) (kind : Kind) :
    ∀ char ∈ text, char ∉ kind.operator := by
  intro char member inside
  exact quiet char member (operator_signs kind char inside)

section

variable {part quiet : Text}

theorem occurs_behind_quiet (nonempty : part ≠ []) (apart : ∀ char ∈ quiet, char ∉ part)
    (text : Text) : Text.occursIn part (quiet ++ text) = Text.occursIn part text := by
  induction quiet with
  | nil => rfl
  | cons char rest induction =>
      have later := induction fun other member => apart other (List.mem_cons_of_mem char member)
      have here := apart char List.mem_cons_self
      cases part with
      | nil => exact absurd rfl nonempty
      | cons first others =>
          have different : (first == char) = false := by
            rw [beq_eq_false_iff_ne]
            intro same
            subst same
            exact here List.mem_cons_self
          rw [List.cons_append, Text.occursIn, List.isPrefixOf, different, Bool.false_and,
            Bool.false_or, later]

theorem is_prefix_before_quiet (apart : ∀ char ∈ quiet, char ∉ part) (text : Text) :
    part.isPrefixOf (text ++ quiet) = part.isPrefixOf text := by
  induction part generalizing text with
  | nil => simp
  | cons first others induction =>
      cases text with
      | nil =>
          cases quiet with
          | nil => rfl
          | cons char rest =>
              have different : (first == char) = false := by
                rw [beq_eq_false_iff_ne]
                intro same
                subst same
                exact apart first List.mem_cons_self List.mem_cons_self
              simp [List.isPrefixOf, different]
      | cons char rest =>
          have later := induction (fun other member inside =>
            apart other member (List.mem_cons_of_mem first inside)) rest
          rw [List.cons_append, List.isPrefixOf, List.isPrefixOf, later]

theorem occurs_before_quiet (nonempty : part ≠ []) (apart : ∀ char ∈ quiet, char ∉ part)
    (text : Text) : Text.occursIn part (text ++ quiet) = Text.occursIn part text := by
  induction text with
  | nil =>
      have none := occurs_behind_quiet nonempty apart []
      rw [List.append_nil] at none
      exact none
  | cons char rest induction =>
      have front := is_prefix_before_quiet apart (char :: rest)
      rw [List.cons_append] at front
      rw [List.cons_append, Text.occursIn, Text.occursIn, front, induction]

end

/-- Each operator comes before the operators that are parts of it. -/
theorem first_operator_within (kind : Kind) :
    operatorOrder.find? (fun other => Text.occursIn other.operator kind.operator) = some kind := by
  rcases kind with _ | side | _ | side | _ <;> first | decide | (cases side <;> decide)

theorem operator_among_quiet {front back : Text} (kind : Kind) (quietFront : Quiet front)
    (quietBack : Quiet back) :
    operatorOrder.find? (fun other =>
      Text.occursIn other.operator (front ++ (kind.operator ++ back))) = some kind := by
  rw [← first_operator_within kind]
  apply congrArg (List.find? · operatorOrder)
  funext other
  rw [occurs_behind_quiet (operator_nonempty other) (quietFront.apart other),
    occurs_before_quiet (operator_nonempty other) (quietBack.apart other)]

end EditScript.Grammar
