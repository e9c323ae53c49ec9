import EditScript.Proofs.PrintedLines
import EditScript.Proofs.Rebuild

/-!
# What derived operations are made of

A derived operation quotes parts of the two texts that are compared, carries no note, and
has no number beyond what the lengths of the texts allow. This is seen column by column
along an alignment. So the characters of the texts alone decide whether the notations of a
derived script can be read back and whether each of them has one line.
-/

namespace EditScript

set_option autoImplicit false

/-- An operation without a note. What it quotes consists of the given characters, and its
numbers are at most a given one. -/
structure Operation.DrawnFrom (operation : Operation) (characters : Text) (most : Nat) : Prop where
  valid : operation.Valid
  noteless : operation.note = none
  single : ∀ side text, operation.action = .insert side text → operation.span.length = 1
  quoted : ∀ text ∈ operation.quotedTexts, text ⊆ characters
  numbers : ∀ number ∈ operation.writtenNumbers, number ≤ most

theorem Numeral.writable_of_le {number most : Nat} (less : number ≤ most)
    (short : writable most = true) : writable number = true := by
  have limit : 0 < digitLimit := by decide
  rw [writable, decide_eq_true_iff] at short ⊢
  rw [Int.natAbs_natCast, decimal, Nat.length_toDigits_le_iff (by decide) limit] at short ⊢
  exact Nat.lt_of_le_of_lt less short

namespace Operation

variable {operation : Operation} {characters : Text} {most : Nat}

theorem DrawnFrom.mono (drawn : operation.DrawnFrom characters most) {others : Text} {limit : Nat}
    (part : characters ⊆ others) (less : most ≤ limit) : operation.DrawnFrom others limit where
  valid := drawn.valid
  noteless := drawn.noteless
  single := drawn.single
  quoted := fun text inside => List.Subset.trans (drawn.quoted text inside) part
  numbers := fun number written => (drawn.numbers number written).trans less

theorem DrawnFrom.notatable (drawn : operation.DrawnFrom characters most)
    (unquoted : '"' ∉ characters) : operation.Notatable where
  quoted := fun text inside mark => unquoted (drawn.quoted text inside mark)
  note := by
    rw [drawn.noteless]
    nofun
  single := drawn.single

theorem DrawnFrom.in_line (drawn : operation.DrawnFrom characters most)
    (whole : '\n' ∉ characters) : '\n' ∉ operation.canonical := by
  apply canonical_in_line drawn.valid
  · exact fun text inside feed => whole (drawn.quoted text inside feed)
  · rw [drawn.noteless]
    nofun

theorem plain_valid {described : Option Text} {span : Span} {action : Action}
    (shown : Described described) (least : action.kind.leastPosition ≤ span.start)
    (some : 1 ≤ span.length) (inOrder : action.Valid) :
    (Operation.plain described span action).Valid where
  described := shown
  start := least
  length := some
  note := nofun
  tags := nofun
  action := inOrder

end Operation

theorem described_as_part {describe : Bool} {text : Text} :
    ∀ shown ∈ (describedAs describe text).toList, shown ⊆ text := by
  intro shown member
  rw [describedAs] at member
  split at member
  · obtain rfl := List.mem_singleton.mp member
    exact List.Subset.refl shown
  · cases member

theorem described_as_described (describe : Bool) {text : Text} (filled : text ≠ []) :
    Described (describedAs describe text) := by
  rw [describedAs]
  split
  · exact fun empty => filled (Option.some.inj empty)
  · nofun

theorem deletion_drawn (describe : Bool) {start : Nat} {deleted : Text} (some : 1 ≤ start)
    (filled : deleted ≠ []) :
    (deletion describe start deleted).DrawnFrom deleted (start + deleted.length) where
  valid := Operation.plain_valid (described_as_described describe filled) some
    (List.length_pos_iff.mpr filled) trivial
  noteless := rfl
  single := nofun
  quoted := by
    rw [Operation.quotedTexts, List.forall_mem_append]
    exact ⟨described_as_part, List.forall_mem_nil _⟩
  numbers := by
    simp [deletion, Operation.writtenNumbers, Operation.plain]

theorem insertion_drawn (side : Side) (start : Nat) (inserted : Text) :
    (insertion side start inserted).DrawnFrom inserted start where
  valid := Operation.plain_valid nofun (Nat.zero_le start) (Nat.le_refl 1) trivial
  noteless := rfl
  single := fun _ _ _ => rfl
  quoted := List.forall_mem_singleton.mpr (List.Subset.refl inserted)
  numbers := List.forall_mem_singleton.mpr (Nat.le_refl start)

theorem replacement_drawn (describe : Bool) {start : Nat} (some : 1 ≤ start) (old new : Char) :
    (replacement describe start old new).DrawnFrom [old, new] start where
  valid := Operation.plain_valid (described_as_described describe (List.cons_ne_nil old [])) some
    (Nat.le_refl 1) trivial
  noteless := rfl
  single := nofun
  quoted := by
    rw [Operation.quotedTexts, List.forall_mem_append]
    constructor
    · intro text shown
      exact List.subset_append_of_subset_left [new] (described_as_part text shown)
    · exact List.forall_mem_singleton.mpr (List.subset_cons_self old [new])
  numbers := by
    simp [replacement, Operation.writtenNumbers, Operation.plain, some]

/-- The operation of a column is drawn from its two sides. -/
theorem Edit.operation_drawn {describe atEnd : Bool} {offset : Nat} {edit : Edit}
    {operation : Operation} (filled : edit ≠ .remove [])
    (found : edit.operation? describe atEnd offset = some operation) :
    operation.DrawnFrom (edit.old ++ edit.new) (offset + 1 + edit.old.length) := by
  cases edit with
  | keep char => cases found
  | remove deleted =>
      obtain rfl := Option.some.inj found
      have nonempty : deleted ≠ [] := fun empty => filled (by rw [empty])
      exact (deletion_drawn describe (Nat.le_add_left 1 offset) nonempty).mono
        (List.subset_append_left deleted []) (Nat.le_refl _)
  | add inserted =>
      obtain rfl := Option.some.inj found
      cases atEnd with
      | true => exact (insertion_drawn .after offset inserted).mono (List.Subset.refl _) (by omega)
      | false =>
          exact (insertion_drawn .before (offset + 1) inserted).mono (List.Subset.refl _) (by omega)
  | exchange old new =>
      obtain rfl := Option.some.inj found
      exact (replacement_drawn describe (Nat.le_add_left 1 offset) old new).mono
        (List.Subset.refl _) (by omega)

/-- The script of an alignment is drawn from its two texts. The induction follows the
columns; each of them moves the offset on by its side of the target. -/
theorem Alignment.script_drawn {describe : Bool} {behind : Text} {alignment : Alignment}
    (proper : alignment.Proper) (offset : Nat) :
    ∀ operation ∈ alignment.script describe behind offset,
      operation.DrawnFrom (alignment.source ++ alignment.target)
        (offset + 1 + (alignment.source ++ alignment.target).length) := by
  induction alignment generalizing offset with
  | nil => exact List.forall_mem_nil _
  | cons edit rest induction =>
      have filled : edit ≠ .remove [] := by
        rintro rfl
        exact proper.1 rfl
      have here : edit.old ++ edit.new ⊆ source (edit :: rest) ++ target (edit :: rest) := by
        rw [source_cons, target_cons, List.append_subset]
        exact ⟨fun _ inside => List.mem_append_left _ (List.mem_append_left _ inside),
          fun _ inside => List.mem_append_right _ (List.mem_append_left _ inside)⟩
      have later : source rest ++ target rest ⊆ source (edit :: rest) ++ target (edit :: rest) := by
        rw [source_cons, target_cons, List.append_subset]
        exact ⟨fun _ inside => List.mem_append_left _ (List.mem_append_right _ inside),
          fun _ inside => List.mem_append_right _ (List.mem_append_right _ inside)⟩
      rw [script, List.forall_mem_append]
      constructor
      · intro operation member
        apply (edit.operation_drawn filled (Option.mem_toList.mp member)).mono here
        simp only [source_cons, target_cons, List.length_append]
        omega
      · intro operation member
        apply (induction (proper_tail proper) _ operation member).mono later
        simp only [source_cons, target_cons, List.length_append]
        omega

/-- The walk is drawn from the two texts that it compares. -/
theorem walk_drawn (describe : Bool) (source target : Text) :
    ∀ operation ∈ walk describe 0 0 source target,
      operation.DrawnFrom (source ++ target) ((source ++ target).length + 1) := by
  obtain ⟨alignment, proper, rfl, rfl, derived⟩ :=
    walk_is_alignment_script describe 0 0 source target
  rw [derived]
  intro operation member
  exact (alignment.script_drawn proper 0 operation member).mono (List.Subset.refl _) (by omega)

/-- No number of the walk is beyond the limit on numerals, unless the texts are as long. -/
theorem walk_writable (describe : Bool) {source target : Text}
    (short : Numeral.writable ((source ++ target).length + 1) = true) :
    ∀ operation ∈ walk describe 0 0 source target, operation.writable = true := by
  intro operation member
  have drawn := walk_drawn describe source target operation member
  rw [Operation.writable, List.all_eq_true]
  exact fun number written => Numeral.writable_of_le (drawn.numbers number written) short

theorem walk_rebuilds (describe : Bool) (source target : Text) :
    (Script.apply (walk describe 0 0 source target) source).outcome = .ok target := by
  obtain ⟨alignment, proper, rfl, rfl, derived⟩ :=
    walk_is_alignment_script describe 0 0 source target
  rw [derived]
  exact alignment.script_rebuilds describe proper []

/-- Texts that differ need an operation. -/
theorem walk_ne_nil (describe : Bool) {source target : Text} (differ : source ≠ target) :
    walk describe 0 0 source target ≠ [] := by
  intro nothing
  have rebuilt := walk_rebuilds describe source target
  rw [nothing] at rebuilt
  exact differ (Except.ok.inj rebuilt)

end EditScript
