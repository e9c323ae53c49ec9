import EditScript.Proofs.Exchange
import EditScript.Proofs.Relocation

/-!
# Moves as exchanges

A move cuts its span out of the text and puts it in again between the characters that are
left. As long as its target lies outside of the span, what it does is to exchange the span
with the block of text between them, so it does the same as the swap of these two spans. A
target that borders on the span on the side that it comes from leaves no such block, and
the text stays as it is.
-/

namespace EditScript

set_option autoImplicit false

namespace Span

/-- The two spans that a move exchanges, the earlier one first: its own, and the block that
it crosses. A span that stays where it is crosses nothing. -/
def crossing (side : Side) (span : Span) (target : Nat) : Option (Span × Span) :=
  let behind := span.start + span.length
  match side with
  | .before =>
    if target < span.start then some (⟨target, span.start - target⟩, span)
    else if behind < target then some (span, ⟨behind, target - behind⟩)
    else none
  | .after =>
    if target + 1 < span.start then some (⟨target + 1, span.start - target - 1⟩, span)
    else if behind ≤ target then some (span, ⟨behind, target - behind + 1⟩)
    else none

/-- The two spans that change places, the earlier one first, when a span is cut out and put in
again behind a number of the other characters. -/
def passing (span : Span) (index : Nat) : Option (Span × Span) :=
  if index + 1 < span.start then some (⟨index + 1, span.start - index - 1⟩, span)
  else if span.start ≤ index then some (span, ⟨span.start + span.length, index + 1 - span.start⟩)
  else none

/-- Spans of a text that are not empty, the second of which starts where the first one ends. -/
structure Neighbours (first second : Span) (bound : Nat) : Prop where
  start : 1 ≤ first.start
  left : 1 ≤ first.length
  right : 1 ≤ second.length
  adjoining : second.start = first.start + first.length
  inside : second.last ≤ bound

variable {first second : Span} {bound : Nat}

theorem Neighbours.precedes (neighbours : first.Neighbours second bound) :
    first.Precedes second bound where
  start := neighbours.start
  left := neighbours.left
  right := neighbours.right
  order := Nat.le_of_eq neighbours.adjoining.symm
  inside := neighbours.inside

theorem Neighbours.fits (neighbours : first.Neighbours second bound) :
    first.Fits bound ∧ second.Fits bound :=
  neighbours.precedes.fits

theorem Neighbours.apart (neighbours : first.Neighbours second bound) :
    first.overlaps second = false :=
  neighbours.precedes.apart

theorem passing_neighbours {span : Span} {index : Nat} (start : 1 ≤ span.start)
    (length : 1 ≤ span.length) (inside : span.last ≤ bound) (between : index + span.length ≤ bound)
    (passes : span.passing index = some (first, second)) : first.Neighbours second bound := by
  unfold passing at passes
  split at passes
  · next back =>
      cases passes
      exact ⟨Nat.succ_pos index, by dsimp only; omega, length, by dsimp only; omega, inside⟩
  · split at passes
    · next onward =>
        cases passes
        exact ⟨start, length, by dsimp only; omega, rfl, by unfold last; dsimp only; omega⟩
    · cases passes

/-- A target outside of the span puts it behind the block that the move crosses. -/
theorem passing_outside {span : Span} (side : Side) {target : Nat} (start : 1 ≤ span.start)
    (length : 1 ≤ span.length) (least : 1 ≤ target) (inside : span.last ≤ bound)
    (reached : target ≤ bound)
    (outside : target < span.start ∨ span.start + span.length ≤ target) :
    ∃ index : Nat, relocationIndex side span target = index ∧ index + span.length ≤ bound ∧
      span.passing index = span.crossing side target := by
  unfold last at inside
  cases side with
  | before =>
      simp only [relocationIndex, crossing, passing]
      rcases outside with back | onward
      · refine ⟨target - 1, by rw [if_neg (by omega)]; omega, by omega, ?_⟩
        have gap : target - 1 + 1 = target := by omega
        have width : span.start - (target - 1) - 1 = span.start - target := by omega
        rw [gap, width, if_pos back, if_pos back]
      · refine ⟨target - 1 - span.length, by rw [if_pos (by omega)]; omega, by omega, ?_⟩
        have width : target - 1 - span.length + 1 - span.start =
            target - (span.start + span.length) := by omega
        have crosses : span.start ≤ target - 1 - span.length ↔
            span.start + span.length < target := by omega
        have kept : ¬target - 1 - span.length + 1 < span.start := by omega
        have behind : ¬target < span.start := by omega
        rw [if_neg kept, if_neg behind, width]
        simp only [crosses]
  | after =>
      simp only [relocationIndex, crossing, passing]
      rcases outside with back | onward
      · refine ⟨target, by rw [if_neg (by omega)], by omega, ?_⟩
        have stops : ¬span.start ≤ target := by omega
        have behind : ¬span.start + span.length ≤ target := by omega
        rw [if_neg stops, if_neg behind]
      · have width : target - span.length + 1 - span.start =
            target - (span.start + span.length) + 1 := by omega
        refine ⟨target - span.length, by rw [if_pos (by omega)]; omega, by omega, ?_⟩
        have kept : ¬target - span.length + 1 < span.start := by omega
        have crosses : span.start ≤ target - span.length := by omega
        have behind : ¬target + 1 < span.start := by omega
        rw [if_neg kept, if_pos crosses, if_neg behind, if_pos onward, width]

/-- The spans that a move exchanges lie side by side in the text. -/
theorem crossing_neighbours {side : Side} {span : Span} {target : Nat} (start : 1 ≤ span.start)
    (length : 1 ≤ span.length) (least : 1 ≤ target) (inside : span.last ≤ bound)
    (reached : target ≤ bound) (crosses : span.crossing side target = some (first, second)) :
    first.Neighbours second bound := by
  have outside : target < span.start ∨ span.start + span.length ≤ target := by
    by_contra within
    cases side with
    | before =>
        simp only [crossing] at crosses
        rw [if_neg (by omega), if_neg (by omega)] at crosses
        cases crosses
    | after =>
        simp only [crossing] at crosses
        rw [if_neg (by omega), if_neg (by omega)] at crosses
        cases crosses
  obtain ⟨index, _, between, passes⟩ :=
    passing_outside side start length least inside reached outside
  exact passing_neighbours start length inside between (passes.trans crosses)

end Span

namespace Text

theorem relocate_back_at_split (front between moved behind : Text) :
    (front ++ (between ++ (moved ++ behind))).relocate
        ⟨front.length + between.length + 1, moved.length⟩ front.length =
      front ++ (moved ++ (between ++ behind)) := by
  have cut := splice_at_split (front ++ between) moved behind []
  have span := middle_at_split (front ++ between) moved behind
  rw [List.length_append, List.append_assoc] at cut span
  rw [relocate, cut, span, List.nil_append, List.append_assoc front between, List.take_left,
    List.drop_left, List.append_assoc]

theorem relocate_in_place {text : Text} {span : Span} (fits : span.Fits text.length) :
    text.relocate span (span.start - 1) = text := by
  have front : (text.head span).length = span.start - 1 := by
    obtain ⟨_, inside, _⟩ := fits
    rw [head, List.length_take]
    omega
  rw [relocate, splice, List.append_nil, ← front, List.take_left, List.drop_left]
  exact head_middle_tail text span

end Text

section

variable {text : Text} {span : Span} {index : Nat}

/-- Behind more characters than before: the span changes places with those that it passes. -/
theorem relocate_forward_eq_exchange (start : 1 ≤ span.start) (length : 1 ≤ span.length)
    (inside : index + span.length ≤ text.length) (onward : span.start ≤ index) :
    text.relocate span index =
      exchange text span ⟨span.start + span.length, index + 1 - span.start⟩ := by
  obtain ⟨position, size⟩ := span
  obtain ⟨front, moved, block, back, rfl, rfl, rfl, passed⟩ :=
    @Text.split_at_neighbours text position size (index + 1 - position) start
      (by dsimp only at inside onward ⊢; omega)
  have nonempty : moved ≠ [] := List.length_pos_iff.mp length
  have place : index = front.length + block.length := by
    dsimp only at onward
    omega
  have next : front.length + 1 + moved.length = front.length + moved.length + 1 := by omega
  dsimp only
  rw [← passed, next, exchange_at_split front moved block back nonempty, place]
  exact relocate_at_split front moved block back

theorem relocate_backward_eq_exchange (fits : span.Fits text.length)
    (back : index + 1 < span.start) :
    text.relocate span index = exchange text ⟨index + 1, span.start - index - 1⟩ span := by
  obtain ⟨position, size⟩ := span
  obtain ⟨front, block, moved, behind, rfl, place, passed, rfl⟩ :=
    @Text.split_at_neighbours text (index + 1) (position - index - 1) size (by omega)
      (by
        obtain ⟨_, _, within⟩ := fits
        dsimp only at within back ⊢
        omega)
  obtain rfl : index = front.length := by omega
  have start : position = front.length + block.length + 1 := by
    dsimp only at back
    omega
  have nonempty : block ≠ [] := by
    rw [← List.length_pos_iff]
    dsimp only at back
    omega
  dsimp only
  rw [← passed, start, exchange_at_split front block moved behind nonempty]
  exact Text.relocate_back_at_split front block moved behind

/-- A span that is put in again somewhere changes places with what it passes, if anything. -/
theorem relocate_eq_passing (start : 1 ≤ span.start) (length : 1 ≤ span.length)
    (inside : span.last ≤ text.length) (between : index + span.length ≤ text.length) :
    text.relocate span index =
      match span.passing index with
      | none => text
      | some (first, second) => exchange text first second := by
  have fits : span.Fits text.length := (Span.fits_iff_last start length).mpr inside
  unfold Span.passing
  by_cases back : index + 1 < span.start
  · rw [if_pos back]
    exact relocate_backward_eq_exchange fits back
  · rw [if_neg back]
    by_cases onward : span.start ≤ index
    · rw [if_pos onward]
      exact relocate_forward_eq_exchange start length between onward
    · have place : index = span.start - 1 := by omega
      rw [if_neg onward, place]
      exact Text.relocate_in_place fits

end

namespace Operation

/-- A move is executed exactly if its span and its target lie in the text and its place is
one between the characters that are left; and then the span is put in there. -/
theorem move_executes_iff {move : Operation} {side : Side} {target : Nat}
    (moves : move.action = .move side target) (text result : Text) :
    move.execute text = .ok result ↔
      move.span.Fits text.length ∧ Span.Fits ⟨target, 1⟩ text.length ∧
        ∃ index : Nat, relocationIndex side move.span target = index ∧
          index + move.span.length ≤ text.length ∧ text.relocate move.span index = result := by
  simp only [execute_eq_ok_iff, moves, Action.check, checks_pass_iff, ok_unless_iff,
    Span.check_eq_ok_iff, and_assoc]
  refine and_congr_right fun fits => and_congr_right fun _ => ?_
  obtain ⟨_, _, within⟩ := fits
  constructor
  · rintro ⟨possible, rfl⟩
    exact ⟨(relocationIndex side move.span target).toNat, by omega, by omega, rfl⟩
  · rintro ⟨index, place, inside, rfl⟩
    refine ⟨by omega, ?_⟩
    rw [Action.effect, place]
    rfl

/-- Where a target outside of the span puts it, and what it does to the text there. -/
theorem relocation_outside {text : Text} {span : Span} (side : Side) {target : Nat}
    (start : 1 ≤ span.start) (length : 1 ≤ span.length) (inside : span.last ≤ text.length)
    (least : 1 ≤ target) (reached : target ≤ text.length)
    (outside : target < span.start ∨ span.start + span.length ≤ target) :
    ∃ index : Nat, relocationIndex side span target = index ∧
      index + span.length ≤ text.length ∧
      text.relocate span index =
        match span.crossing side target with
        | none => text
        | some (first, second) => exchange text first second := by
  obtain ⟨index, place, between, passes⟩ :=
    Span.passing_outside side start length least inside reached outside
  refine ⟨index, place, between, ?_⟩
  rw [relocate_eq_passing start length inside between, passes]

/-- A move whose span and target lie in the text, and the target outside of the span, is
executed. It does what every swap of the two spans does that it exchanges, and there are
such swaps; and if it crosses nothing, it leaves the text as it is. -/
theorem move_is_exchange {move : Operation} (valid : move.Valid) {side : Side} {target : Nat}
    (moves : move.action = .move side target) {text : Text}
    (inside : move.span.last ≤ text.length) (reached : target ≤ text.length)
    (outside : target < move.span.start ∨ move.span.start + move.span.length ≤ target) :
    match move.span.crossing side target with
    | none => move.execute text = .ok text
    | some (first, second) =>
      (Operation.plain none first (.swap second none)).Valid ∧
        ∃ result, move.execute text = .ok result ∧
          ∀ swap : Operation, swap.span = first →
            (∃ described, swap.action = .swap second described) →
              swap.execute text = .ok result := by
  have start : 1 ≤ move.span.start := by
    have least := valid.start
    rw [kind, moves] at least
    exact least
  have least : 1 ≤ target := by
    have least := valid.action
    rw [moves] at least
    exact least
  have fits : move.span.Fits text.length :=
    (Span.check_eq_ok_iff _ _).mp ((Span.check_eq_ok_iff_last start valid.length).mpr inside)
  obtain ⟨index, place, between, relocated⟩ :=
    relocation_outside side start valid.length inside least reached outside
  have executed := (move_executes_iff moves text _).mpr
    ⟨fits, ⟨least, reached, by dsimp only; omega⟩, index, place, between, rfl⟩
  rw [relocated] at executed
  split
  · next stays =>
      rw [stays] at executed
      exact executed
  · next first second crosses =>
      rw [crosses] at executed
      have neighbours :=
        Span.crossing_neighbours start valid.length least inside reached crosses
      refine ⟨?_, _, executed, ?_⟩
      · exact ⟨nofun, neighbours.start, neighbours.left, nofun, nofun,
          neighbours.fits.2.1, neighbours.right, nofun⟩
      · rintro swap rfl ⟨described, swaps⟩
        exact (swap_executes_iff swaps text _).mpr
          ⟨neighbours.fits.1, neighbours.fits.2, neighbours.apart, rfl⟩

/-- Two characters that are moved back behind the first one of a text. -/
def pairMovedBack : Operation :=
  .plain none ⟨4, 2⟩ (.move .after 1)

/-- They change places with the two characters that they pass. -/
theorem pair_changes_places :
    ∃ result, pairMovedBack.execute ['a', 'b', 'c', 'd', 'e', 'f'] = .ok result ∧
      (Operation.plain none ⟨2, 2⟩ (.swap ⟨4, 2⟩ none)).execute ['a', 'b', 'c', 'd', 'e', 'f'] =
        .ok result := by
  have valid : pairMovedBack.Valid := ⟨nofun, by decide, by decide, nofun, nofun, Nat.le_refl 1⟩
  have exchanged := @move_is_exchange pairMovedBack valid .after 1 rfl
    ['a', 'b', 'c', 'd', 'e', 'f'] (by decide) (by decide) (.inl (by decide))
  obtain ⟨_, result, moved, swapped⟩ := exchanged
  exact ⟨result, moved, swapped _ rfl ⟨none, rfl⟩⟩

end Operation

end EditScript
