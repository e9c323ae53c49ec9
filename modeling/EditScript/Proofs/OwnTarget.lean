import EditScript.Proofs.MergedPair

/-!
# Moves onto their own span

The target of a move may be a character of the span that is moved. The first one is counted
as it stands; all others are counted back by the length of the span, as if they followed it.
Some of these targets leave the span where it was, and some have no place among the other
characters, so that the move fails. Under all others the span changes places with characters
around it, and there is a text that shows it.
-/

namespace EditScript

set_option autoImplicit false

namespace Span

/-- The two spans, the earlier one first, that a move exchanges whose target lies within its
own span. -/
def ownTrade (side : Side) (span : Span) (target : Nat) : Option (Span × Span) :=
  match side with
  | .before =>
    if target = span.start then none
    else some (⟨target - span.length, span.start + span.length - target⟩, span)
  | .after =>
    if target = span.start then some (span, ⟨span.start + span.length, 1⟩)
    else if target = span.last then none
    else some (⟨target + 1 - span.length, span.last - target⟩, span)

/-- The own targets under which a move rearranges no text: the span goes in front of its first
character or, if it has others, behind its last one; or it would have to go farther back than
the text reaches. -/
def StaysPut (side : Side) (span : Span) (target : Nat) : Prop :=
  match side with
  | .before => target = span.start ∨ target ≤ span.length
  | .after => span.start < target ∧ (target = span.last ∨ target < span.length)

variable {side : Side} {span : Span} {target index : Nat}

theorem passing_within (start : 1 ≤ span.start) (length : 1 ≤ span.length)
    (own : span.Covers target) (place : relocationIndex side span target = index) :
    span.passing index = span.ownTrade side target := by
  obtain ⟨first, last⟩ := own
  have size : span.last = span.start + span.length - 1 := rfl
  cases side with
  | before =>
      simp only [relocationIndex] at place
      simp only [passing, ownTrade]
      by_cases front : target = span.start
      · rw [if_neg (by omega)] at place
        have kept : ¬index + 1 < span.start := by omega
        have stays : ¬span.start ≤ index := by omega
        rw [if_pos front, if_neg kept, if_neg stays]
      · rw [if_pos (by omega)] at place
        have back : index + 1 < span.start := by omega
        have gap : index + 1 = target - span.length := by omega
        have width : span.start - index - 1 = span.start + span.length - target := by omega
        rw [if_neg front, if_pos back, gap, width]
  | after =>
      simp only [relocationIndex] at place
      simp only [passing, ownTrade]
      by_cases front : target = span.start
      · rw [if_neg (by omega)] at place
        have kept : ¬index + 1 < span.start := by omega
        have onward : span.start ≤ index := by omega
        have width : index + 1 - span.start = 1 := by omega
        rw [if_pos front, if_neg kept, if_pos onward, width]
      · rw [if_pos (by omega)] at place
        rw [if_neg front]
        by_cases behind : target = span.last
        · have kept : ¬index + 1 < span.start := by omega
          have stays : ¬span.start ≤ index := by omega
          rw [if_pos behind, if_neg kept, if_neg stays]
        · have back : index + 1 < span.start := by omega
          have gap : index + 1 = target + 1 - span.length := by omega
          have width : span.start - index - 1 = span.last - target := by omega
          rw [if_neg behind, if_pos back, gap, width]

/-- Among the own targets that have a place, those that stay put are the ones whose place is
that of the span. -/
theorem stays_put_iff (start : 1 ≤ span.start) (length : 1 ≤ span.length)
    (own : span.Covers target) (place : relocationIndex side span target = index) :
    span.StaysPut side target ↔ index = span.start - 1 := by
  obtain ⟨first, last⟩ := own
  unfold Span.last at last
  cases side with
  | before =>
      simp only [relocationIndex] at place
      simp only [StaysPut]
      split at place <;> omega
  | after =>
      simp only [relocationIndex] at place
      simp only [StaysPut, Span.last]
      split at place <;> omega

/-- All other own targets have a place as soon as a character stands behind the span. -/
theorem suits_of_not_stays (own : span.Covers target) (moved : ¬span.StaysPut side target) :
    (Action.move side target).Suits span (span.last + 1) := by
  obtain ⟨first, last⟩ := own
  cases side with
  | before =>
      simp only [StaysPut] at moved
      exact ⟨Nat.le_succ _, by omega, by omega⟩
  | after =>
      simp only [StaysPut] at moved
      exact ⟨Nat.le_succ _, by omega, by omega, by omega⟩

/-- A text that shows every relocation of a span: one character around it, and another one all
over it. -/
theorem text_showing (start : 1 ≤ span.start) (length : 1 ≤ span.length) :
    ∃ text : Text, text.length = span.last + 1 ∧
      ∀ index : Nat, index + span.length ≤ text.length → text.relocate span index = text →
        index = span.start - 1 := by
  obtain ⟨rest, whole⟩ : ∃ rest : Text, ('b' :: rest).length = span.length := by
    exists List.replicate (span.length - 1) 'b'
    rw [List.length_cons, List.length_replicate, Nat.sub_add_cancel length]
  have here : span = ⟨span.start - 1 + 1, ('b' :: rest).length⟩ := by
    rw [whole, Nat.sub_add_cancel start]
  let text : Text := List.replicate (span.start - 1) 'a' ++ ('b' :: rest ++ List.replicate 1 'a')
  have size : text.length = span.last + 1 := by
    simp only [text, List.length_append, List.length_replicate, whole, last]
    omega
  have lastAt : span.last = span.start + span.length - 1 := rfl
  have fits : span.Fits text.length := by
    rw [fits_iff_last start length, size]
    exact Nat.le_succ span.last
  have shown (index : Nat) : text.relocate span index =
      (List.replicate (span.start - 1 + 1) 'a').take index ++ ('b' :: rest) ++
        (List.replicate (span.start - 1 + 1) 'a').drop index :=
    (congrArg (text.relocate · index) here).trans (relocate_in_uniform 'a' _ _ 1 index)
  refine ⟨text, size, ?_⟩
  intro index between same
  have home := Text.relocate_in_place fits
  have agree := (shown index).symm.trans ((same.trans home.symm).trans (shown (span.start - 1)))
  have different : 'b' ≠ 'a' := by decide
  exact place_of_relocated different (by omega) (Nat.le_succ _) agree

end Span

namespace Operation

variable {move : Operation} {side : Side} {target : Nat}

/-- Everything that can come of a move, in terms of the place that its span is put in. -/
theorem own_move_executes_iff (valid : move.Valid) (moves : move.action = .move side target)
    (own : move.span.Covers target) (text result : Text) :
    move.execute text = .ok result ↔
      move.span.last ≤ text.length ∧
        ∃ index : Nat, relocationIndex side move.span target = index ∧
          index + move.span.length ≤ text.length ∧ text.relocate move.span index = result := by
  have start : 1 ≤ move.span.start := valid.start_of_kind (congrArg Action.kind moves)
  have length := valid.length
  have first := own.1
  have last := own.2
  rw [move_executes_iff moves, Span.fits_iff_last start length]
  apply and_congr_right
  intro inside
  have reached : Span.Fits ⟨target, 1⟩ text.length := by
    constructor
    · exact start.trans first
    · dsimp only
      omega
  exact and_iff_right reached

/-- Where an operation does not suit the text it fails, with a range fault unless a number is
too long to be named in one. -/
theorem refused_of_not_suits {operation : Operation} (valid : operation.Valid) {text : Text}
    (unsuited : ¬operation.action.Suits operation.span text.length) :
    ∃ fault, operation.execute text = .error (Failure.ofRange (some operation) fault) ∧
      (operation.writable = true → fault.writable = true) := by
  rw [← Action.check_eq_ok_iff valid.start valid.length valid.action] at unsuited
  rw [execute_eq]
  cases checked : operation.action.check operation.span text.length with
  | ok => exact absurd checked unsuited
  | error fault => exact ⟨fault, rfl, fun writable => (fault_against writable checked).writable⟩

/-- The two spans that a move passes can be exchanged by a swap. -/
theorem swap_of_neighbours {text : Text} {first second : Span}
    (neighbours : first.Neighbours second text.length) :
    (plain none first (.swap second none)).Valid ∧
      ∀ swap : Operation, swap.span = first → (∃ described, swap.action = .swap second described) →
        swap.execute text = .ok (exchange text first second) := by
  constructor
  · exact ⟨nofun, neighbours.start, neighbours.left, nofun, nofun,
      neighbours.fits.2.1, neighbours.right, nofun⟩
  · intro swap named swaps
    obtain ⟨described, swaps⟩ := swaps
    subst named
    apply (swap_executes_iff swaps text _).mpr
    exact ⟨neighbours.fits.1, neighbours.fits.2, neighbours.apart, rfl⟩

/-- A move whose target lies within its own span exchanges the span with characters around it,
or leaves the text as it is, on all texts that it suits; it fails on all others. No text is
rearranged exactly if the target is one of those under which the span stays put. -/
theorem move_onto_itself {move : Operation} (valid : move.Valid) {side : Side} {target : Nat}
    (moves : move.action = .move side target) (own : move.span.Covers target) :
    (∀ text : Text,
      (move.action.Suits move.span text.length →
        match move.span.ownTrade side target with
        | none => move.execute text = .ok text
        | some (first, second) =>
          (plain none first (.swap second none)).Valid ∧
            ∃ result, move.execute text = .ok result ∧
              ∀ swap : Operation, swap.span = first →
                (∃ described, swap.action = .swap second described) →
                  swap.execute text = .ok result) ∧
      (¬move.action.Suits move.span text.length →
        ∃ fault, move.execute text = .error (Failure.ofRange (some move) fault) ∧
          (move.writable = true → fault.writable = true))) ∧
    ((∀ text result : Text, move.execute text = .ok result → result = text) ↔
      move.span.StaysPut side target) := by
  have start : 1 ≤ move.span.start := valid.start_of_kind (congrArg Action.kind moves)
  have length := valid.length
  have executes := own_move_executes_iff valid moves own
  constructor
  · intro text
    constructor
    · intro suits
      obtain ⟨result, executed⟩ := (executes_iff valid text).mpr suits
      obtain ⟨inside, index, place, between, relocated⟩ := (executes text result).mp executed
      have passes := Span.passing_within start length own place
      rw [relocate_eq_passing start length inside between, passes] at relocated
      cases trade : move.span.ownTrade side target with
      | none =>
          rw [trade] at relocated
          rw [executed, ← relocated]
      | some spans =>
          obtain ⟨first, second⟩ := spans
          rw [trade] at relocated passes
          dsimp only at relocated
          have neighbours := Span.passing_neighbours start length inside between passes
          obtain ⟨possible, swapped⟩ := swap_of_neighbours neighbours
          rw [relocated] at swapped
          exact ⟨possible, result, executed, swapped⟩
    · exact refused_of_not_suits valid
  · constructor
    · intro still
      by_contra moved
      obtain ⟨text, size, shows⟩ := Span.text_showing start length
      have inside : move.span.last ≤ text.length := by omega
      have suits : move.action.Suits move.span text.length := by
        rw [moves, size]
        exact Span.suits_of_not_stays own moved
      obtain ⟨result, executed⟩ := (executes_iff valid text).mpr suits
      have same := still text result executed
      obtain ⟨_, index, place, between, relocated⟩ := (executes text result).mp executed
      apply moved
      rw [Span.stays_put_iff start length own place]
      exact shows index between (relocated.trans same)
    · intro stays text result executed
      obtain ⟨inside, index, place, between, relocated⟩ := (executes text result).mp executed
      rw [Span.stays_put_iff start length own place] at stays
      have fits := (Span.fits_iff_last start length).mpr inside
      rw [← relocated, stays, Text.relocate_in_place fits]

/-- Two characters that go in front of the second one of them. -/
def pairBeforeItsLast : Operation :=
  .plain none ⟨3, 2⟩ (.move .before 4)

/-- The pair changes places with the character in front of it, and where it does not lie in the
text the move fails. -/
theorem pair_before_its_last_slips :
    (∃ result, pairBeforeItsLast.execute ['a', 'b', 'c', 'd'] = .ok result ∧
      (plain none ⟨2, 1⟩ (.swap ⟨3, 2⟩ none)).execute ['a', 'b', 'c', 'd'] = .ok result) ∧
      (∃ fault, pairBeforeItsLast.execute ['a', 'b', 'c'] =
        .error (Failure.ofRange (some pairBeforeItsLast) fault) ∧ fault.writable = true) ∧
      ∃ text result : Text, pairBeforeItsLast.execute text = .ok result ∧ result ≠ text := by
  have valid : pairBeforeItsLast.Valid :=
    ⟨nofun, by decide, by decide, nofun, nofun, Nat.le_add_left 1 3⟩
  have onto := @move_onto_itself pairBeforeItsLast valid .before 4 rfl ⟨by decide, by decide⟩
  refine ⟨?_, ?_, ?_⟩
  · obtain ⟨_, result, moved, swapped⟩ :=
      (onto.1 ['a', 'b', 'c', 'd']).1 ⟨by decide, by decide, by decide⟩
    exact ⟨result, moved, swapped _ rfl ⟨none, rfl⟩⟩
  · obtain ⟨fault, failed, writable⟩ :=
      (onto.1 ['a', 'b', 'c']).2 fun suits => absurd suits.1 (by decide)
    exact ⟨fault, failed, writable (by decide)⟩
  · by_contra still
    push Not at still
    have stays := onto.2.mp still
    unfold Span.StaysPut at stays
    exact absurd stays (by decide)

/-- A character that is moved behind itself passes the next one, so the text is neither kept nor
refused. -/
theorem character_behind_itself_passes :
    ¬ ∀ (move : Operation) (side : Side) (target : Nat), move.Valid →
      move.action = .move side target → move.span.Covers target →
        ∀ text : Text, (∃ failure, move.execute text = .error failure) ∨
          move.execute text = .ok text := by
  intro never
  have valid : (plain none ⟨1, 1⟩ (.move .after 1)).Valid :=
    ⟨nofun, by decide, by decide, nofun, nofun, Nat.le_refl 1⟩
  have moved : (plain none ⟨1, 1⟩ (.move .after 1)).execute ['a', 'b'] = .ok ['b', 'a'] := rfl
  have own : Span.Covers ⟨1, 1⟩ 1 := ⟨Nat.le_refl 1, Nat.le_refl 1⟩
  cases never _ .after 1 valid rfl own ['a', 'b'] with
  | inl refused =>
      obtain ⟨failure, failed⟩ := refused
      rw [moved] at failed
      cases failed
  | inr kept =>
      rw [moved] at kept
      cases kept

end Operation

end EditScript
