import EditScript.Proofs.Moves
import EditScript.Proofs.Scanning

/-!
# When a merge keeps the effect of its pair

A deletion and the insertion that is executed next put the deleted text in again, between
the characters that are left; so does the move that they are merged into. Both are told by
the number of characters in front of the text, and for most pairs the two numbers differ:
the move counts its target with the span still in the text, and it takes insertions on
either side for one. Where they differ the results do too, as soon as the text that is left
consists of one character that the moved text does not start with.
-/

namespace EditScript

set_option autoImplicit false

/-- The pairs that a merge keeps the effect of: the insertion goes to the front of the text;
or one character is put in front of a later one; or the text goes behind an earlier one. -/
def Span.KeepsPlace (span : Span) (side : Side) (place : Nat) : Prop :=
  match side with
  | .before => place = 0 ∨ (span.length = 1 ∧ span.start ≤ place)
  | .after => 1 ≤ place ∧ place < span.start

theorem insertion_index_le {side : Side} {place bound : Nat} (inside : place ≤ bound) :
    insertionIndex side place bound ≤ bound := by
  cases side with
  | before => exact (Nat.sub_le place 1).trans inside
  | after =>
      cases place with
      | zero => exact Nat.le_refl bound
      | succ place => exact inside

/-- The move puts as many characters in front of the text as the insertion does, apart from
the pairs that keep their place, only if there are no other characters. -/
theorem places_agree_iff {side : Side} {span : Span} {place bound : Nat} (start : 1 ≤ span.start)
    (length : 1 ≤ span.length) :
    relocationIndex .before span (place + 1) = insertionIndex side place bound ↔
      span.KeepsPlace side place ∨ (side = .after ∧ place = 0 ∧ bound = 0) := by
  cases side with
  | before =>
      simp only [relocationIndex, insertionIndex, Span.KeepsPlace, reduceCtorEq, false_and, or_false]
      split <;> omega
  | after =>
      cases place with
      | zero =>
          simp only [relocationIndex, insertionIndex, Span.KeepsPlace]
          rw [if_neg (by omega)]
          simp
          omega
      | succ place =>
          simp only [relocationIndex, insertionIndex, Span.KeepsPlace]
          split <;> omega

namespace Operation

theorem deletion_executes_iff {deletion : Operation} (deletes : deletion.action = .delete)
    (text result : Text) :
    deletion.execute text = .ok result ↔
      deletion.span.Fits text.length ∧ text.splice deletion.span [] = result := by
  simp only [execute_eq_ok_iff, deletes, Action.check, Action.effect, Span.check_eq_ok_iff]

theorem insertion_executes_iff {insertion : Operation} {side : Side} {inserted : Text}
    (valid : insertion.Valid) (inserts : insertion.action = .insert side inserted)
    (text result : Text) :
    insertion.execute text = .ok result ↔
      insertion.span.start ≤ text.length ∧
        text.take (insertionIndex side insertion.span.start text.length) ++ inserted ++
          text.drop (insertionIndex side insertion.span.start text.length) = result := by
  rw [execute_eq_ok_iff, Action.check_eq_ok_iff valid.start valid.length valid.action, inserts]
  exact Iff.rfl

end Operation

section

variable {deletion insertion : Operation} {side : Side} {moved : Text}

/-- A deletion and an insertion of the deleted text put it in again. -/
theorem pair_executes_iff (insertionValid : insertion.Valid) (deletes : deletion.action = .delete)
    (inserts : insertion.action = .insert side moved) {text : Text}
    (holds : text.middle deletion.span = moved) (result : Text) :
    (∃ reached, deletion.execute text = .ok reached ∧ insertion.execute reached = .ok result) ↔
      deletion.span.Fits text.length ∧
        insertion.span.start + deletion.span.length ≤ text.length ∧
        text.relocate deletion.span
          (insertionIndex side insertion.span.start (text.length - deletion.span.length)) =
            result := by
  simp only [Operation.deletion_executes_iff deletes,
    Operation.insertion_executes_iff insertionValid inserts]
  constructor
  · rintro ⟨_, ⟨fits, rfl⟩, inside, same⟩
    have size : (text.splice deletion.span []).length = text.length - deletion.span.length :=
      Text.length_splice fits []
    rw [size] at inside same
    obtain ⟨positive, first, within⟩ := fits
    refine ⟨⟨positive, first, within⟩, by omega, ?_⟩
    rw [Text.relocate, holds]
    exact same
  · rintro ⟨fits, inside, same⟩
    have size : (text.splice deletion.span []).length = text.length - deletion.span.length :=
      Text.length_splice fits []
    refine ⟨_, ⟨fits, rfl⟩, ?_⟩
    rw [size]
    refine ⟨by omega, ?_⟩
    rw [Text.relocate, holds] at same
    exact same

/-- A text that is left as one character, repeated, shows where another one was put in that
starts with a different character. -/
theorem place_of_relocated {other first : Char} (different : first ≠ other) {rest : Text}
    {count left right : Nat} (leftInside : left ≤ count) (rightInside : right ≤ count)
    (same : (List.replicate count other).take left ++ (first :: rest) ++
        (List.replicate count other).drop left =
      (List.replicate count other).take right ++ (first :: rest) ++
        (List.replicate count other).drop right) : left = right := by
  have shown {index : Nat} (inside : index ≤ count) :
      (((List.replicate count other).take index ++ (first :: rest) ++
        (List.replicate count other).drop index).takeWhile (· == other)).length = index := by
    have front : ∀ char ∈ (List.replicate count other).take index, (char == other) = true := by
      intro char member
      rw [List.eq_of_mem_replicate (List.mem_of_mem_take member)]
      exact beq_self_eq_true other
    have stop : Text.StopsAt (· == other)
        (first :: rest ++ (List.replicate count other).drop index) :=
      Text.stops_at_of_head _ (beq_false_of_ne different)
    rw [List.append_assoc, takeWhile_of_stop front stop, List.length_take, List.length_replicate]
    exact Nat.min_eq_left inside
  rw [← shown leftInside, same, shown rightInside]

/-- The text in which a pair is told from its move: in front of the moved text, and behind
it, one character that the moved text does not start with. -/
theorem relocate_in_uniform (other : Char) (moved : Text) (before behind index : Nat) :
    Text.relocate (List.replicate before other ++ (moved ++ List.replicate behind other))
        ⟨before + 1, moved.length⟩ index =
      (List.replicate (before + behind) other).take index ++ moved ++
        (List.replicate (before + behind) other).drop index := by
  have cut := Text.splice_at_split (List.replicate before other) moved
    (List.replicate behind other) []
  have span := Text.middle_at_split (List.replicate before other) moved
    (List.replicate behind other)
  rw [List.length_replicate] at cut span
  rw [Text.relocate, cut, span, List.nil_append, List.replicate_append_replicate]

/-- A pair by itself is merged. -/
theorem pair_merged (insertOnly : Bool) (deletes : deletion.action = .delete)
    (describes : deletion.described = some moved) (inserts : insertion.action = .insert side moved) :
    (Script.adjustment insertOnly [deletion, insertion]).script = [mergedMove deletion insertion] := by
  have deleted : deletion.deletes? = some moved := by
    rw [Operation.deletes?, deletes, describes]
  have introduces : insertion.introduces insertOnly moved = true := by
    simp [Operation.introduces, inserts]
  have unlike : deletion.introduces insertOnly moved = false := by
    rw [Operation.introduces, deletes]
  simp [Script.adjustment, Script.adjustFrom, Script.adjustStep, deleted, Script.partner?,
    introduces, Script.introducedElsewhere, unlike, Adjustment.script, AdjustmentStep.operation]

/-- Where a pair keeps its place, its move can be executed whenever the pair can be, and it
has the same result. -/
theorem merge_keeps_effect {text result : Text} (deletionValid : deletion.Valid)
    (insertionValid : insertion.Valid) (deletes : deletion.action = .delete)
    (inserts : insertion.action = .insert side moved)
    (holds : text.middle deletion.span = moved)
    (keeps : deletion.span.KeepsPlace side insertion.span.start)
    (pair : ∃ reached, deletion.execute text = .ok reached ∧ insertion.execute reached = .ok result) :
    (mergedMove deletion insertion).execute text = .ok result := by
  obtain ⟨fits, inside, relocated⟩ :=
    (pair_executes_iff insertionValid deletes inserts holds result).mp pair
  have start : 1 ≤ deletion.span.start := fits.1
  have length := deletionValid.length
  have between := @insertion_index_le side insertion.span.start
    (text.length - deletion.span.length) (by omega)
  rw [@Operation.move_executes_iff (mergedMove deletion insertion) .before _ rfl]
  refine ⟨fits, ⟨Nat.succ_pos _, by dsimp only; omega, by dsimp only; omega⟩, _,
    (places_agree_iff start length).mpr (.inl keeps), ?_, relocated⟩
  change _ + deletion.span.length ≤ _
  omega

/-- The effect of a pair in all texts tells where its move puts the span: in the text in
which one other character stands around the moved text, no two places look alike. -/
theorem keeps_place_of_effect (deletionValid : deletion.Valid) (insertionValid : insertion.Valid)
    (deletes : deletion.action = .delete) (describes : deletion.described = some moved)
    (whole : moved.length = deletion.span.length) (inserts : insertion.action = .insert side moved)
    (same : ∀ text result : Text, text.middle deletion.span = moved →
      (∃ reached, deletion.execute text = .ok reached ∧ insertion.execute reached = .ok result) →
        (mergedMove deletion insertion).execute text = .ok result) :
    deletion.span.KeepsPlace side insertion.span.start := by
  have start : 1 ≤ deletion.span.start := by
    have least := deletionValid.start
    rw [Operation.kind, deletes] at least
    exact least
  have length := deletionValid.length
  obtain ⟨first, rest, rfl⟩ : ∃ first rest, moved = first :: rest :=
    List.exists_cons_of_ne_nil fun empty => deletionValid.described (by rw [describes, empty])
  obtain ⟨other, different⟩ : ∃ other, first ≠ other := by
    by_cases letter : first = 'a'
    · exact ⟨'b', by rw [letter]; decide⟩
    · exact ⟨'a', letter⟩
  have here : deletion.span = ⟨deletion.span.start - 1 + 1, (first :: rest).length⟩ := by
    rw [whole, Nat.sub_add_cancel start]
  -- behind the moved text there is room for the insertion, and one character more
  let behind := insertion.span.start + 1
  let text : Text := List.replicate (deletion.span.start - 1) other ++
    (first :: rest ++ List.replicate behind other)
  have size : text.length = deletion.span.start - 1 + deletion.span.length + behind := by
    simp only [text, List.length_append, List.length_replicate, whole]
    omega
  have left : text.length - deletion.span.length = deletion.span.start - 1 + behind := by omega
  have fits : deletion.span.Fits text.length := ⟨start, by omega, by omega⟩
  have holds : text.middle deletion.span = first :: rest := by
    have span := Text.middle_at_split (List.replicate (deletion.span.start - 1) other)
      (first :: rest) (List.replicate behind other)
    rwa [List.length_replicate, ← here] at span
  have pair := (pair_executes_iff insertionValid deletes inserts holds _).mpr
    ⟨fits, by omega, rfl⟩
  have carried := same text _ holds pair
  rw [@Operation.move_executes_iff (mergedMove deletion insertion) .before _ rfl] at carried
  obtain ⟨_, _, index, place, between, relocated⟩ := carried
  change relocationIndex .before deletion.span (insertion.span.start + 1) = index at place
  change index + deletion.span.length ≤ text.length at between
  change text.relocate deletion.span index = text.relocate deletion.span _ at relocated
  rw [left] at relocated
  have inside := @insertion_index_le side insertion.span.start
    (deletion.span.start - 1 + behind) (by omega)
  have agree : index =
      insertionIndex side insertion.span.start (deletion.span.start - 1 + behind) := by
    rw [here] at relocated
    simp only [text, relocate_in_uniform] at relocated
    exact place_of_relocated different (by omega) inside relocated
  rw [agree, places_agree_iff start length] at place
  rcases place with keeps | ⟨_, _, empty⟩
  · exact keeps
  · omega

/-- A deletion and an insertion of the deleted text, by themselves, are merged into a move.
The move has the same result as the pair, in every text that holds what is deleted in its
place and in which the pair can be executed, exactly if the pair keeps its place. -/
theorem merge_keeps_effect_iff (deletionValid : deletion.Valid) (insertionValid : insertion.Valid)
    (deletes : deletion.action = .delete) (describes : deletion.described = some moved)
    (whole : moved.length = deletion.span.length) (inserts : insertion.action = .insert side moved) :
    (∀ insertOnly, (Script.adjustment insertOnly [deletion, insertion]).script =
        [mergedMove deletion insertion]) ∧
      ((∀ text result : Text, text.middle deletion.span = moved →
          (∃ reached, deletion.execute text = .ok reached ∧
            insertion.execute reached = .ok result) →
          (mergedMove deletion insertion).execute text = .ok result) ↔
        deletion.span.KeepsPlace side insertion.span.start) := by
  refine ⟨fun insertOnly => pair_merged insertOnly deletes describes inserts, ?_, ?_⟩
  · exact keeps_place_of_effect deletionValid insertionValid deletes describes whole inserts
  · exact fun keeps text result holds pair =>
      merge_keeps_effect deletionValid insertionValid deletes inserts holds keeps pair

end

/-- The deletion of two characters that are said to be `ab`. -/
def twoDeleted : Operation :=
  .plain (some ['a', 'b']) ⟨2, 2⟩ .delete

/-- The insertion of the two characters in front of the third one that is left. -/
def twoInserted : Operation :=
  .plain none ⟨3, 1⟩ (.insert .before ['a', 'b'])

/-- The pair is merged, and there is a text in which the move has another result. -/
theorem two_characters_misplaced :
    (∀ insertOnly, (Script.adjustment insertOnly [twoDeleted, twoInserted]).script =
        [mergedMove twoDeleted twoInserted]) ∧
      ∃ text result : Text, text.middle twoDeleted.span = ['a', 'b'] ∧
        (∃ reached, twoDeleted.execute text = .ok reached ∧
          twoInserted.execute reached = .ok result) ∧
        (mergedMove twoDeleted twoInserted).execute text ≠ .ok result := by
  have deletionValid : twoDeleted.Valid := ⟨nofun, by decide, by decide, nofun, nofun, trivial⟩
  have insertionValid : twoInserted.Valid := ⟨nofun, by decide, by decide, nofun, nofun, trivial⟩
  obtain ⟨merged, effect⟩ := merge_keeps_effect_iff deletionValid insertionValid rfl rfl rfl rfl
  refine ⟨merged, ?_⟩
  have misplaced : ¬ twoDeleted.span.KeepsPlace .before twoInserted.span.start := by
    rintro (front | ⟨single, _⟩)
    · exact absurd front (by decide)
    · exact absurd single (by decide)
  by_contra none
  push Not at none
  exact misplaced (effect.mp none)

end EditScript
