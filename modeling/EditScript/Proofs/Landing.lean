import EditScript.Proofs.BroughtForward
import EditScript.Proofs.Moves

/-!
# Moves that land in place

The move of a merged pair goes in front of the character behind the position of the
insertion, and this position is counted as if the move came in the insertion's turn, with its
span still in the text. Where the span should go is told by the script with the insertions
brought forward. The two places agree if the insertion goes in front of a character and the
operations between the pair lengthen the text by one less than the length of the span. They
look alike if the span falls short of its place by characters that it can change places with.
In all other cases the move fails, or it leaves another text.
-/

namespace EditScript

set_option autoImplicit false

/-! ### Where a text is put in -/

namespace Text

theorem relocate_at_index (front moved rest : Text) (index : Nat) :
    (front ++ (moved ++ rest)).relocate ⟨front.length + 1, moved.length⟩ index =
      (front ++ rest).take index ++ (moved ++ (front ++ rest).drop index) := by
  rw [relocate, splice_at_split, middle_at_split, List.nil_append, List.append_assoc]

variable {front passed moved behind : Text}

theorem put_in_at_split (front moved behind : Text) {index : Nat} (place : front.length = index) :
    (front ++ behind).take index ++ (moved ++ (front ++ behind).drop index) =
      front ++ (moved ++ behind) := by
  rw [List.take_left' place, List.drop_left' place]

/-- A text that is put in too far behind shows, as soon as it starts with another character
than what it should stand in front of. -/
theorem put_in_beyond_differs (different : moved.head? ≠ passed.head?) (filled : moved ≠ [])
    (some : passed ≠ []) :
    front ++ (passed ++ (moved ++ behind)) ≠ front ++ (moved ++ (passed ++ behind)) := by
  obtain ⟨first, moved, rfl⟩ := List.exists_cons_of_ne_nil filled
  obtain ⟨other, passed, rfl⟩ := List.exists_cons_of_ne_nil some
  intro same
  rw [List.append_cancel_left_eq] at same
  exact different (congrArg Option.some (List.cons.inj same).1.symm)

/-- A text that is put in too soon shows, unless it can change places with the characters that
it falls short by. -/
theorem put_in_short_iff (before passed moved behind : Text) :
    (before ++ passed ++ behind).take before.length ++
        (moved ++ (before ++ passed ++ behind).drop before.length) =
        before ++ passed ++ (moved ++ behind) ↔
      moved ++ passed = passed ++ moved := by
  rw [List.append_assoc, put_in_at_split before moved (passed ++ behind) rfl, List.append_assoc,
    List.append_cancel_left_eq, ← List.append_assoc, ← List.append_assoc,
    List.append_cancel_right_eq]

/-- A text that is put in at some index looks as if it were put in behind `front` only if it
is, or if it falls short by characters that it can change places with. -/
theorem put_in_iff {index : Nat} (inside : index < (front ++ behind).length)
    (different : behind ≠ [] → moved.head? ≠ behind.head?) (filled : moved ≠ []) :
    (front ++ behind).take index ++ (moved ++ (front ++ behind).drop index) =
        front ++ (moved ++ behind) ↔
      index = front.length ∨ ∃ before passed, front = before ++ passed ∧ before.length = index ∧
        passed ≠ [] ∧ moved ++ passed = passed ++ moved := by
  constructor
  · intro same
    rcases Nat.lt_trichotomy index front.length with short | exactly | beyond
    · obtain ⟨before, passed, rfl, rfl⟩ : ∃ before passed, front = before ++ passed ∧
          before.length = index :=
        ⟨front.take index, front.drop index, (List.take_append_drop index front).symm,
          List.length_take_of_le (Nat.le_of_lt short)⟩
      have some : passed ≠ [] := by
        rintro rfl
        simp at short
      exact .inr ⟨before, passed, rfl, rfl, some, (put_in_short_iff _ _ _ _).mp same⟩
    · exact .inl exactly
    · obtain ⟨passed, rest, rfl, place⟩ : ∃ passed rest, behind = passed ++ rest ∧
          (front ++ passed).length = index := by
        rw [List.length_append] at inside
        refine ⟨behind.take (index - front.length), behind.drop (index - front.length),
          (List.take_append_drop _ _).symm, ?_⟩
        rw [List.length_append, List.length_take]
        omega
      have some : passed ≠ [] := by
        rintro rfl
        rw [List.append_nil] at place
        omega
      rw [← List.append_assoc front passed, put_in_at_split _ _ _ place, List.append_assoc] at same
      refine absurd same (put_in_beyond_differs ?_ filled some)
      obtain ⟨other, passed, rfl⟩ := List.exists_cons_of_ne_nil some
      exact different (List.cons_ne_nil _ _)
  · rintro (rfl | ⟨before, passed, rfl, rfl, _, alike⟩)
    · exact put_in_at_split front moved behind rfl
    · exact (put_in_short_iff before passed moved behind).mpr alike

end Text

/-- A move to a position behind its span puts the span in at a place that is counted without
it. -/
theorem Operation.move_executes_at_split {move : Operation} {position : Nat}
    (moves : move.action = .move .before (position + 1)) {front moved rest : Text}
    (span : move.span = ⟨front.length + 1, moved.length⟩) (filled : moved ≠ [])
    (onward : front.length < position) (result : Text) :
    move.execute (front ++ (moved ++ rest)) = .ok result ↔
      ∃ index, index + moved.length = position ∧ index < (front ++ rest).length ∧
        (front ++ rest).take index ++ (moved ++ (front ++ rest).drop index) = result := by
  have positive := List.length_pos_iff.mpr filled
  simp only [move_executes_iff moves, span, Text.relocate_at_index, Span.Fits, relocationIndex,
    List.length_append]
  rw [if_pos (by omega)]
  constructor
  · rintro ⟨_, ⟨_, _, within⟩, index, place, _, same⟩
    exact ⟨index, by omega, by omega, same⟩
  · rintro ⟨index, place, inside, same⟩
    exact ⟨⟨by omega, by omega, by omega⟩, ⟨by omega, by omega, by omega⟩, index, by omega,
      by omega, same⟩

/-! ### Pairs that land in place -/

/-- The insertion of a pair goes in front of a character, and the operations between the pair
lengthen the text by one less than the length of the deleted span. -/
structure Aligned (growth : Int) (deletion introduction : Operation) : Prop where
  kind : introduction.kind = .insert .before
  even : growth + 1 = deletion.span.length

/-- In the text that a deletion leaves: the move of the pair puts the span behind `front`, and
the insertion is due behind `front` and `passed`; but this makes no difference to see. -/
structure Slips (growth : Int) (deletion introduction : Operation) (front passed : Text) :
    Prop where
  short : front.length + deletion.span.length = introduction.span.start
  due : ((front ++ passed).length : Int) = introduction.insertionPoint - growth
  some : passed ≠ []
  alike : ∃ moved ∈ deletion.described, moved ++ passed = passed ++ moved

namespace Script

/-- A pair whose move lands where its insertion is due, or cannot be told from one that does. -/
def InPlace (script : Script) (source : Text) (first second : Nat) : Prop :=
  ∃ deletion introduction, script[first]? = some deletion ∧ script[second]? = some introduction ∧
    (Aligned (script.growthBetween true first second) deletion introduction ∨
      ∃ front passed behind,
        (apply (script.forwardedUpTo true first ++ [deletion]) source).outcome =
          .ok (front ++ (passed ++ behind)) ∧
        Slips (script.growthBetween true first second) deletion introduction front passed)

/-- Operation by operation, the merged script has the texts of the script whose merged
insertions are brought forward. -/
def Follows (script : Script) (source : Text) : Prop :=
  ∀ index ≤ script.length, (apply (script.mergedUpTo true index) source).outcome =
    (apply (script.forwardedUpTo true index) source).outcome

section

variable {script : Script} {done before after : Alignment} {text : Text} {second : Nat}
  {introduction : Operation} (tight : Alignment.Tight (.add text :: after))
  (columns : script.MergedColumns done text before after second introduction)

include tight columns

/-- What stands behind the due place starts with another character than the moved text. -/
theorem head_behind (some : script.behind done before after ≠ []) :
    text.head? ≠ (script.behind done before after).head? := by
  cases tight with
  | addedRest nonempty => exact absurd rfl some
  | add nonempty char different tight => exact different

/-- Where the insertion of a pair is due, counted in the text that its deletion leaves. -/
theorem insertion_due :
    introduction.insertionPoint - script.growthBetween true done.weight second =
      ((done.target ++ script.between done before).length : Int) := by
  have due := columns.due
  rw [List.length_append]
  rcases columns.insertion_cases tight with ⟨rfl, _⟩ | ⟨rfl, _⟩
  · change ((done.target.length + before.target.length : Nat) : Int) - _ = _
    omega
  · change ((done.target.length + before.target.length + 1 : Nat) : Int) - 1 - _ = _
    omega

theorem introduction_onward (apart : 1 ≤ before.target.length) :
    done.target.length < introduction.span.start := by
  rcases columns.insertion_cases tight with ⟨rfl, _⟩ | ⟨rfl, _⟩
  · change _ < done.target.length + before.target.length
    omega
  · change _ < done.target.length + before.target.length + 1
    omega

/-- A pair is aligned if the span goes where the insertion is due, and there is a character for
it to go in front of. -/
theorem aligned_iff :
    Aligned (script.growthBetween true done.weight second)
        (deletion true (done.target.length + 1) text) introduction ↔
      (done.target ++ script.between done before).length + text.length = introduction.span.start ∧
        script.behind done before after ≠ [] := by
  have due := columns.due
  rw [List.length_append]
  rcases columns.insertion_cases tight with ⟨rfl, ended⟩ | ⟨rfl, more⟩
  · refine iff_of_false ?_ fun both => both.2 ended
    rintro ⟨kind, _⟩
    cases kind
  · constructor
    · intro aligned
      have even : script.growthBetween true done.weight second + 1 = (text.length : Int) :=
        aligned.even
      refine ⟨?_, more⟩
      change _ = done.target.length + before.target.length + 1
      omega
    · rintro ⟨place, _⟩
      change _ = done.target.length + before.target.length + 1 at place
      refine ⟨rfl, ?_⟩
      change _ = (text.length : Int)
      omega

/-- A pair slips if the span goes in front of where the insertion is due, by characters that it
can change places with. -/
theorem slips_iff :
    (∃ front passed behind,
      done.target ++ (script.between done before ++ script.behind done before after) =
          front ++ (passed ++ behind) ∧
        Slips (script.growthBetween true done.weight second)
          (deletion true (done.target.length + 1) text) introduction front passed) ↔
      ∃ front passed, done.target ++ script.between done before = front ++ passed ∧
        front.length + text.length = introduction.span.start ∧ passed ≠ [] ∧
        text ++ passed = passed ++ text := by
  have due := insertion_due tight columns
  constructor
  · rintro ⟨front, passed, behind, split, slips⟩
    obtain ⟨moved, described, alike⟩ := slips.alike
    obtain rfl : text = moved := Option.some.inj described
    rw [← List.append_assoc, ← List.append_assoc] at split
    have length := Int.ofNat.inj (due.symm.trans slips.due.symm)
    exact ⟨front, passed, (List.append_inj split length).1, slips.short, slips.some, alike⟩
  · rintro ⟨front, passed, split, place, some, alike⟩
    refine ⟨front, passed, script.behind done before after, ?_, place, ?_, some, text, rfl, alike⟩
    · rw [← List.append_assoc, split, List.append_assoc]
    · rw [← split, due]

/-- The move of a pair puts its text into the gap of its insertion exactly if the pair is
aligned or slips. -/
theorem move_fills_gap_iff (nonempty : text ≠ []) (apart : 1 ≤ before.target.length) :
    (mergedMove (deletion true (done.target.length + 1) text) introduction).execute
        (done.target ++ (text ++ (script.between done before ++ script.behind done before after))) =
        .ok (done.target ++ (script.between done before ++
          (text ++ script.behind done before after))) ↔
      Aligned (script.growthBetween true done.weight second)
          (deletion true (done.target.length + 1) text) introduction ∨
        ∃ front passed behind,
          done.target ++ (script.between done before ++ script.behind done before after) =
              front ++ (passed ++ behind) ∧
            Slips (script.growthBetween true done.weight second)
              (deletion true (done.target.length + 1) text) introduction front passed := by
  have onward := introduction_onward tight columns apart
  have different := head_behind tight columns
  rw [Operation.move_executes_at_split rfl rfl nonempty onward, aligned_iff tight columns,
    slips_iff tight columns, ← List.append_assoc done.target, ← List.append_assoc done.target]
  constructor
  · rintro ⟨index, place, inside, same⟩
    rw [Text.put_in_iff inside different nonempty] at same
    rcases same with rfl | ⟨front, passed, split, rfl, some, alike⟩
    · refine .inl ⟨place, ?_⟩
      intro ended
      rw [ended, List.append_nil] at inside
      exact Nat.lt_irrefl _ inside
    · exact .inr ⟨front, passed, split, place, some, alike⟩
  · rintro (⟨place, more⟩ | ⟨front, passed, split, place, some, alike⟩)
    · have positive := List.length_pos_iff.mpr more
      refine ⟨_, place, ?_, Text.put_in_at_split _ _ _ rfl⟩
      rw [@List.length_append _ (_ ++ _)]
      omega
    · have positive := List.length_pos_iff.mpr some
      have inside : front.length <
          (done.target ++ script.between done before ++ script.behind done before after).length := by
        rw [split, List.length_append, List.length_append]
        omega
      refine ⟨front.length, place, inside, ?_⟩
      rw [Text.put_in_iff inside different nonempty]
      exact .inr ⟨front, passed, split, rfl, some, alike⟩

end

theorem merged_at_pair {script : Script} {first second : Nat} {operation introduction : Operation}
    (partner : script.mergedWith? true first = some second)
    (there : script[second]? = some introduction) :
    script.outcomeAt true operation first = some (mergedMove operation introduction) := by
  rw [outcomeAt, partner]
  simp [there, mergedMove]

theorem merged_at_alone {script : Script} {index : Nat} (operation : Operation)
    (alone : script.mergedWith? true index = none) :
    (script.outcomeAt true operation index).toList =
      if script.PartnerBefore true index index then [] else [operation] := by
  rw [outcomeAt, alone]
  dsimp only
  split <;> rfl

/-- Every place in a script is one between two columns. -/
theorem split_at_index {script : Script} {columns : Alignment}
    (whole : script = columns.script true [] 0) {index : Nat} (inside : index ≤ script.length) :
    ∃ done rest : Alignment, columns = done ++ rest ∧ done.weight = index := by
  have size := Alignment.length_script true [] 0 columns
  rw [← whole] at size
  cases here : script[index]? with
  | none =>
      have ended := List.getElem?_eq_none_iff.mp here
      exact ⟨columns, [], (List.append_nil columns).symm, by omega⟩
  | some operation =>
      rw [whole] at here
      obtain ⟨done, edit, rest, split, weight, _⟩ := Alignment.split_at_operation here
      exact ⟨done, edit :: rest, split, weight⟩

section

variable {script : Script} {columns : Alignment} (tight : columns.Tight)
  (whole : script = columns.script true [] 0)

include tight whole

/-- A merged pair is in place exactly if its move leads from one waypoint to the next. -/
theorem move_leads_on_iff {done rest : Alignment} {edit : Edit} {deletion introduction : Operation}
    {second : Nat} (split : columns = done ++ edit :: rest)
    (found : edit.operation? true rest.source.isEmpty done.target.length = some deletion)
    (partner : script.mergedWith? true done.weight = some second)
    (there : script[second]? = some introduction) :
    (mergedMove deletion introduction).execute (script.waypoint done (edit :: rest)) =
        .ok (script.waypoint (done ++ [edit]) rest) ↔
      script.InPlace columns.source done.weight second := by
  have reached := forwarded_reaches tight whole done (edit :: rest) split
  have here := operation_of_column (whole.trans (by rw [split])) found
  rw [split] at tight whole
  have onward := Alignment.tight_of_append tight
  obtain ⟨text, before, after, insertion, nonempty, rfl, rfl, rfl, behind, merges, pair⟩ :=
    pair_of_column whole onward found partner
  obtain rfl : insertion = introduction := Option.some.inj (pair.there.symm.trans there)
  have apart : 1 ≤ before.target.length := by
    -- what is kept behind the deletion stands between the pair
    cases before with
    | nil => cases onward
    | cons edit before =>
        cases onward
        simp [Edit.new]
  have deletes : (deletion true (done.target.length + 1) text).execute
      (done.target ++ (text ++ (script.between done before ++ script.behind done before after))) =
      .ok (done.target ++ (script.between done before ++ script.behind done before after)) :=
    execute_of_result (delete_at_split _ _ nonempty)
  rw [waypoint_at_pair merges pair] at reached
  have left : (apply (script.forwardedUpTo true done.weight ++
      [deletion true (done.target.length + 1) text]) columns.source).outcome =
      .ok (done.target ++ (script.between done before ++ script.behind done before after)) := by
    rw [apply_append_of_ok reached, apply_singleton, deletes]
  rw [waypoint_at_pair merges pair, waypoint_behind_pair merges pair,
    move_fills_gap_iff behind pair nonempty apart, InPlace]
  constructor
  · intro lands
    refine ⟨_, _, here, there, ?_⟩
    simpa only [left, Except.ok.injEq] using lands
  · rintro ⟨deletion, introduction, first, last, lands⟩
    cases here.symm.trans first
    cases there.symm.trans last
    simpa only [left, Except.ok.injEq] using lands

/-- While all its pairs are in place, a merged script reaches every waypoint. -/
theorem merged_reaches
    (inPlace : ∀ first second, script.mergedWith? true first = some second →
      script.InPlace columns.source first second)
    (done rest : Alignment) (split : columns = done ++ rest) :
    (apply (script.mergedUpTo true done.weight) columns.source).outcome =
      .ok (script.waypoint done rest) := by
  refine reaches_waypoints whole rfl (fun _ _ here => merged_up_to_succ here) ?_ done rest split
  intro done edit rest operation split found
  cases partner : script.mergedWith? true done.weight with
  | none =>
      rw [merged_at_alone operation partner]
      rw [split] at tight whole
      exact unpaired_column_step whole (Alignment.tight_of_append tight).proper found partner
  | some second =>
      have pair := inPlace done.weight second partner
      have ⟨_, introduction, _, there, _⟩ := pair
      rw [merged_at_pair partner there, Option.toList_some, apply_singleton]
      exact (move_leads_on_iff tight whole split found partner there).mpr pair

/-- The merged script has the texts that it should have exactly as long as its pairs are in
place. -/
theorem follows_iff :
    script.Follows columns.source ↔ ∀ first second, script.mergedWith? true first = some second →
      script.InPlace columns.source first second := by
  constructor
  · intro follows first second partner
    obtain ⟨text, merges⟩ := merged_with_eq_some_iff.mp partner
    obtain ⟨deletion, here, _⟩ := Option.bind_eq_some_iff.mp merges.deleted
    obtain ⟨introduction, there, _⟩ := (merges.introduced second).mpr rfl
    have position := here
    rw [whole] at position
    obtain ⟨done, edit, rest, split, rfl, found⟩ := Alignment.split_at_operation position
    rw [List.append_nil, Nat.zero_add] at found
    apply (move_leads_on_iff tight whole split found partner there).mp
    have weight : edit.weight = 1 := by
      rw [← Alignment.operation_count true rest.source.isEmpty done.target.length edit, found]
      rfl
    have inside : done.weight + 1 ≤ script.length := (List.getElem?_eq_some_iff.mp here).1
    have reached := forwarded_reaches tight whole done (edit :: rest) split
    have onward := forwarded_reaches tight whole (done ++ [edit]) rest
      (by rw [split, List.append_assoc, List.singleton_append])
    rw [← follows _ (Nat.le_of_lt inside)] at reached
    rw [Alignment.weight_concat, weight, ← follows _ inside, merged_up_to_succ here,
      merged_at_pair partner there, apply_append_of_ok reached, Option.toList_some,
      apply_singleton] at onward
    exact onward
  · intro inPlace index inside
    obtain ⟨done, rest, split, rfl⟩ := split_at_index whole inside
    rw [merged_reaches tight whole inPlace done rest split,
      forwarded_reaches tight whole done rest split]

end

end Script

/-- Merging deletions with insertions in a derived script, against bringing the insertions
forward: that script is executed without a failure and rebuilds the target. The merged one has
its texts, operation by operation, exactly if all its pairs are in place; and so it rebuilds
the target then. -/
theorem merged_diff_rebuilds_target (source target : Text) :
    let script := walk true 0 0 source target
    (Script.apply (script.forwardedUpTo true script.length) source).outcome = .ok target ∧
      (script.Follows source ↔ ∀ first second, script.mergedWith? true first = some second →
        script.InPlace source first second) ∧
      ((∀ first second, script.mergedWith? true first = some second →
          script.InPlace source first second) →
        ∃ merged, (Script.diff ⟨true, true, true⟩ source target).outcome = .ok merged ∧
          (merged.apply source).outcome = .ok target) := by
  obtain ⟨columns, tight, rfl, rfl, traced⟩ := walk_traces 0 0 source target
  rw [traced true]
  have follows := Script.follows_iff tight rfl
  have rebuilds := Script.forwarded_rebuilds tight rfl
  refine ⟨rebuilds, follows, fun inPlace => ?_⟩
  refine ⟨_, adjusted_diff_outcome true true columns.source columns.target, ?_⟩
  rw [traced true, ← Script.merged_up_to_length, ← rebuilds]
  exact follows.mpr inPlace _ (Nat.le_refl _)

/-- A merged script may also come to its target by other texts: here a move out of place is made
good by a later one. -/
example :
    let source := "daddcdbadd".toList
    let target := "baddcddadd".toList
    let script := walk true 0 0 source target
    (Script.apply (script.merged true) source).outcome = .ok target ∧
      (Script.apply (script.mergedUpTo true 2) source).outcome = .ok "badddcdabadd".toList ∧
      (Script.apply (script.forwardedUpTo true 2) source).outcome = .ok "badddcdbadad".toList := by
  cbv

/-- Two pairs that cross. The first one slips past a character, and the second one is aligned
as the text of the first has been put in already. -/
def Script.crossingPairs : Script :=
  [deletion true 1 ['a'], deletion true 2 ['b'], insertion .before 3 ['a'],
    insertion .before 5 ['b']]

theorem crossing_pairs_walk :
    walk true 0 0 ['a', 'b', 'b', 'a', 'b', 'a'] ['b', 'a', 'a', 'b', 'b', 'a'] =
      Script.crossingPairs := by
  simp [walk, choose, splitBefore?, Script.crossingPairs]

theorem crossing_pairs_in_place {first second : Nat}
    (partner : Script.crossingPairs.mergedWith? true first = some second) :
    Script.crossingPairs.InPlace ['a', 'b', 'b', 'a', 'b', 'a'] first second := by
  rcases first with _ | _ | first
  · obtain rfl : 2 = second := Option.some.inj partner
    exact ⟨_, _, rfl, rfl, .inr ⟨['b', 'b'], ['a'], ['b', 'a'], rfl, rfl, rfl, nofun, ['a'], rfl, rfl⟩⟩
  · obtain rfl : 3 = second := Option.some.inj partner
    exact ⟨_, _, rfl, rfl, .inl ⟨rfl, rfl⟩⟩
  · -- there are no deletions further behind
    obtain ⟨text, merges⟩ := Script.merged_with_eq_some_iff.mp partner
    have deleted := merges.deleted
    rcases first with _ | _ | first <;> cases deleted

theorem crossing_pairs_rebuilt :
    Script.crossingPairs.mergedWith? true 0 = some 2 ∧
      Script.crossingPairs.mergedWith? true 1 = some 3 ∧
      ∃ merged,
        (Script.diff ⟨true, true, true⟩ ['a', 'b', 'b', 'a', 'b', 'a']
          ['b', 'a', 'a', 'b', 'b', 'a']).outcome = .ok merged ∧
        (merged.apply ['a', 'b', 'b', 'a', 'b', 'a']).outcome =
          .ok ['b', 'a', 'a', 'b', 'b', 'a'] := by
  obtain ⟨_, _, rebuilds⟩ := merged_diff_rebuilds_target ['a', 'b', 'b', 'a', 'b', 'a']
    ['b', 'a', 'a', 'b', 'b', 'a']
  rw [crossing_pairs_walk] at rebuilds
  exact ⟨by decide, by decide, rebuilds fun _ _ => crossing_pairs_in_place⟩

/-- A move goes in front of the character behind the place of an insertion as it is
counted with the span still in the text, so it may fall short of that place. -/
theorem adjacent_pair_not_exchanged :
    ¬ ∀ source target : Text, ∃ script,
      (Script.diff ⟨true, true, true⟩ source target).outcome = .ok script ∧
        (script.apply source).outcome = .ok target := by
  intro rebuilt
  rcases rebuilt ['a', 'b'] ['b', 'a'] with ⟨script, derived, applied⟩
  have walked : walk true 0 0 ['a', 'b'] ['b', 'a'] =
      [deletion true 1 ['a'], insertion .after 1 ['a']] := by
    simp [walk, choose, splitBefore?]
  have merged : Script.merged true [deletion true 1 ['a'], insertion .after 1 ['a']] =
      [mergedMove (deletion true 1 ['a']) (insertion .after 1 ['a'])] := by
    decide
  rw [adjusted_diff_outcome, walked, merged] at derived
  cases derived
  have unchanged : (Script.apply [mergedMove (deletion true 1 ['a']) (insertion .after 1 ['a'])]
      ['a', 'b']).outcome = .ok ['a', 'b'] := by
    rfl
  rw [unchanged] at applied
  cases applied

end EditScript
