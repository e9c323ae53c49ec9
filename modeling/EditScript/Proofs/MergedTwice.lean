import EditScript.Proofs.Relocation

/-!
# Merging a second time

A merged script is left as it is when it is merged again. What is left of the operations that
introduce a text decides it: they are all gone if the text was merged, and all there if not. So
a deletion with such an operation behind it was contested before, and is contested again. The
pass fails only where it has to name an operation that cannot be written; the second one names
contested deletions alone, and the first one has named these already.
-/

namespace EditScript

set_option autoImplicit false

namespace Script

/-- A deletion whose text is introduced behind it, and somewhere else as well. -/
structure Contested (insertOnly : Bool) (script : Script) (text : Text) (index : Nat) : Prop where
  deleted : script.deletedAt? index = some text
  introduced : ∃ second other, index < second ∧ other ≠ second ∧
    script.IntroducedAt insertOnly text second ∧ script.IntroducedAt insertOnly text other

/-- What the pass makes of an operation that is not the partner of an earlier one. -/
inductive Settles (insertOnly : Bool) (script : Script) (index : Nat) (operation : Operation) :
    AdjustmentStep → Prop
  | merged {text : Text} {second : Nat} {introduction : Operation}
      (merges : script.Merges insertOnly text index second)
      (partner : script[second]? = some introduction) :
      Settles insertOnly script index operation (.merged operation introduction)
  | ambiguous {text : Text} (contested : script.Contested insertOnly text index) :
      Settles insertOnly script index operation (.ambiguous operation text)
  | kept (alone : script.mergedWith? insertOnly index = none)
      (uncontested : ∀ text, ¬script.Contested insertOnly text index) :
      Settles insertOnly script index operation (.kept operation)

variable {insertOnly : Bool} {script : Script} {text other : Text} {index second : Nat}
  {operation : Operation}

/-! ### What the pass names -/

theorem Merges.uncontested (merges : script.Merges insertOnly text index second) :
    ¬script.Contested insertOnly other index := by
  rintro ⟨deleted, behind, another, _, away, introduced, also⟩
  cases merges.deleted.symm.trans deleted
  have first := (merges.introduced behind).mp introduced
  have next := (merges.introduced another).mp also
  exact away (next.trans first.symm)

theorem Contested.alone (contested : script.Contested insertOnly text index) :
    script.mergedWith? insertOnly index = none := by
  rw [Option.eq_none_iff_forall_ne_some]
  intro second partner
  obtain ⟨_, merges⟩ := merged_with_eq_some_iff.mp partner
  exact merges.uncontested contested

theorem settles_unique {step again : AdjustmentStep}
    (settles : script.Settles insertOnly index operation step)
    (also : script.Settles insertOnly index operation again) : step = again := by
  cases settles with
  | merged merges partner =>
      cases also with
      | merged others otherPartner =>
          cases merges.deleted.symm.trans others.deleted
          cases (others.introduced _).mp ((merges.introduced _).mpr rfl)
          cases partner.symm.trans otherPartner
          rfl
      | ambiguous contested => exact absurd contested merges.uncontested
      | kept alone =>
          have partner := merged_with_eq_some_iff.mpr ⟨_, merges⟩
          cases alone.symm.trans partner
  | ambiguous contested =>
      cases also with
      | merged merges => exact absurd contested merges.uncontested
      | ambiguous others =>
          cases contested.deleted.symm.trans others.deleted
          rfl
      | kept _ uncontested => exact absurd contested (uncontested _)
  | kept alone uncontested =>
      cases also with
      | merged merges =>
          have partner := merged_with_eq_some_iff.mpr ⟨_, merges⟩
          cases alone.symm.trans partner
      | ambiguous contested => exact absurd contested (uncontested _)
      | kept => rfl

/-- Of two operations that introduce a text none is used up: what is used up introduces its
text alone. -/
theorem not_partner_of_rival {first : Nat} (introduced : script.IntroducedAt insertOnly text first)
    (rival : script.IntroducedAt insertOnly text second) (apart : first ≠ second) (index : Nat) :
    ¬script.PartnerBefore insertOnly index first := by
  rintro ⟨deletion, _, partner⟩
  obtain ⟨merged, merges⟩ := merged_with_eq_some_iff.mp partner
  obtain ⟨operation, here, _, own⟩ := introduced
  obtain ⟨again, there, _, alone⟩ := (merges.introduced first).mpr rfl
  cases here.symm.trans there
  cases own.symm.trans alone
  exact apart ((merges.introduced second).mp rival).symm

/-- Without a partner that is free, a deletion is not contested: rivals are never used up. -/
theorem uncontested_of_no_partner {taken : List Nat}
    (used : script.UsedBefore insertOnly index taken)
    (search : partner? insertOnly text taken (index + 1) (script.drop (index + 1)) = none) :
    ¬script.Contested insertOnly text index := by
  rintro ⟨_, second, rival, behind, apart, introduced, also⟩
  obtain ⟨candidate, position, introduces⟩ := introduced_at_iff.mp introduced
  obtain ⟨offset, rfl⟩ := Nat.exists_eq_add_of_lt behind
  have place : index + offset + 1 = index + 1 + offset := by omega
  rw [place] at position introduced
  rw [← List.getElem?_drop] at position
  have busy := partner_none search offset candidate position introduces
  exact not_partner_of_rival introduced also (place ▸ apart.symm) index ((used _).mp busy)

/-- A partner is found, and another operation introduces the text. -/
theorem contested_of_elsewhere {introduction : Operation}
    (deleted : script.deletedAt? index = some text) (behind : index < second)
    (position : script[second]? = some introduction)
    (introduces : introduction.introduces insertOnly text = true)
    (elsewhere : introducedElsewhere insertOnly text second 0 script = true) :
    script.Contested insertOnly text index := by
  obtain ⟨offset, rival, there, away, also⟩ := (introduced_elsewhere_iff script).mp elsewhere
  rw [Nat.zero_add] at away
  exact ⟨deleted, second, offset, behind, away,
    introduced_at_iff.mpr ⟨introduction, position, introduces⟩,
    introduced_at_iff.mpr ⟨rival, there, also⟩⟩

theorem adjust_step_settles {taken : List Nat} (here : script[index]? = some operation)
    (used : script.UsedBefore insertOnly index taken) (free : index ∉ taken) :
    script.Settles insertOnly index operation
      (adjustStep insertOnly script taken (index + 1) operation (script.drop (index + 1))).1 := by
  obtain ⟨step, stepped, _⟩ := adjust_step_spec here used free
  have same : script.deletedAt? index = operation.deletes? := by
    rw [deletedAt?, here]
    rfl
  unfold adjustStep at stepped ⊢
  split at stepped
  · next nothing =>
      refine .kept (Prod.mk.inj stepped).2.symm fun text contested => ?_
      cases nothing.symm.trans (same.symm.trans contested.deleted)
  · next text deletes =>
      have deleted : script.deletedAt? index = some text := same.trans deletes
      split at stepped
      · next search =>
          refine .kept (Prod.mk.inj stepped).2.symm fun other contested => ?_
          cases deleted.symm.trans contested.deleted
          exact uncontested_of_no_partner used search contested
      · next found introduction search =>
          obtain ⟨behind, _, position, introduces⟩ := partner_some search
          rw [List.getElem?_drop, Nat.add_sub_cancel' behind] at position
          split at stepped
          · next elsewhere =>
              rw [if_pos elsewhere]
              exact .ambiguous (contested_of_elsewhere deleted behind position introduces elsewhere)
          · next alone =>
              obtain ⟨_, merges⟩ := merged_with_eq_some_iff.mp (Prod.mk.inj stepped).2.symm
              rw [if_neg alone]
              exact .merged merges position

/-- An operation from a place on stands there or behind it. -/
theorem from_place_iff (here : script[index]? = some operation)
    (property : Nat → Operation → Prop) :
    (∃ place other, index ≤ place ∧ script[place]? = some other ∧ property place other) ↔
      property index operation ∨
        ∃ place other, index + 1 ≤ place ∧ script[place]? = some other ∧ property place other := by
  constructor
  · rintro ⟨place, other, reached, there, holds⟩
    rcases Nat.eq_or_lt_of_le reached with rfl | later
    · cases here.symm.trans there
      exact .inl holds
    · exact .inr ⟨place, other, later, there, holds⟩
  · rintro (holds | ⟨place, other, later, there, holds⟩)
    · exact ⟨index, operation, Nat.le_refl index, here, holds⟩
    · exact ⟨place, other, Nat.le_of_lt later, there, holds⟩

/-- The steps of the pass, without what it remembers: by induction on the operations that it
still has to look at. -/
theorem mem_adjust_from_iff (taken : List Nat) (later : Script) (rest : later = script.drop index)
    (used : script.UsedBefore insertOnly index taken) (step : AdjustmentStep) :
    step ∈ adjustFrom insertOnly script taken index later ↔
      ∃ place operation, index ≤ place ∧ script[place]? = some operation ∧
        ¬script.PartnerBefore insertOnly place place ∧
        script.Settles insertOnly place operation step := by
  induction later generalizing index taken with
  | nil =>
      constructor
      · nofun
      · rintro ⟨place, operation, reached, here, _⟩
        have short := List.drop_eq_nil_iff.mp rest.symm
        have inside := (List.getElem?_eq_some_iff.mp here).1
        omega
  | cons operation later induction =>
      have here : script[index]? = some operation := by
        have head := congrArg (·[0]?) rest
        simpa using head.symm
      have behind : later = script.drop (index + 1) := by
        have tail := congrArg List.tail rest
        simpa using tail
      rw [from_place_iff here, adjustFrom]
      by_cases member : index ∈ taken
      · have usedNext := used_before_succ used
        rw [alone_of_used used member] at usedNext
        rw [if_pos (by simpa using member), induction taken behind usedNext]
        exact (or_iff_right fun given => given.1 ((used index).mp member)).symm
      · have settles := adjust_step_settles here used member
        obtain ⟨made, stepEq, _⟩ := adjust_step_spec here used member
        rw [stepEq] at settles
        rw [if_neg (by simpa using member), behind, stepEq, ← behind]
        simp only [List.mem_cons]
        rw [induction _ behind (used_before_succ used)]
        refine or_congr_left ⟨?_, ?_⟩
        · rintro rfl
          exact ⟨fun partner => member ((used index).mpr partner), settles⟩
        · rintro ⟨_, also⟩
          exact settles_unique also settles

theorem mem_adjustment_iff (step : AdjustmentStep) :
    step ∈ adjustment insertOnly script ↔
      ∃ place operation, script[place]? = some operation ∧
        ¬script.PartnerBefore insertOnly place place ∧
        script.Settles insertOnly place operation step := by
  have steps := @mem_adjust_from_iff insertOnly script 0 [] script rfl
    (by simp [UsedBefore, PartnerBefore]) step
  rw [adjustment, steps]
  simp only [Nat.zero_le, true_and]

/-! ### What is left of a text -/

/-- The place in the merged script of what an operation becomes. -/
def place (insertOnly : Bool) (script : Script) (index : Nat) : Nat :=
  (script.mergedUpTo insertOnly index).length

theorem merged_up_to_mono {first second : Nat} (before : first ≤ second) :
    script.mergedUpTo insertOnly first <+: script.mergedUpTo insertOnly second :=
  (List.take_prefix_take_left before).filterMap _

theorem merged_up_to_of_outcome {left : Operation} (here : script[index]? = some operation)
    (outcome : script.outcomeAt insertOnly operation index = some left) :
    script.mergedUpTo insertOnly (index + 1) = script.mergedUpTo insertOnly index ++ [left] := by
  rw [merged_up_to_succ here, outcome]
  rfl

theorem merged_at_place {left : Operation} (here : script[index]? = some operation)
    (outcome : script.outcomeAt insertOnly operation index = some left) :
    (script.merged insertOnly)[script.place insertOnly index]? = some left := by
  have inside : index + 1 ≤ script.length := (List.getElem?_eq_some_iff.mp here).1
  have front := @merged_up_to_mono insertOnly script _ _ inside
  rw [merged_up_to_length, merged_up_to_of_outcome here outcome] at front
  obtain ⟨rest, whole⟩ := front
  rw [← whole, List.append_assoc, place, List.getElem?_append_right (Nat.le_refl _)]
  simp

theorem place_lt_of_outcome {left : Operation} (here : script[index]? = some operation)
    (outcome : script.outcomeAt insertOnly operation index = some left) (later : index < second) :
    script.place insertOnly index < script.place insertOnly second := by
  have front := (@merged_up_to_mono insertOnly script _ _ later).length_le
  rw [merged_up_to_of_outcome here outcome, List.length_append, List.length_singleton] at front
  exact front

/-- Everything in the merged script stems from an operation. -/
theorem origin_of_merged {left : Operation}
    (there : (script.merged insertOnly)[second]? = some left) :
    ∃ index operation, script[index]? = some operation ∧
      script.outcomeAt insertOnly operation index = some left ∧
      script.place insertOnly index = second := by
  rw [← merged_up_to_length] at there
  generalize script.length = count at there
  induction count with
  | zero => simp [mergedUpTo] at there
  | succ count induction =>
      cases here : script[count]? with
      | none =>
          have short : script.length ≤ count := List.getElem?_eq_none_iff.mp here
          have same : script.mergedUpTo insertOnly (count + 1) =
              script.mergedUpTo insertOnly count := by
            rw [mergedUpTo, mergedUpTo, List.take_of_length_le (by simp; omega),
              List.take_of_length_le (by simpa using short)]
          rw [same] at there
          exact induction there
      | some operation =>
          rw [merged_up_to_succ here, List.getElem?_append] at there
          split at there
          · exact induction there
          · next behind =>
              cases outcome : script.outcomeAt insertOnly operation count with
              | none => simp [outcome] at there
              | some becomes =>
                  rw [outcome] at there
                  have last : second - (script.mergedUpTo insertOnly count).length = 0 := by
                    have inside := (List.getElem?_eq_some_iff.mp there).1
                    simpa using inside
                  rw [last] at there
                  cases there
                  refine ⟨count, operation, here, outcome, ?_⟩
                  rw [place]
                  omega

/-- An operation that the merged script has as it is. -/
structure Stays (insertOnly : Bool) (script : Script) (index : Nat) (operation : Operation) :
    Prop where
  here : script[index]? = some operation
  alone : script.mergedWith? insertOnly index = none
  free : ¬script.PartnerBefore insertOnly index index

theorem Stays.outcome (stays : script.Stays insertOnly index operation) :
    script.outcomeAt insertOnly operation index = some operation := by
  rw [outcomeAt, stays.alone]
  exact if_neg stays.free

theorem Stays.at_place (stays : script.Stays insertOnly index operation) :
    (script.merged insertOnly)[script.place insertOnly index]? = some operation :=
  merged_at_place stays.here stays.outcome

theorem Stays.place_lt (stays : script.Stays insertOnly index operation) (later : index < second) :
    script.place insertOnly index < script.place insertOnly second :=
  place_lt_of_outcome stays.here stays.outcome later

theorem stays_or_moves {left : Operation} (here : script[index]? = some operation)
    (outcome : script.outcomeAt insertOnly operation index = some left) :
    (∃ target, left.action = .move .before target) ∨ script.Stays insertOnly index left := by
  rw [outcomeAt] at outcome
  split at outcome
  · obtain ⟨introduction, _, rfl⟩ := Option.map_eq_some_iff.mp outcome
    exact .inl ⟨_, rfl⟩
  · next alone =>
      split at outcome
      · cases outcome
      · next free =>
          cases outcome
          exact .inr ⟨here, alone, free⟩

/-- A deletion of the merged script is a deletion that was left alone. -/
theorem deletion_stays (deleted : (script.merged insertOnly).deletedAt? second = some text) :
    ∃ index operation, script.Stays insertOnly index operation ∧
      script.deletedAt? index = some text ∧ script.place insertOnly index = second := by
  obtain ⟨left, there, deletes⟩ := Option.bind_eq_some_iff.mp deleted
  obtain ⟨index, operation, here, outcome, place⟩ := origin_of_merged there
  rcases stays_or_moves here outcome with ⟨_, moves⟩ | stays
  · simp [Operation.deletes?, moves] at deletes
  · exact ⟨index, left, stays, by simp [deletedAt?, stays.here, deletes], place⟩

/-- What introduces a text in the merged script is no partner. -/
theorem introduction_stays
    (introduced : (script.merged insertOnly).IntroducedAt insertOnly text second) :
    ∃ index operation, script.Stays insertOnly index operation ∧
      script.IntroducedAt insertOnly text index ∧ script.place insertOnly index = second := by
  obtain ⟨left, there, candidate, own⟩ := introduced
  obtain ⟨index, operation, here, outcome, place⟩ := origin_of_merged there
  rcases stays_or_moves here outcome with ⟨_, moves⟩ | stays
  · simp [Operation.introduced, moves] at own
  · exact ⟨index, left, stays, ⟨left, stays.here, candidate, own⟩, place⟩

/-- Where several operations introduce a text, all of them stay. -/
theorem rival_stays {first : Nat} (introduced : script.IntroducedAt insertOnly text first)
    (rival : script.IntroducedAt insertOnly text second) (apart : first ≠ second) :
    (script.merged insertOnly).IntroducedAt insertOnly text (script.place insertOnly first) ∧
      script.place insertOnly first ≠ script.place insertOnly second := by
  have stays {place other : Nat} (introduced : script.IntroducedAt insertOnly text place)
      (rival : script.IntroducedAt insertOnly text other) (apart : place ≠ other) :
      ∃ operation, script.Stays insertOnly place operation ∧
        operation.isCandidate insertOnly = true ∧ operation.introduced = some text := by
    obtain ⟨operation, here, introduces⟩ := introduced
    have alone := alone_of_introduced ⟨operation, here, introduces⟩
    exact ⟨operation, ⟨here, alone, not_partner_of_rival ⟨operation, here, introduces⟩ rival
      apart place⟩, introduces⟩
  obtain ⟨operation, here, introduces⟩ := stays introduced rival apart
  obtain ⟨again, there, _⟩ := stays rival introduced apart.symm
  refine ⟨⟨operation, here.at_place, introduces⟩, ?_⟩
  rcases Nat.lt_or_gt_of_ne apart with before | behind
  · exact Nat.ne_of_lt (here.place_lt before)
  · exact Nat.ne_of_gt (there.place_lt behind)

/-- A deletion of the merged script with an introduction of its text behind it was contested
in the script, and there is another introduction of the text left. -/
theorem pair_was_contested {first : Nat}
    (deleted : (script.merged insertOnly).deletedAt? first = some text)
    (introduced : (script.merged insertOnly).IntroducedAt insertOnly text second)
    (behind : first < second) :
    (∃ index operation, script.Stays insertOnly index operation ∧
      script.place insertOnly index = first ∧ script.Contested insertOnly text index) ∧
      ∃ other, other ≠ second ∧
        (script.merged insertOnly).IntroducedAt insertOnly text other := by
  obtain ⟨index, operation, stays, deletes, rfl⟩ := deletion_stays deleted
  obtain ⟨source, introduction, partner, introduces, rfl⟩ := introduction_stays introduced
  have before : index < source := by
    by_contra reversed
    rcases Nat.eq_or_lt_of_le (Nat.le_of_not_lt reversed) with rfl | later
    · exact Nat.lt_irrefl _ behind
    · exact Nat.lt_asymm behind (partner.place_lt later)
  have rivals : ∃ other, other ≠ source ∧ script.IntroducedAt insertOnly text other := by
    by_contra none
    have unique (other : Nat) : script.IntroducedAt insertOnly text other ↔ other = source := by
      constructor
      · intro also
        by_contra apart
        exact none ⟨other, apart, also⟩
      · rintro rfl
        exact introduces
    have unused : ¬script.PartnerBefore insertOnly index source := by
      rintro ⟨earlier, ahead, used⟩
      exact partner.free ⟨earlier, by omega, used⟩
    have merges := merges_of_free deletes unique before unused
    cases stays.alone.symm.trans (merged_with_eq_some_iff.mpr ⟨text, merges⟩)
  obtain ⟨other, apart, also⟩ := rivals
  obtain ⟨left, elsewhere⟩ := rival_stays also introduces apart
  exact ⟨⟨index, operation, stays, rfl, deletes, source, other, before, apart, introduces, also⟩,
    _, elsewhere, left⟩

theorem no_pair_left (text : Text) (first second : Nat) :
    ¬(script.merged insertOnly).Merges insertOnly text first second := by
  intro merges
  have introduced := (merges.introduced second).mpr rfl
  obtain ⟨_, other, apart, also⟩ := pair_was_contested merges.deleted introduced merges.behind
  exact apart ((merges.introduced other).mp also)

theorem merged_twice (insertOnly : Bool) (script : Script) :
    (script.merged insertOnly).merged insertOnly = script.merged insertOnly :=
  merged_of_no_pair no_pair_left

/-! ### What a second pass has to name -/

theorem writable_of_log_steps {steps : Adjustment} (logged : (logSteps steps).outcome = .ok ()) :
    ∀ step ∈ steps, step.writable = true := by
  induction steps with
  | nil => exact List.forall_mem_nil _
  | cons step rest induction =>
      rw [logSteps] at logged
      split at logged
      · next writable =>
          rw [Traced.outcome_bind] at logged
          exact List.forall_mem_cons.mpr ⟨writable, induction logged⟩
      · cases logged

theorem adjust_eq_ok_iff {result : Script} :
    (script.adjust insertOnly).outcome = .ok result ↔
      (∀ step ∈ adjustment insertOnly script, step.writable = true) ∧
        script.merged insertOnly = result := by
  rw [adjust, Traced.outcome_bind]
  constructor
  · intro adjusted
    cases logged : (logSteps (adjustment insertOnly script)).outcome with
    | error failure =>
        rw [logged] at adjusted
        cases adjusted
    | ok nothing =>
        rw [logged] at adjusted
        exact ⟨writable_of_log_steps logged,
          (adjustment_script_eq insertOnly script).symm.trans (Except.ok.inj adjusted)⟩
  · rintro ⟨writable, rfl⟩
    rw [log_steps_ok writable]
    exact congrArg Except.ok (adjustment_script_eq insertOnly script)

/-- A second pass merges nothing, and the deletions that it names as contested the first one
has named. -/
theorem second_pass_step {step : AdjustmentStep}
    (member : step ∈ adjustment insertOnly (script.merged insertOnly)) :
    (∃ operation, step = .kept operation) ∨ step ∈ adjustment insertOnly script := by
  obtain ⟨place, operation, here, _, settles⟩ := mem_adjustment_iff step |>.mp member
  cases settles with
  | merged merges => exact absurd merges (no_pair_left _ _ _)
  | kept => exact .inl ⟨operation, rfl⟩
  | @ambiguous text contested =>
      obtain ⟨second, other, behind, apart, introduced, also⟩ := contested.introduced
      obtain ⟨⟨index, before, stays, rfl, was⟩, _⟩ :=
        pair_was_contested contested.deleted introduced behind
      cases here.symm.trans stays.at_place
      exact .inr ((mem_adjustment_iff _).mpr
        ⟨index, operation, stays.here, stays.free, .ambiguous was⟩)

/-- Where the pass returns a script, it returns this script again when it is given it. -/
theorem adjust_again {result : Script}
    (adjusted : (script.adjust insertOnly).outcome = .ok result) :
    (result.adjust insertOnly).outcome = .ok result := by
  obtain ⟨writable, rfl⟩ := adjust_eq_ok_iff.mp adjusted
  refine adjust_eq_ok_iff.mpr ⟨fun step member => ?_, merged_twice insertOnly script⟩
  rcases second_pass_step member with ⟨operation, rfl⟩ | named
  · rfl
  · exact writable step named

/-- A text deleted twice and inserted once, around one that is deleted once and brought in
twice. -/
def entangledScript : Script :=
  [.plain (some ['a']) ⟨1, 1⟩ .delete, .plain (some ['b']) ⟨1, 1⟩ .delete,
    .plain none ⟨2, 1⟩ (.insert .before ['b']), .plain (some ['a']) ⟨3, 1⟩ .delete,
    .plain none ⟨3, 1⟩ (.insert .after ['a']), .plain (some ['c']) ⟨4, 1⟩ (.replace ['b'])]

/-- The same with the first deletion and the insertion of its text merged. -/
def settledScript : Script :=
  .plain (some ['a']) ⟨1, 1⟩ (.move .before 4) :: (entangledScript.eraseIdx 4).tail

theorem entangled_script_settled :
    (entangledScript.adjust false).outcome = .ok settledScript ∧
      (settledScript.adjust false).outcome = .ok settledScript := by
  have adjusted : (entangledScript.adjust false).outcome = .ok settledScript := by
    rfl
  exact ⟨adjusted, adjust_again adjusted⟩

end Script

end EditScript
