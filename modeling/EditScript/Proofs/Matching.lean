import EditScript.Script.Adjust
import Mathlib.Data.Nat.Find

/-!
# Which deletions are merged

Merging is a pass that remembers the operations it has used up. Here it is
described without any order of steps: a deletion is merged exactly if its text is
introduced once in the whole script, behind it, and it is the foremost deletion of
this text. The invariant of the pass is that the used operations are the partners
of the deletions already passed.
-/

namespace EditScript

set_option autoImplicit false

/-- Insertions may be merged with deletions, and replacements may unless only
insertions are asked for. -/
def Operation.isCandidate (insertOnly : Bool) (operation : Operation) : Bool :=
  match operation.action with
  | .insert _ _ => true
  | .replace _ => !insertOnly
  | _ => false

theorem introduces_iff (insertOnly : Bool) (text : Text) (operation : Operation) :
    operation.introduces insertOnly text = true ↔
      operation.isCandidate insertOnly = true ∧ operation.introduced = some text := by
  unfold Operation.introduces Operation.isCandidate Operation.introduced
  cases operation.action <;> simp

theorem not_candidate_of_deletes {operation : Operation} {text : Text}
    (deletes : operation.deletes? = some text) (insertOnly : Bool) :
    operation.isCandidate insertOnly = false := by
  unfold Operation.deletes? at deletes
  unfold Operation.isCandidate
  cases action : operation.action <;> simp_all

namespace Script

/-- The text that a script says to delete at an index. -/
def deletedAt? (script : Script) (index : Nat) : Option Text :=
  script[index]?.bind Operation.deletes?

def IntroducedAt (insertOnly : Bool) (script : Script) (text : Text) (index : Nat) : Prop :=
  ∃ operation ∈ script[index]?,
    operation.isCandidate insertOnly = true ∧ operation.introduced = some text

instance (insertOnly : Bool) (script : Script) (text : Text) (index : Nat) :
    Decidable (script.IntroducedAt insertOnly text index) :=
  inferInstanceAs (Decidable (∃ _ ∈ _, _ ∧ _))

/-- The deletion at the first index belongs together with the operation at the
second one, which alone introduces its text. -/
structure Merges (insertOnly : Bool) (script : Script) (text : Text) (first second : Nat) :
    Prop where
  deleted : script.deletedAt? first = some text
  introduced : ∀ index, script.IntroducedAt insertOnly text index ↔ index = second
  behind : first < second
  foremost : ∀ earlier, earlier < first → script.deletedAt? earlier ≠ some text

theorem introduced_at_lt {insertOnly : Bool} {script : Script} {text : Text} {index : Nat}
    (introduced : script.IntroducedAt insertOnly text index) : index < script.length := by
  obtain ⟨operation, found, _⟩ := introduced
  exact (List.getElem?_eq_some_iff.mp found).1

theorem merges_iff_bounded (insertOnly : Bool) (script : Script) (text : Text)
    (first second : Nat) :
    script.Merges insertOnly text first second ↔
      script.deletedAt? first = some text ∧ script.IntroducedAt insertOnly text second ∧
        (∀ index, index < script.length →
          script.IntroducedAt insertOnly text index → index = second) ∧
        first < second ∧ ∀ earlier, earlier < first → script.deletedAt? earlier ≠ some text := by
  constructor
  · intro merges
    refine ⟨merges.deleted, (merges.introduced second).mpr rfl, ?_, merges.behind, merges.foremost⟩
    intro index _ introduced
    exact (merges.introduced index).mp introduced
  · intro given
    rcases given with ⟨deleted, introduced, unique, behind, foremost⟩
    refine ⟨deleted, ?_, behind, foremost⟩
    intro index
    constructor
    · intro other
      exact unique index (introduced_at_lt other) other
    · intro same
      subst same
      exact introduced

instance (insertOnly : Bool) (script : Script) (text : Text) (first second : Nat) :
    Decidable (script.Merges insertOnly text first second) :=
  decidable_of_iff _ (merges_iff_bounded insertOnly script text first second).symm

/-- The index of the operation that a deletion is merged with. -/
def mergedWith? (insertOnly : Bool) (script : Script) (index : Nat) : Option Nat :=
  (script.deletedAt? index).bind fun text =>
    (List.range script.length).find? fun other =>
      decide (script.Merges insertOnly text index other)

/-- An operation is the partner of a deletion in front of an index. -/
def PartnerBefore (insertOnly : Bool) (script : Script) (index other : Nat) : Prop :=
  ∃ first, first < index ∧ script.mergedWith? insertOnly first = some other

instance (insertOnly : Bool) (script : Script) (index other : Nat) :
    Decidable (script.PartnerBefore insertOnly index other) :=
  inferInstanceAs (Decidable (∃ first, first < index ∧ _))

/-- What stands in the merged script for the operation at an index. -/
def outcomeAt (insertOnly : Bool) (script : Script) (operation : Operation) (index : Nat) :
    Option Operation :=
  match script.mergedWith? insertOnly index with
  | some other => script[other]?.map fun introduction =>
      { operation with
        note := operation.note.or introduction.note
        tags := if operation.tags = [] then introduction.tags else operation.tags
        action := .move .before (introduction.span.start + 1) }
  | none =>
      if script.PartnerBefore insertOnly index index then none else some operation

/-- The script with every deletion that belongs together with another operation
turned into a move, and these other operations left out. -/
def merged (insertOnly : Bool) (script : Script) : Script :=
  script.zipIdx.filterMap fun (operation, index) => script.outcomeAt insertOnly operation index

variable {insertOnly : Bool} {script : Script} {text other : Text} {first second index : Nat}

theorem merged_with_eq_some_iff :
    script.mergedWith? insertOnly first = some second ↔
      ∃ text, script.Merges insertOnly text first second := by
  unfold mergedWith?
  rw [Option.bind_eq_some_iff]
  constructor
  · intro given
    rcases given with ⟨text, _, found⟩
    exact ⟨text, by simpa using List.find?_some found⟩
  · intro given
    rcases given with ⟨text, merges⟩
    refine ⟨text, merges.deleted, ?_⟩
    rw [List.find?_range_eq_some]
    have inside := introduced_at_lt ((merges.introduced second).mpr rfl)
    refine ⟨by simpa using merges, by simpa using inside, ?_⟩
    intro earlier before
    simp only [Bool.not_eq_true', decide_eq_false_iff_not]
    intro also
    have same := (also.introduced second).mp ((merges.introduced second).mpr rfl)
    omega

/-- Two deletions never share a partner: it introduces one text only, and only the
foremost deletion of this text is merged. -/
theorem merges_first_unique {earlier : Nat}
    (merges : script.Merges insertOnly text first second)
    (also : script.Merges insertOnly other earlier second) : earlier = first := by
  obtain ⟨operation, found, _, introduced⟩ := (merges.introduced second).mpr rfl
  obtain ⟨again, foundAgain, _, introducedAgain⟩ := (also.introduced second).mpr rfl
  obtain rfl := Option.some.inj (found.symm.trans foundAgain)
  obtain rfl := Option.some.inj (introduced.symm.trans introducedAgain)
  rcases Nat.lt_trichotomy earlier first with before | same | behind
  · exact absurd also.deleted (merges.foremost earlier before)
  · exact same
  · exact absurd merges.deleted (also.foremost first behind)

theorem partner_some {taken : List Nat} {later : Script} {found : Nat} {operation : Operation}
    (search : partner? insertOnly text taken index later = some (found, operation)) :
    index ≤ found ∧ found ∉ taken ∧ later[found - index]? = some operation ∧
      operation.introduces insertOnly text = true := by
  induction later generalizing index with
  | nil => simp [partner?] at search
  | cons head rest induction =>
      rw [partner?] at search
      split at search
      · next here =>
          obtain ⟨rfl, rfl⟩ := Prod.mk.inj (Option.some.inj search)
          simpa using here
      · obtain ⟨behind, free, position, introduces⟩ := induction search
        have shift : found - index = found - (index + 1) + 1 := by omega
        refine ⟨by omega, free, ?_, introduces⟩
        rw [shift, List.getElem?_cons_succ]
        exact position

theorem partner_none {taken : List Nat} {later : Script}
    (search : partner? insertOnly text taken index later = none) (offset : Nat)
    (operation : Operation) (position : later[offset]? = some operation)
    (introduces : operation.introduces insertOnly text = true) : index + offset ∈ taken := by
  induction later generalizing index offset with
  | nil => simp at position
  | cons head rest induction =>
      rw [partner?] at search
      split at search
      · simp at search
      · next busy =>
          cases offset with
          | zero =>
              obtain rfl := Option.some.inj position
              simpa [introduces] using busy
          | succ offset =>
              have later := induction search offset position
              rwa [Nat.add_assoc, Nat.add_comm 1] at later

theorem introduced_elsewhere_iff {number : Nat} (script : Script) :
    introducedElsewhere insertOnly text index number script = true ↔
      ∃ offset operation, script[offset]? = some operation ∧ number + offset ≠ index ∧
        operation.introduces insertOnly text = true := by
  induction script generalizing number with
  | nil => simp [introducedElsewhere]
  | cons head rest induction =>
      rw [introducedElsewhere, Bool.or_eq_true, induction]
      constructor
      · intro given
        rcases given with (here | ⟨offset, operation, position, away, introduces⟩)
        · exact ⟨0, head, rfl, by simpa using (Bool.and_eq_true_iff.mp here).1,
            (Bool.and_eq_true_iff.mp here).2⟩
        · exact ⟨offset + 1, operation, position, by omega, introduces⟩
      · intro given
        rcases given with ⟨offset, operation, position, away, introduces⟩
        cases offset with
        | zero =>
            obtain rfl := Option.some.inj position
            exact Or.inl (by simpa [introduces] using away)
        | succ offset =>
            exact Or.inr ⟨offset, operation, position, by omega, introduces⟩

theorem introduced_at_iff :
    script.IntroducedAt insertOnly text index ↔
      ∃ operation, script[index]? = some operation ∧
        operation.introduces insertOnly text = true := by
  simp only [IntroducedAt, introduces_iff, Option.mem_def]

/-- The deletion at an index is the foremost one of its text as soon as the only
operation that introduces the text has not been used up by those before it. -/
theorem merges_of_free {found : Nat}
    (deleted : script.deletedAt? index = some text)
    (introduced : ∀ other, script.IntroducedAt insertOnly text other ↔ other = found)
    (behind : index < found)
    (free : ¬script.PartnerBefore insertOnly index found) :
    script.Merges insertOnly text index found := by
  refine ⟨deleted, introduced, behind, ?_⟩
  intro earlier before also
  have someone : ∃ first, script.deletedAt? first = some text := ⟨earlier, also⟩
  have foremost : Nat.find someone ≤ earlier := Nat.find_min' someone also
  apply free
  refine ⟨Nat.find someone, by omega, merged_with_eq_some_iff.mpr ⟨text, ?_⟩⟩
  exact ⟨Nat.find_spec someone, introduced, by omega, fun _ => Nat.find_min someone⟩

/-- What the pass has used up when it reaches an index. -/
def UsedBefore (insertOnly : Bool) (script : Script) (index : Nat) (taken : List Nat) : Prop :=
  ∀ other, other ∈ taken ↔ script.PartnerBefore insertOnly index other

theorem alone_of_no_candidate {taken : List Nat}
    (used : script.UsedBefore insertOnly index taken)
    (deleted : script.deletedAt? index = some text)
    (search : partner? insertOnly text taken (index + 1) (script.drop (index + 1)) = none) :
    script.mergedWith? insertOnly index = none := by
  rw [Option.eq_none_iff_forall_ne_some]
  intro other partner
  obtain ⟨_, merges⟩ := merged_with_eq_some_iff.mp partner
  obtain rfl := Option.some.inj (deleted.symm.trans merges.deleted)
  obtain ⟨introduction, position, introduces⟩ :=
    introduced_at_iff.mp ((merges.introduced other).mpr rfl)
  have shift : index + 1 + (other - (index + 1)) = other := by
    have behind := merges.behind
    omega
  have busy := partner_none search (other - (index + 1)) introduction
    (by rw [List.getElem?_drop, shift]; exact position) introduces
  rw [shift, used] at busy
  obtain ⟨first, before, also⟩ := busy
  obtain ⟨_, alsoMerges⟩ := merged_with_eq_some_iff.mp also
  have same := merges_first_unique merges alsoMerges
  omega

theorem alone_of_introduced_elsewhere {found : Nat}
    (deleted : script.deletedAt? index = some text)
    (introduced : script.IntroducedAt insertOnly text found)
    (elsewhere : introducedElsewhere insertOnly text found 0 script = true) :
    script.mergedWith? insertOnly index = none := by
  rw [Option.eq_none_iff_forall_ne_some]
  intro other partner
  obtain ⟨_, merges⟩ := merged_with_eq_some_iff.mp partner
  obtain rfl := Option.some.inj (deleted.symm.trans merges.deleted)
  obtain ⟨offset, another, there, away, also⟩ := (introduced_elsewhere_iff script).mp elsewhere
  have first := (merges.introduced found).mp introduced
  have second := (merges.introduced offset).mp (introduced_at_iff.mpr ⟨another, there, also⟩)
  omega

theorem introduced_once {found : Nat}
    (introduced : script.IntroducedAt insertOnly text found)
    (elsewhere : introducedElsewhere insertOnly text found 0 script = false) (other : Nat) :
    script.IntroducedAt insertOnly text other ↔ other = found := by
  constructor
  · intro also
    obtain ⟨operation, there, introduces⟩ := introduced_at_iff.mp also
    by_contra away
    have repeated : introducedElsewhere insertOnly text found 0 script = true :=
      (introduced_elsewhere_iff script).mpr ⟨other, operation, there, by omega, introduces⟩
    simp [elsewhere] at repeated
  · intro same
    subst same
    exact introduced

/-- One step: an operation that has not been used up finds the partner that it has
in the whole script, and it is replaced accordingly. -/
theorem adjust_step_spec {taken : List Nat} {operation : Operation}
    (here : script[index]? = some operation) (used : script.UsedBefore insertOnly index taken)
    (free : index ∉ taken) :
    ∃ step, adjustStep insertOnly script taken (index + 1) operation (script.drop (index + 1)) =
        (step, script.mergedWith? insertOnly index) ∧
      script.outcomeAt insertOnly operation index = some step.operation := by
  have kept : script.mergedWith? insertOnly index = none →
      script.outcomeAt insertOnly operation index = some operation := by
    intro alone
    rw [outcomeAt, alone]
    exact if_neg fun taken => free ((used index).mpr taken)
  cases deletes : operation.deletes? with
  | none =>
      have alone : script.mergedWith? insertOnly index = none := by
        simp [mergedWith?, deletedAt?, here, deletes]
      refine ⟨.kept operation, ?_, kept alone⟩
      simp [adjustStep, deletes, alone]
  | some text =>
      have deleted : script.deletedAt? index = some text := by
        simp [deletedAt?, here, deletes]
      cases search : partner? insertOnly text taken (index + 1) (script.drop (index + 1)) with
      | none =>
          have alone := alone_of_no_candidate used deleted search
          refine ⟨.kept operation, ?_, kept alone⟩
          simp [adjustStep, deletes, search, alone]
      | some candidate =>
          obtain ⟨found, introduction⟩ := candidate
          obtain ⟨behind, unused, position, introduces⟩ := partner_some search
          rw [List.getElem?_drop, Nat.add_sub_cancel' behind] at position
          have introduced := introduced_at_iff.mpr ⟨introduction, position, introduces⟩
          cases elsewhere : introducedElsewhere insertOnly text found 0 script with
          | true =>
              have alone := alone_of_introduced_elsewhere deleted introduced elsewhere
              refine ⟨.ambiguous operation text, ?_, kept alone⟩
              simp [adjustStep, deletes, search, elsewhere, alone]
          | false =>
              have merges := merges_of_free deleted (introduced_once introduced elsewhere)
                (by omega) fun taken => unused ((used found).mpr taken)
              have partner := merged_with_eq_some_iff.mpr ⟨text, merges⟩
              refine ⟨.merged operation introduction, ?_, ?_⟩
              · simp [adjustStep, deletes, search, elsewhere, partner]
              · simp [outcomeAt, partner, position, AdjustmentStep.operation, mergedMove]

theorem partner_before_succ_iff {other : Nat} :
    script.PartnerBefore insertOnly (index + 1) other ↔
      script.mergedWith? insertOnly index = some other ∨
        script.PartnerBefore insertOnly index other := by
  constructor
  · intro given
    rcases given with ⟨first, before, partner⟩
    by_cases same : first = index
    · exact Or.inl (same ▸ partner)
    · exact Or.inr ⟨first, by omega, partner⟩
  · intro given
    rcases given with (partner | ⟨first, before, partner⟩)
    · exact ⟨index, by omega, partner⟩
    · exact ⟨first, by omega, partner⟩

theorem used_before_succ {taken : List Nat} (used : script.UsedBefore insertOnly index taken) :
    script.UsedBefore insertOnly (index + 1)
      ((script.mergedWith? insertOnly index).toList ++ taken) := by
  intro other
  rw [List.mem_append, Option.mem_toList, used, partner_before_succ_iff]

/-- An operation that introduces a text is no deletion, so it has no partner. -/
theorem alone_of_introduced (introduced : script.IntroducedAt insertOnly text index) :
    script.mergedWith? insertOnly index = none := by
  obtain ⟨introduction, position, candidate, _⟩ := introduced
  have kept : introduction.deletes? = none := by
    rw [Option.eq_none_iff_forall_ne_some]
    intro text deletes
    simp [not_candidate_of_deletes deletes] at candidate
  rw [Option.mem_def] at position
  simp [mergedWith?, deletedAt?, position, kept]

theorem alone_of_used {taken : List Nat} (used : script.UsedBefore insertOnly index taken)
    (member : index ∈ taken) : script.mergedWith? insertOnly index = none := by
  obtain ⟨first, _, partner⟩ := (used index).mp member
  obtain ⟨text, merges⟩ := merged_with_eq_some_iff.mp partner
  exact alone_of_introduced ((merges.introduced index).mpr rfl)

/-- The whole pass, by induction on the operations that it still has to look at. -/
theorem adjust_from_eq (taken : List Nat) (later : Script) (rest : later = script.drop index)
    (used : script.UsedBefore insertOnly index taken) :
    (adjustFrom insertOnly script taken index later).map AdjustmentStep.operation =
      (later.zipIdx index).filterMap
        fun (operation, index) => script.outcomeAt insertOnly operation index := by
  induction later generalizing index taken with
  | nil => rfl
  | cons operation later induction =>
      have here : script[index]? = some operation := by
        have head := congrArg (·[0]?) rest
        simpa using head.symm
      have behind : later = script.drop (index + 1) := by
        have tail := congrArg List.tail rest
        simpa using tail
      rw [List.zipIdx_cons, adjustFrom]
      by_cases member : index ∈ taken
      · have alone := alone_of_used used member
        have outcome : script.outcomeAt insertOnly operation index = none := by
          rw [outcomeAt, alone]
          exact if_pos ((used index).mp member)
        rw [if_pos (by simpa using member)]
        simp only [List.filterMap_cons, outcome]
        have usedNext := used_before_succ used
        rw [alone] at usedNext
        exact induction taken behind usedNext
      · obtain ⟨step, stepEq, outcome⟩ := adjust_step_spec here used member
        rw [if_neg (by simpa using member), behind, stepEq, ← behind]
        simp only [List.filterMap_cons, outcome, List.map_cons]
        exact congrArg (step.operation :: ·) (induction _ behind (used_before_succ used))

theorem adjustment_script_eq (insertOnly : Bool) (script : Script) :
    (adjustment insertOnly script).script = script.merged insertOnly :=
  adjust_from_eq [] script rfl (by simp [UsedBefore, PartnerBefore])

/-- The operation that a deletion is merged with leaves the script. -/
theorem outcome_at_partner (merges : script.Merges insertOnly text first second)
    (operation : Operation) : script.outcomeAt insertOnly operation second = none := by
  rw [outcomeAt, alone_of_introduced ((merges.introduced second).mpr rfl)]
  exact if_pos ⟨first, merges.behind, merged_with_eq_some_iff.mpr ⟨text, merges⟩⟩

theorem length_merged_lt (merges : script.Merges insertOnly text first second) :
    (script.merged insertOnly).length < script.length := by
  obtain ⟨introduction, position, _⟩ := (merges.introduced second).mpr rfl
  have member : (introduction, second) ∈ script.zipIdx :=
    List.mk_mem_zipIdx_iff_getElem?.mpr position
  rw [merged, ← List.length_zipIdx (l := script), List.length_filterMap_lt_length_iff_exists]
  exact ⟨_, member, outcome_at_partner merges introduction⟩

/-- A script in which nothing belongs together stays as it is. -/
theorem merged_of_no_pair
    (apart : ∀ text first second, ¬script.Merges insertOnly text first second) :
    script.merged insertOnly = script := by
  have alone (index : Nat) : script.mergedWith? insertOnly index = none := by
    rw [Option.eq_none_iff_forall_ne_some]
    intro second partner
    obtain ⟨text, merges⟩ := merged_with_eq_some_iff.mp partner
    exact apart text index second merges
  have kept : (fun entry : Operation × Nat => script.outcomeAt insertOnly entry.1 entry.2) =
      some ∘ Prod.fst := by
    funext entry
    rw [outcomeAt, alone]
    apply if_neg
    rintro ⟨first, _, partner⟩
    rw [alone] at partner
    cases partner
  calc
    script.merged insertOnly = script.zipIdx.filterMap (some ∘ Prod.fst) :=
      congrArg (List.filterMap · script.zipIdx) kept
    _ = script.zipIdx.map Prod.fst := by rw [List.filterMap_eq_map]
    _ = script := List.zipIdx_map_fst 0 script

theorem log_steps_ok {steps : Adjustment} (writable : ∀ step ∈ steps, step.writable = true) :
    (logSteps steps).outcome = .ok () := by
  induction steps with
  | nil => rfl
  | cons step rest induction =>
      rw [logSteps, if_pos (writable step List.mem_cons_self), Traced.outcome_bind]
      exact induction fun later member => writable later (List.mem_cons_of_mem step member)

end Script

/-- A step takes its operations from the script. -/
def AdjustmentStep.StandsIn (script : Script) : AdjustmentStep → Prop
  | kept operation => operation ∈ script
  | ambiguous deletion _ => deletion ∈ script
  | merged deletion introduction =>
    deletion ∈ script ∧ deletion.deletes?.isSome ∧
      introduction ∈ script ∧ introduction.introduced.isSome

namespace Script

variable {insertOnly : Bool} {script : Script}

theorem adjust_step_stands {whole later : Script} {taken : List Nat} {index : Nat}
    {operation : Operation} (member : operation ∈ script)
    (behind : ∀ operation ∈ later, operation ∈ script) :
    (adjustStep insertOnly whole taken index operation later).1.StandsIn script := by
  unfold adjustStep
  split
  · exact member
  · next text deletes =>
      split
      · exact member
      · next found introduction search =>
          obtain ⟨_, _, position, introduces⟩ := partner_some search
          have introduced := ((introduces_iff insertOnly text introduction).mp introduces).2
          split
          · exact member
          · exact ⟨member, by simp [deletes], behind introduction (List.mem_of_getElem? position),
              by simp [introduced]⟩

theorem adjust_from_stands {whole later : Script} (taken : List Nat) (index : Nat)
    (inside : ∀ operation ∈ later, operation ∈ script) :
    ∀ step ∈ adjustFrom insertOnly whole taken index later, step.StandsIn script := by
  induction later generalizing taken index with
  | nil => simp [adjustFrom]
  | cons operation later induction =>
      have behind : ∀ operation ∈ later, operation ∈ script :=
        fun other member => inside other (List.mem_cons_of_mem operation member)
      intro step member
      rw [adjustFrom] at member
      split at member
      · exact induction taken (index + 1) behind step member
      · rcases List.mem_cons.mp member with rfl | member
        · exact adjust_step_stands (inside operation List.mem_cons_self) behind
        · exact induction _ (index + 1) behind step member

theorem merged_move_writable {deletion introduction : Operation}
    (deletes : deletion.deletes?.isSome) (writable : deletion.writable = true)
    (successor : Numeral.writable (introduction.span.start + 1) = true) :
    (mergedMove deletion introduction).writable = true := by
  cases action : deletion.action <;> simp [Operation.deletes?, action] at deletes
  simpa [Operation.writable, Operation.writtenNumbers, mergedMove, action, successor] using writable

/-- The pass returns, and what it returns has every foremost deletion of a text
that is introduced once and behind it merged with that introduction. -/
theorem adjust_merges_unique_pairs (insertOnly : Bool) (script : Script)
    (writable : ∀ operation ∈ script, operation.writable = true)
    (successors : ∀ operation ∈ script, operation.introduced.isSome →
      Numeral.writable (operation.span.start + 1) = true) :
    (script.adjust insertOnly).outcome = .ok (script.merged insertOnly) := by
  have logged : (logSteps (adjustment insertOnly script)).outcome = .ok () := by
    apply log_steps_ok
    intro step member
    have stands := adjust_from_stands [] 0 (fun _ inside => inside) step member
    cases step with
    | kept operation => rfl
    | ambiguous deletion text => exact writable deletion stands
    | merged deletion introduction =>
        obtain ⟨deletionIn, deletes, introductionIn, introduced⟩ := stands
        have moveWritable := merged_move_writable deletes (writable deletion deletionIn)
          (successors introduction introductionIn introduced)
        simp [AdjustmentStep.writable, writable deletion deletionIn,
          writable introduction introductionIn, moveWritable]
  rw [adjust, Traced.outcome_bind, logged]
  exact congrArg Except.ok (adjustment_script_eq insertOnly script)

/-- Two deletions compete for one insertion, and two insertions for one deletion. -/
def contestedScript : Script :=
  [.plain (some ['a']) ⟨1, 1⟩ .delete, .plain (some ['a']) ⟨2, 1⟩ .delete,
    .plain none ⟨3, 1⟩ (.replace ['a']),
    { described := none, span := ⟨4, 1⟩, note := some ['n'], tags := [['t']],
      action := .insert .before ['a'] },
    .plain (some ['b']) ⟨5, 1⟩ .delete, .plain none ⟨6, 1⟩ (.insert .after ['b']),
    .plain none ⟨7, 1⟩ (.insert .after ['b'])]

theorem contested_script_adjusted :
    (∀ operation ∈ contestedScript, operation.writable = true) ∧
      (∀ operation ∈ contestedScript, operation.introduced.isSome →
        Numeral.writable (operation.span.start + 1) = true) ∧
      (contestedScript.adjust true).outcome =
        .ok ({ described := some ['a'], span := ⟨1, 1⟩, note := some ['n'], tags := [['t']],
               action := .move .before 5 } :: (contestedScript.eraseIdx 3).tail) := by
  refine ⟨by decide, by decide, ?_⟩
  rw [adjust_merges_unique_pairs true contestedScript (by decide) (by decide)]
  apply congrArg Except.ok
  decide

end Script

end EditScript
