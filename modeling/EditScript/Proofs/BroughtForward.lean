import EditScript.Proofs.Relocation
import Mathlib.Data.List.Induction

/-!
# Insertions brought forward

The insertion of a merged pair can be executed right behind its deletion, long before its
turn. Its position is then counted without what the operations between the two still have to
do. A derived script whose merged insertions are all brought forward in this way is executed
without a failure and rebuilds its target; on the way it has the texts of the script as it
was, with the inserted ones there early. These are the texts that the moves of the merged
script have to reach.
-/

namespace EditScript

set_option autoImplicit false

namespace Script

/-- The insertion of a merged pair, as it is counted when its deletion has just been
executed. -/
def broughtForward (insertOnly : Bool) (script : Script) (first second : Nat)
    (introduction : Operation) : Operation :=
  let start := introduction.span.start - script.growthBetween insertOnly first second
  { introduction with span := { introduction.span with start := start.toNat } }

/-- What stands for the operation at an index when the merged insertions are brought forward:
a deletion has its insertion behind it, and nothing is left where that insertion was. -/
def forwardedAt (insertOnly : Bool) (script : Script) (operation : Operation) (index : Nat) :
    Script :=
  match script.mergedWith? insertOnly index with
  | some other =>
    operation :: (script[other]?.map (script.broughtForward insertOnly index other)).toList
  | none => if script.PartnerBefore insertOnly index index then [] else [operation]

/-- The part that stems from in front of an index, with the merged insertions brought
forward. -/
def forwardedUpTo (insertOnly : Bool) (script : Script) (index : Nat) : Script :=
  (script.zipIdx.take index).flatMap
    fun (operation, index) => script.forwardedAt insertOnly operation index

theorem forwarded_up_to_succ {insertOnly : Bool} {script : Script} {index : Nat}
    {operation : Operation} (here : script[index]? = some operation) :
    script.forwardedUpTo insertOnly (index + 1) =
      script.forwardedUpTo insertOnly index ++ script.forwardedAt insertOnly operation index := by
  rw [forwardedUpTo, forwardedUpTo, List.take_add_one, List.flatMap_append, List.getElem?_zipIdx,
    here]
  simp

/-- The text that a script is to reach when the columns in front of a place are done: these
stand as they do in the target, and behind them some inserted texts are shown early. -/
def waypoint (script : Script) (done rest : Alignment) : Text :=
  done.target ++ Alignment.filled (script.shownBefore true done.weight) done.weight rest

variable {script : Script} {done rest before after : Alignment} {text : Text} {second : Nat}
  {introduction : Operation}

theorem waypoint_at_start (columns : Alignment) : script.waypoint [] columns = columns.source :=
  Alignment.filled_of_hidden
    (fun _ => decide_eq_false fun ⟨_, before, _⟩ => Nat.not_lt_zero _ before) 0 columns

theorem waypoint_at_end (columns : Alignment) : script.waypoint columns [] = columns.target :=
  List.append_nil _

/-- A column that is done stands in front, as it is in the target. -/
theorem waypoint_behind (done rest : Alignment) (edit : Edit) :
    script.waypoint (done ++ [edit]) rest = done.target ++ (edit.new ++
      Alignment.filled (script.shownBefore true (done.weight + edit.weight))
        (done.weight + edit.weight) rest) := by
  have target : Alignment.target (done ++ [edit]) = done.target ++ edit.new := by
    simp [Alignment.target]
  rw [waypoint, Alignment.weight_concat, target, List.append_assoc]

theorem waypoint_keep (done rest : Alignment) (char : Char) :
    script.waypoint (done ++ [.keep char]) rest = script.waypoint done (.keep char :: rest) :=
  waypoint_behind done rest (.keep char)

theorem operation_of_column {edit : Edit} {operation : Operation}
    (whole : script = Alignment.script true [] 0 (done ++ edit :: rest))
    (found : edit.operation? true rest.source.isEmpty done.target.length = some operation) :
    script[done.weight]? = some operation := by
  have size := Alignment.length_script true (Alignment.source (edit :: rest)) 0 done
  rw [whole, Alignment.script_append, Alignment.script, List.append_nil, List.append_nil,
    Nat.zero_add, List.getElem?_append_right (Nat.le_of_eq size), size, Nat.sub_self, found]
  rfl

/-- A column whose operation is merged with none behind it. If the operation has been merged
with one in front, its text is there already. -/
theorem unpaired_column_step {edit : Edit} {operation : Operation}
    (whole : script = Alignment.script true [] 0 (done ++ edit :: rest))
    (proper : Alignment.Proper (edit :: rest))
    (found : edit.operation? true rest.source.isEmpty done.target.length = some operation)
    (alone : script.mergedWith? true done.weight = none) :
    (apply (if script.PartnerBefore true done.weight done.weight then [] else [operation])
      (script.waypoint done (edit :: rest))).outcome = .ok (script.waypoint (done ++ [edit]) rest) := by
  have here := operation_of_column whole found
  have weight : edit.weight = 1 := by
    rw [← Alignment.operation_count true rest.source.isEmpty done.target.length edit, found]
    rfl
  rw [waypoint_behind, weight, shown_before_succ_of_alone alone, waypoint, Alignment.filled, weight]
  by_cases taken : script.PartnerBefore true done.weight done.weight
  · rcases insertion_of_partner taken here with ⟨side, text, action⟩
    rcases Alignment.add_of_insertion found action with ⟨rfl, _⟩
    have shown : script.shownBefore true done.weight done.weight = true := decide_eq_true taken
    rw [if_pos taken, shown]
    rfl
  · have hidden : script.shownBefore true done.weight done.weight = false := decide_eq_false taken
    have old : edit.early false = edit.old := by
      cases edit <;> rfl
    rw [if_neg taken, hidden, old, ← Option.toList_some, ← found]
    apply Alignment.apply_column
    · rintro rfl
      exact proper.1 rfl
    · rintro inserted rfl
      have longer := Alignment.source_length_le_filled (script.shownBefore true done.weight)
        (done.weight + 1) rest
      constructor
      · intro ended
        rw [proper.2.1 (List.isEmpty_iff.mp ended)]
        rfl
      · intro empty
        rw [empty] at longer
        exact List.isEmpty_iff.mpr (List.length_eq_zero_iff.mp (Nat.le_zero.mp longer))

/-! ### Around a merged pair -/

/-- What stands between the deleted text and the place where it is due. -/
def between (script : Script) (done before : Alignment) : Text :=
  Alignment.filled (script.shownBefore true done.weight) (done.weight + 1) before

/-- What stands behind the place where the deleted text is due. -/
def behind (script : Script) (done before after : Alignment) : Text :=
  Alignment.filled (script.shownBefore true done.weight) (done.weight + 1 + before.weight + 1) after

/-- The text in front of a merged deletion. Its insertion has not been carried out. -/
theorem waypoint_at_pair (merges : script.Merges true text done.weight second)
    (columns : script.MergedColumns done text before after second introduction) :
    script.waypoint done (.remove text :: (before ++ .add text :: after)) =
      done.target ++ (text ++
        (script.between done before ++ script.behind done before after)) := by
  have hidden := partner_not_shown merges
  rw [columns.reaches] at hidden
  rw [waypoint, Alignment.filled, Alignment.filled_append, Alignment.filled]
  simp only [Edit.early, Edit.old, Edit.weight, hidden]
  rfl

/-- The text behind a merged deletion, with its insertion carried out. -/
theorem waypoint_behind_pair (merges : script.Merges true text done.weight second)
    (columns : script.MergedColumns done text before after second introduction) :
    script.waypoint (done ++ [.remove text]) (before ++ .add text :: after) =
      done.target ++ (script.between done before ++
        (text ++ script.behind done before after)) := by
  have partner : script.mergedWith? true done.weight = some second :=
    merged_with_eq_some_iff.mpr ⟨text, merges⟩
  have reaches := columns.reaches
  have shown : script.shownBefore true (done.weight + 1) second = true :=
    decide_eq_true (partner_before_succ_iff.mpr (.inl partner))
  have front : Alignment.filled (script.shownBefore true (done.weight + 1)) (done.weight + 1)
      before = script.between done before :=
    Alignment.filled_congr fun later lower upper => shown_before_succ partner (by omega)
  have back : Alignment.filled (script.shownBefore true (done.weight + 1)) (second + 1) after =
      script.behind done before after := by
    rw [behind, ← reaches]
    exact Alignment.filled_congr fun later lower upper => shown_before_succ partner (by omega)
  have weight : (Edit.add text).weight = 1 := rfl
  have alone : (Edit.remove text).weight = 1 := rfl
  rw [waypoint_behind, alone, Alignment.filled_append, Alignment.filled, ← reaches, shown,
    front, weight, back]
  rfl

theorem behind_eq_nil_iff (tight : Alignment.Tight (.add text :: after)) :
    script.behind done before after = [] ↔ after.source = [] := by
  constructor
  · intro empty
    have longer := Alignment.source_length_le_filled (script.shownBefore true done.weight)
      (done.weight + 1 + before.weight + 1) after
    rw [← behind, empty] at longer
    exact List.length_eq_zero_iff.mp (Nat.le_zero.mp longer)
  · intro ended
    rw [tight.proper.2.1 ended]
    rfl

/-- The operations between a pair make up for what is short of the place in the target. -/
theorem MergedColumns.due (columns : script.MergedColumns done text before after second introduction) :
    (before.target.length : Int) - script.growthBetween true done.weight second =
      (script.between done before).length := by
  rw [columns.growth, between]
  omega

/-- The insertion of a pair stands at the end, or in front of the character that is next. -/
theorem MergedColumns.insertion_cases (tight : Alignment.Tight (.add text :: after))
    (columns : script.MergedColumns done text before after second introduction) :
    (introduction = insertion .after (done.target.length + before.target.length) text ∧
        script.behind done before after = []) ∨
      introduction = insertion .before (done.target.length + before.target.length + 1) text ∧
        script.behind done before after ≠ [] := by
  have operates := Option.some.inj columns.operates
  rw [Ne, behind_eq_nil_iff tight]
  by_cases ended : after.source = []
  · left
    rw [ended] at operates
    exact ⟨operates.symm, ended⟩
  · right
    have more : after.source.isEmpty = false := List.isEmpty_eq_false_iff.mpr ended
    rw [more] at operates
    exact ⟨operates.symm, ended⟩

theorem brought_forward_insertion (insertOnly : Bool) (first second : Nat) (side : Side)
    (start : Nat) (text : Text) :
    script.broughtForward insertOnly first second (insertion side start text) =
      insertion side (start - script.growthBetween insertOnly first second : Int).toNat text :=
  rfl

/-- The insertion that is brought forward is carried out where its text is due. -/
theorem forwarded_executes (tight : Alignment.Tight (.add text :: after))
    (columns : script.MergedColumns done text before after second introduction) :
    (script.broughtForward true done.weight second introduction).execute
        (done.target ++ (script.between done before ++ script.behind done before after)) =
      .ok (done.target ++ (script.between done before ++
        (text ++ script.behind done before after))) := by
  have due := columns.due
  apply execute_of_result
  rw [← List.append_assoc, ← List.append_assoc]
  rcases columns.insertion_cases tight with ⟨rfl, ended⟩ | ⟨rfl, more⟩
  · have place : (((done.target.length + before.target.length : Nat) : Int) -
        script.growthBetween true done.weight second).toNat =
        (done.target ++ script.between done before).length := by
      rw [List.length_append]
      omega
    rw [brought_forward_insertion, place, ended, List.append_nil, List.append_nil]
    exact insert_after_at_end _ _
  · have place : (((done.target.length + before.target.length + 1 : Nat) : Int) -
        script.growthBetween true done.weight second).toNat =
        (done.target ++ script.between done before).length + 1 := by
      rw [List.length_append]
      omega
    rw [brought_forward_insertion, place]
    exact insert_before_at_split _ _ more

/-- A merged deletion with its insertion behind it. -/
theorem forwarded_pair_step (nonempty : text ≠ []) (tight : Alignment.Tight (.add text :: after))
    (merges : script.Merges true text done.weight second)
    (columns : script.MergedColumns done text before after second introduction) :
    (apply [deletion true (done.target.length + 1) text,
        script.broughtForward true done.weight second introduction]
      (script.waypoint done (.remove text :: (before ++ .add text :: after)))).outcome =
      .ok (script.waypoint (done ++ [.remove text]) (before ++ .add text :: after)) := by
  have deletes : (deletion true (done.target.length + 1) text).execute
      (done.target ++ (text ++ (script.between done before ++ script.behind done before after))) =
      .ok (done.target ++ (script.between done before ++ script.behind done before after)) :=
    execute_of_result (delete_at_split _ _ nonempty)
  rw [waypoint_at_pair merges columns, waypoint_behind_pair merges columns,
    apply_cons_of_ok deletes, apply_singleton]
  exact forwarded_executes tight columns

/-! ### The whole run -/

/-- A script that is made operation by operation reaches all waypoints if what stands for each
operation leads from one waypoint to the next. The induction takes off the last column that
is done. -/
theorem reaches_waypoints {columns : Alignment} (whole : script = columns.script true [] 0)
    {upTo : Nat → Script} {becomes : Operation → Nat → Script} (start : upTo 0 = [])
    (next : ∀ index operation, script[index]? = some operation →
      upTo (index + 1) = upTo index ++ becomes operation index)
    (steps : ∀ (done : Alignment) (edit : Edit) (rest : Alignment) (operation : Operation),
      columns = done ++ edit :: rest →
      edit.operation? true rest.source.isEmpty done.target.length = some operation →
        (apply (becomes operation done.weight) (script.waypoint done (edit :: rest))).outcome =
          .ok (script.waypoint (done ++ [edit]) rest))
    (done rest : Alignment) (split : columns = done ++ rest) :
    (apply (upTo done.weight) columns.source).outcome = .ok (script.waypoint done rest) := by
  induction done using List.reverseRecOn generalizing rest with
  | nil =>
      obtain rfl : columns = rest := split
      change (apply (upTo 0) _).outcome = _
      rw [start, waypoint_at_start]
      rfl
  | append_singleton done edit induction =>
      rw [List.append_assoc, List.singleton_append] at split
      have before := induction (edit :: rest) split
      rw [Alignment.weight_concat]
      cases found : edit.operation? true rest.source.isEmpty (Alignment.target done).length with
      | none =>
          cases edit with
          | keep char =>
              rw [waypoint_keep]
              exact before
          | _ => simp [Edit.operation?] at found
      | some operation =>
          have one : edit.weight = 1 := by
            rw [← Alignment.operation_count true rest.source.isEmpty _ edit, found]
            rfl
          have here := operation_of_column (whole.trans (by rw [split])) found
          rw [one, next _ _ here, apply_append_of_ok before]
          exact steps done edit rest operation split found

/-- The pair that a column belongs to if its operation is merged with one behind it. -/
theorem pair_of_column {edit : Edit} {operation : Operation}
    (whole : script = Alignment.script true [] 0 (done ++ edit :: rest))
    (tight : Alignment.Tight (edit :: rest))
    (found : edit.operation? true rest.source.isEmpty done.target.length = some operation)
    (partner : script.mergedWith? true done.weight = some second) :
    ∃ (text : Text) (before after : Alignment) (introduction : Operation),
      text ≠ [] ∧ edit = .remove text ∧ rest = before ++ .add text :: after ∧
        operation = deletion true (done.target.length + 1) text ∧
        Alignment.Tight (.add text :: after) ∧ script.Merges true text done.weight second ∧
        script.MergedColumns done text before after second introduction := by
  rcases merged_with_eq_some_iff.mp partner with ⟨text, merges⟩
  have deletes : operation.deletes? = some text := by
    simpa [deletedAt?, operation_of_column whole found] using merges.deleted
  obtain ⟨rfl, _⟩ := Alignment.remove_of_deletes found deletes
  obtain ⟨before, after, introduction, rfl, columns⟩ := merged_pair_columns whole merges
  refine ⟨text, before, after, introduction, tight.proper.1, rfl, rfl, ?_, ?_, merges, columns⟩
  · exact (Option.some.inj found).symm
  · exact Alignment.tight_of_append (Alignment.tight_tail tight)

section

variable {columns : Alignment} (tight : columns.Tight) (whole : script = columns.script true [] 0)

include tight whole

/-- With its merged insertions brought forward, a derived script reaches every waypoint. -/
theorem forwarded_reaches (done rest : Alignment) (split : columns = done ++ rest) :
    (apply (script.forwardedUpTo true done.weight) columns.source).outcome =
      .ok (script.waypoint done rest) := by
  refine reaches_waypoints whole rfl (fun _ _ here => forwarded_up_to_succ here) ?_ done rest split
  rintro done edit rest operation rfl found
  have onward := Alignment.tight_of_append tight
  cases partner : script.mergedWith? true done.weight with
  | none =>
      rw [forwardedAt, partner]
      exact unpaired_column_step whole onward.proper found partner
  | some second =>
      obtain ⟨text, before, after, introduction, nonempty, rfl, rfl, rfl, behind, merges, pair⟩ :=
        pair_of_column whole onward found partner
      simp only [forwardedAt, partner, pair.there]
      exact forwarded_pair_step nonempty behind merges pair

theorem forwarded_rebuilds :
    (apply (script.forwardedUpTo true script.length) columns.source).outcome =
      .ok columns.target := by
  have reached := forwarded_reaches tight whole columns [] (List.append_nil columns).symm
  rwa [waypoint_at_end, ← Alignment.length_script true [] 0 columns, ← whole] at reached

end

end Script

end EditScript
