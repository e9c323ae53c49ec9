import EditScript.Proofs.DerivedOperations
import EditScript.Proofs.Operands
import EditScript.Proofs.Printing

/-!
# A derivation and its application

The program is run twice: it derives a script, and the lines that it prints are executed.
Between the runs the script is text, and the texts that it quotes may look like anything
else that the notation has. The script comes through all the same, as long as the texts can
be arguments and can be quoted in one line. What may stop either run then is the level of
the log: a name that the log does not know means warnings, but under most of the names that
it knows there is no level.
-/

namespace EditScript

set_option autoImplicit false

/-- A number is a level, and so is a text that names one; and where nothing is kept, the level
is left as it is. -/
def LogEntry.IsLevel : LogEntry → Prop
  | rank _ => True
  | text name => ∃ level ∈ LogNames.levels, level.1.toList = name
  | nothing => True
  | other _ => False

instance (entry : LogEntry) : Decidable entry.IsLevel :=
  match entry with
  | .rank _ => inferInstanceAs (Decidable True)
  | .text name => inferInstanceAs (Decidable (∃ level ∈ LogNames.levels, level.1.toList = name))
  | .nothing => inferInstanceAs (Decidable True)
  | .other _ => inferInstanceAs (Decidable False)

theorem LogEntry.level_ok_iff (entry : LogEntry) :
    (∃ least, entry.level = .ok least) ↔ entry.IsLevel := by
  cases entry with
  | rank number => simp [level, IsLevel]
  | nothing => simp [level, IsLevel]
  | other shown => simp [level, IsLevel]
  | text name =>
      rw [level, IsLevel]
      cases named : LogNames.levels.find? fun level => level.1.toList == name with
      | some found =>
          have same := List.find?_some named
          exact iff_of_true ⟨found.2, rfl⟩
            ⟨found, List.mem_of_find?_eq_some named, beq_iff_eq.mp same⟩
      | none =>
          rw [List.find?_eq_none] at named
          constructor
          · rintro ⟨least, ranked⟩
            cases ranked
          · rintro ⟨level, listed, same⟩
            exact absurd (beq_iff_eq.mpr same) (named level listed)

namespace Cli

/-- A text that an argument can be and a notation can quote in one line. -/
structure Plain (text : Text) : Prop where
  unsigned : Unsigned text
  unquoted : '"' ∉ text
  whole : '\n' ∉ text

/-- The name of the level is one that the log does not know, or stands for a level there. -/
def NamesLevel (names : LogNames) (settings : Settings) : Prop :=
  ∀ entry ∈ names settings.logLevel, entry.IsLevel

instance (names : LogNames) (settings : Settings) : Decidable (NamesLevel names settings) :=
  inferInstanceAs (Decidable (∀ entry ∈ names settings.logLevel, entry.IsLevel))

theorem least_rank_iff (names : LogNames) (settings : Settings) :
    (∃ least, settings.leastRank names = .ok least) ↔ NamesLevel names settings := by
  rw [Settings.leastRank, NamesLevel]
  cases names settings.logLevel with
  | none => exact iff_of_true ⟨LogNames.unsetRank, rfl⟩ nofun
  | some entry =>
      simp only [Option.mem_some_iff, forall_eq']
      exact entry.level_ok_iff

/-- Only a session that comes to its end has the status zero. -/
theorem run_ok_iff (settings : Settings) (least : Nat) (invocation : Invocation) (output : Text) :
    (invocation.run settings least).status = .ok 0 ∧
        (invocation.run settings least).output = output ↔
      (invocation.perform settings).Leaves (.ok 0) output := by
  rw [Invocation.run]
  cases ended : (invocation.perform settings).outcome with
  | ok status =>
      constructor
      · rintro ⟨success, printed⟩
        exact ⟨ended.trans success, printed⟩
      · intro leaves
        exact ⟨ended.symm.trans leaves.ends, leaves.prints⟩
  | error failure =>
      constructor
      · dsimp only
        split <;> nofun
      · intro leaves
        cases ended.symm.trans leaves.ends

/-- The program ends well and prints an output exactly if the level of the log is one and
the command comes to its end with that output. -/
theorem run_ends_iff {arguments : List Text} {invocation : Invocation}
    (read : readInvocation arguments = .ok invocation) (names : LogNames) (settings : Settings)
    (output : Text) :
    (runWith names settings arguments).status = .ok 0 ∧
        (runWith names settings arguments).output = output ↔
      NamesLevel names settings ∧ (invocation.perform settings).Leaves (.ok 0) output := by
  rw [← least_rank_iff, runWith, read]
  cases level : settings.leastRank names with
  | error fault =>
      constructor
      · nofun
      · rintro ⟨⟨least, ranked⟩, _⟩
        cases ranked
  | ok least =>
      exact (run_ok_iff settings least invocation output).trans (and_iff_right ⟨least, rfl⟩).symm

/-- A script that is derived without merging is printed, and the lines of the output are
executed on its source. Both runs end well, and the second prints the target. -/
def DerivedThenApplied (names : LogNames) (settings : Settings) (source target : Text) : Prop :=
  let derivation := runWith names settings ["diff".toList, "--no-adjust".toList, source, target]
  let application :=
    runWith names settings ("apply".toList :: source :: derivation.output.lines)
  derivation.status = .ok 0 ∧ application.status = .ok 0 ∧ application.output = target ++ ['\n']

section

variable {source target : Text}

theorem unmerged_outcome (settings : Settings) (source target : Text) :
    (Script.diffTo (diffOptions settings [.noAdjust]) source (some target)).outcome =
      .ok (walk settings.includeInputText 0 0 source target) := by
  rw [Script.derived_outcome]
  simp [diffOptions]

theorem derivation_leaves (settings : Settings)
    (written : ∀ operation ∈ walk settings.includeInputText 0 0 source target,
      operation.writable = true) :
    (Invocation.perform settings (.diff source (some target) [.noAdjust])).Leaves (.ok 0)
      (printedScript false (walk settings.includeInputText 0 0 source target)) := by
  have drawn := walk_drawn settings.includeInputText source target
  have showable : ∀ operation ∈ walk settings.includeInputText 0 0 source target,
      operation.Showable :=
    fun operation member => ⟨written operation member, (drawn operation member).single⟩
  exact .behind (unmerged_outcome settings source target)
    (Session.leaves_of_printing (print_script_eq false showable) 0)

/-- The derivation prints the walk, whatever the settings say about merging. It comes to its
end unless a number of the walk is beyond the limit. -/
theorem derivation_leaves_iff (settings : Settings) (source target output : Text) :
    (Invocation.perform settings (.diff source (some target) [.noAdjust])).Leaves (.ok 0) output ↔
      (∀ operation ∈ walk settings.includeInputText 0 0 source target,
        operation.writable = true) ∧
        output = printedScript false (walk settings.includeInputText 0 0 source target) := by
  constructor
  · intro leaves
    have ends := leaves.ends
    simp only [Invocation.perform, Session.outcome_bind, Session.ofTraced,
      unmerged_outcome settings source target, Grammar.bind_eq_ok_iff] at ends
    obtain ⟨_, same, _, printed, _⟩ := ends
    cases same
    change (printOperations _).outcome = _ at printed
    rw [print_operations_eq] at printed
    obtain ⟨lines, rendered, _⟩ := (map_eq_ok_iff _ _ _).mp printed
    have written := ((Script.render_eq_ok_iff _ lines).mp rendered).1
    exact ⟨written, leaves.prints.symm.trans (derivation_leaves settings written).prints⟩
  · rintro ⟨written, rfl⟩
    exact derivation_leaves settings written

theorem derivation_ends_iff (sourcePlain : Plain source) (targetPlain : Plain target)
    (names : LogNames) (settings : Settings) (output : Text) :
    (runWith names settings ["diff".toList, "--no-adjust".toList, source, target]).status = .ok 0 ∧
        (runWith names settings
          ["diff".toList, "--no-adjust".toList, source, target]).output = output ↔
      NamesLevel names settings ∧
        (∀ operation ∈ walk settings.includeInputText 0 0 source target,
          operation.writable = true) ∧
        output = printedScript false (walk settings.includeInputText 0 0 source target) := by
  have unsigned : ∀ text ∈ [source, target], Unsigned text := by
    simp [sourcePlain.unsigned, targetPlain.unsigned]
  have read := @read_derivation [.noAdjust] source target (by decide) unsigned
  have ends := run_ends_iff read names settings output
  rw [derivation_leaves_iff] at ends
  exact ends

theorem printed_lines (describe : Bool) (sourcePlain : Plain source) (targetPlain : Plain target) :
    (printedScript false (walk describe 0 0 source target)).lines =
      (walk describe 0 0 source target).map Operation.canonical := by
  have whole : '\n' ∉ source ++ target := by
    simp [sourcePlain.whole, targetPlain.whole]
  apply Text.lines_unlines
  intro line printed
  obtain ⟨operation, member, rfl⟩ := List.mem_map.mp printed
  exact (walk_drawn describe source target operation member).in_line whole

theorem unsigned_canonical (operation : Operation) : Unsigned operation.canonical := by
  intro signed
  rcases operation.canonical_head with head | head <;> rw [head] at signed <;> cases signed

/-- Once its notations are read, the walk rebuilds the target; and they are read unless a
number is beyond the limit. -/
theorem application_leaves_iff (settings : Settings) (describe : Bool) (sourcePlain : Plain source)
    (targetPlain : Plain target) :
    (Invocation.perform settings (.apply source
        ((walk describe 0 0 source target).map Operation.canonical))).Leaves (.ok 0)
      (target ++ ['\n']) ↔
    ∀ operation ∈ walk describe 0 0 source target, operation.writable = true := by
  have unquoted : '"' ∉ source ++ target := by
    simp [sourcePlain.unquoted, targetPlain.unquoted]
  have drawn := walk_drawn describe source target
  have read := Script.notations_read_iff (fun operation member => (drawn operation member).valid)
    (fun operation member => (drawn operation member).notatable unquoted)
  constructor
  · intro leaves
    have ends := leaves.ends
    rw [Invocation.perform, Session.outcome_bind, Grammar.bind_eq_ok_iff] at ends
    obtain ⟨script, parsed, _⟩ := ends
    exact ((read script).mp parsed).1
  · intro writable
    have parsed := (read (walk describe 0 0 source target)).mpr ⟨writable, rfl⟩
    exact .behind parsed (.behind (walk_rebuilds describe source target)
      (Session.leaves_of_printing rfl 0))

theorem application_ends_iff (describe : Bool) (sourcePlain : Plain source)
    (targetPlain : Plain target) (differ : source ≠ target) (names : LogNames)
    (settings : Settings) :
    (runWith names settings ("apply".toList :: source ::
        (walk describe 0 0 source target).map Operation.canonical)).status = .ok 0 ∧
      (runWith names settings ("apply".toList :: source ::
        (walk describe 0 0 source target).map Operation.canonical)).output = target ++ ['\n'] ↔
      NamesLevel names settings ∧
        ∀ operation ∈ walk describe 0 0 source target, operation.writable = true := by
  have some : (walk describe 0 0 source target).map Operation.canonical ≠ [] := by
    simp [walk_ne_nil describe differ]
  have unsigned : ∀ argument ∈ source :: (walk describe 0 0 source target).map Operation.canonical,
      Unsigned argument := by
    rw [List.forall_mem_cons, List.forall_mem_map]
    exact ⟨sourcePlain.unsigned, fun operation _ => unsigned_canonical operation⟩
  have ends := run_ends_iff (read_application some unsigned) names settings (target ++ ['\n'])
  rw [application_leaves_iff settings describe sourcePlain targetPlain] at ends
  exact ends

end

/-- For texts that can be arguments and can be quoted in one line, and whatever the log
keeps under which name: a derivation and the application of its lines rebuild the target
exactly if the name of the level is unknown to the log or stands for a level there, and no
number of the script is beyond the limit on numerals. None is, unless the number of
characters of both texts together comes up to it. -/
theorem derived_then_applied_iff {source target : Text} (sourcePlain : Plain source)
    (targetPlain : Plain target) (differ : source ≠ target) (names : LogNames)
    (settings : Settings) :
    (DerivedThenApplied names settings source target ↔
      NamesLevel names settings ∧
        ∀ operation ∈ walk settings.includeInputText 0 0 source target, operation.writable = true) ∧
    (Numeral.writable ((source ++ target).length + 1) = true →
      ∀ operation ∈ walk settings.includeInputText 0 0 source target,
        operation.writable = true) := by
  have derives := derivation_ends_iff sourcePlain targetPlain names settings
  have applies := application_ends_iff settings.includeInputText sourcePlain targetPlain differ
    names settings
  rw [← printed_lines settings.includeInputText sourcePlain targetPlain] at applies
  refine ⟨?_, walk_writable settings.includeInputText⟩
  constructor
  · rintro ⟨derived, _⟩
    obtain ⟨named, written, _⟩ := (derives _).mp ⟨derived, rfl⟩
    exact ⟨named, written⟩
  · intro given
    obtain ⟨derived, printed⟩ := (derives _).mpr ⟨given.1, given.2, rfl⟩
    obtain ⟨applied, rebuilt⟩ := applies.mpr given
    rw [← printed] at applied rebuilt
    exact ⟨derived, applied, rebuilt⟩

/-- Two texts that look like operations themselves. -/
def lookalikeSource : Text :=
  "@1! (a)".toList

def lookalikeTarget : Text :=
  "a-@2=[b]x".toList

theorem lookalikes_derived_then_applied :
    DerivedThenApplied .standard { logLevel := "VERBOSE".toList } lookalikeSource
      lookalikeTarget := by
  have equivalence := @derived_then_applied_iff lookalikeSource lookalikeTarget
    ⟨nofun, by decide, by decide⟩ ⟨nofun, by decide, by decide⟩ (by decide) .standard
    { logLevel := "VERBOSE".toList }
  exact equivalence.1.mpr ⟨by decide +kernel, equivalence.2 (by decide)⟩

/-- The log keeps the form of its lines under a name, and a level of this name ends the
derivation. -/
theorem line_form_no_level :
    Plain ['a'] ∧ Plain ['b'] ∧ ['a'] ≠ ['b'] ∧
      ¬DerivedThenApplied .standard { logLevel := "BASIC_FORMAT".toList } ['a'] ['b'] := by
  have source : Plain ['a'] := ⟨nofun, by decide, by decide⟩
  have target : Plain ['b'] := ⟨nofun, by decide, by decide⟩
  refine ⟨source, target, by decide, ?_⟩
  rintro ⟨derived, _⟩
  have named := ((derivation_ends_iff source target .standard _ _).mp ⟨derived, rfl⟩).1
  exact absurd named (by decide)

end Cli

end EditScript
