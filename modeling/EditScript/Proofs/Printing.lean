import EditScript.Cli.Run

/-!
# What is printed

The program prints a result piece by piece, and a piece that cannot be written ends it in
the middle. Here the printed results are spelled out as whole texts. As long as all numbers
are within the limit on numerals, what the pieces come to is the whole; if not, operations
that are printed one a line stop in front of the first that cannot be written, and data is
not printed at all.
-/

namespace EditScript

set_option autoImplicit false

section

variable {ε α β : Type} (result : Except ε α) (change : α → β)

theorem map_eq_ok_iff (value : β) :
    result.map change = .ok value ↔ ∃ before, result = .ok before ∧ change before = value := by
  cases result <;> simp [Except.map]

end

namespace Cli

/-- Operations as they are printed: one a line, or as data. -/
def printedScript (json : Bool) (script : Script) : Text :=
  if json then
    Text.unlines [Json.write (.array (script.map fun operation => .object operation.members))]
  else Text.unlines (script.map Operation.canonical)

/-- Counted tags as they are printed: one a line, with a tab in front of the count. -/
def printedCounts (counts : List (Text × Nat)) : Text :=
  Text.unlines (counts.map fun (tag, count) => tag ++ '\t' :: Numeral.decimal count)

namespace Session

variable {α β : Type}

@[simp] theorem outcome_bind (first : Session α) (next : α → Session β) :
    (first >>= next).outcome = first.outcome >>= fun value => (next value).outcome := by
  rcases first with ⟨events, output, _ | _⟩ <;> rfl

/-- What is printed before a step that is not reached is all that is printed. -/
theorem bind_of_error {first : Session α} {failure : Failure} (failed : first.outcome = .error failure)
    (next : α → Session β) :
    (first >>= next) = ⟨first.events, first.output, .error failure⟩ := by
  rcases first with ⟨events, output, outcome⟩
  cases failed
  rfl

theorem bind_of_ok {first : Session α} {value : α} (ended : first.outcome = .ok value)
    (next : α → Session β) :
    (first >>= next) = ⟨first.events ++ (next value).events, first.output ++ (next value).output,
      (next value).outcome⟩ := by
  rcases first with ⟨events, output, outcome⟩
  cases ended
  rfl

/-- How a session ends, and all that it prints. -/
structure Leaves (session : Session α) (outcome : Except Failure α) (output : Text) : Prop where
  ends : session.outcome = outcome
  prints : session.output = output

section

variable {work : Traced α} {next : α → Session β} {outcome : Except Failure β} {output : Text}

/-- What is printed behind the work of the library is all that is printed. -/
theorem Leaves.behind {value : α} (returned : work.outcome = .ok value)
    (later : (next value).Leaves outcome output) :
    (ofTraced work >>= next).Leaves outcome output := by
  rw [@bind_of_ok _ _ (ofTraced work) value returned]
  exact ⟨later.ends, later.prints⟩

end

theorem leaves_of_printing {printing : Session Unit} {output : Text}
    (whole : printing = ⟨[], output, .ok ()⟩) (status : Nat) :
    (printing >>= fun _ => pure status).Leaves (.ok status) output := by
  rw [whole]
  exact ⟨rfl, List.append_nil output⟩

end Session

end Cli

/-! ### Operations, one a line -/

namespace Operation

variable {operation : Operation}

theorem write_of_writable (short : operation.writable = true) :
    operation.write = .ok operation.canonical :=
  if_pos short

theorem write_of_unwritable (long : operation.writable = false) :
    operation.write = .error Failure.unwritable := by
  rw [write, long]
  rfl

end Operation

namespace Script

theorem render_cons_of_writable {operation : Operation} (short : operation.writable = true)
    (rest : Script) :
    render (operation :: rest) = (render rest).map (operation.canonical :: ·) := by
  rw [render, List.mapM_cons, Operation.write_of_writable short]
  rfl

theorem render_cons_of_unwritable {operation : Operation} (long : operation.writable = false)
    (rest : Script) : render (operation :: rest) = .error Failure.unwritable := by
  rw [render, List.mapM_cons, Operation.write_of_unwritable long]
  rfl

/-- A script is rendered exactly if all its operations can be written, each as its canonical
notation. -/
theorem render_eq_ok_iff (script : Script) (lines : List Text) :
    script.render = .ok lines ↔
      (∀ operation ∈ script, operation.writable = true) ∧ script.map Operation.canonical = lines := by
  induction script generalizing lines with
  | nil => simp [render, pure, Except.pure]
  | cons operation rest induction =>
      rw [List.forall_mem_cons, List.map_cons]
      cases short : operation.writable with
      | false =>
          rw [render_cons_of_unwritable short]
          simp
      | true =>
          rw [render_cons_of_writable short]
          cases rendered : render rest with
          | error failure =>
              constructor
              · nofun
              · rintro ⟨⟨_, written⟩, _⟩
                cases rendered.symm.trans ((induction _).mpr ⟨written, rfl⟩)
          | ok others =>
              obtain ⟨written, rfl⟩ := (induction others).mp rendered
              simpa [Except.map] using fun _ => written

end Script

namespace Cli

/-- Printed one a line, operations are rendered up to the first that cannot be written. -/
theorem print_operations_eq (script : Script) :
    printOperations script =
      ⟨[], Text.unlines ((script.takeWhile Operation.writable).map Operation.canonical),
        script.render.map fun _ => ()⟩ := by
  induction script with
  | nil => rfl
  | cons operation rest induction =>
      rw [printOperations]
      cases short : operation.writable with
      | false =>
          rw [Script.render_cons_of_unwritable short, List.takeWhile_cons_of_neg (by simp [short])]
          exact Session.bind_of_error (Operation.write_of_unwritable short) _
      | true =>
          rw [Script.render_cons_of_writable short, List.takeWhile_cons_of_pos short,
            Session.bind_of_ok (Operation.write_of_writable short), induction]
          cases Script.render rest <;> rfl

end Cli

/-! ### Operations as data -/

theorem Json.text_writable (text : Option Text) : (Json.ofText? text).writable = true := by
  cases text <;> rfl

theorem Json.texts_writable (texts : List Text) :
    Json.writableElements (texts.map .string) = true := by
  induction texts with
  | nil => rfl
  | cons text rest induction => exact induction

/-- An operation that can be written as a notation and as data: the data of an insertion has a
length that the notation leaves out. -/
structure Operation.Showable (operation : Operation) : Prop where
  writable : operation.writable = true
  single : ∀ side text, operation.action = .insert side text → operation.span.length = 1

theorem Operation.action_members_writable {operation : Operation}
    (written : ∀ number ∈ operation.writtenNumbers, Numeral.writable number = true) :
    Json.writableMembers (actionMembers operation.action) = true := by
  cases action : operation.action with
  | move side target =>
      have short := written target (by simp [writtenNumbers, action])
      simp [actionMembers, member, Json.writableMembers, Json.Value.writable, short]
  | swap other described =>
      have start := written other.start (by simp [writtenNumbers, action])
      have length := written other.length (by simp [writtenNumbers, action])
      simp [actionMembers, member, Json.writableMembers, Json.Value.writable, start, length,
        Json.text_writable]
  | _ => simp [actionMembers, member, Json.writableMembers, Json.Value.writable]

theorem Operation.start_written (operation : Operation) :
    operation.span.start ∈ operation.writtenNumbers := by
  cases action : operation.action <;> simp [writtenNumbers, action]

theorem Operation.Showable.members_writable {operation : Operation} (showable : operation.Showable) :
    Json.writableMembers operation.members = true := by
  have written : ∀ number ∈ operation.writtenNumbers, Numeral.writable number = true := by
    have short := showable.writable
    rwa [Operation.writable, List.all_eq_true] at short
  have start := written operation.span.start operation.start_written
  have length : Numeral.writable operation.span.length = true := by
    cases action : operation.action with
    | insert side text =>
        rw [showable.single side text action]
        decide
    | _ =>
        apply written
        simp [writtenNumbers, action]
  have others := action_members_writable written
  simp [members, member, Json.writableMembers, Json.Value.writable, Json.text_writable,
    Json.texts_writable, start, length, others]

namespace Cli

theorem data_writable {script : Script} (showable : ∀ operation ∈ script, operation.Showable) :
    Json.writableElements (script.map fun operation => .object operation.members) = true := by
  induction script with
  | nil => rfl
  | cons operation rest induction =>
      rw [List.forall_mem_cons] at showable
      rw [List.map_cons, Json.writableElements, Json.Value.writable, showable.1.members_writable,
        induction showable.2]
      rfl

/-- Operations within the limit on numerals are printed as a whole. -/
theorem print_script_eq (json : Bool) {script : Script}
    (showable : ∀ operation ∈ script, operation.Showable) :
    printScript json script = ⟨[], printedScript json script, .ok ()⟩ := by
  cases json with
  | true =>
      have whole : dumped script =
          .ok (Json.write (.array (script.map fun operation => .object operation.members))) :=
        if_pos (data_writable showable)
      rw [printScript, if_pos rfl, whole, printedScript, if_pos rfl, Text.unlines, List.flatMap_singleton]
      rfl
  | false =>
      have written : ∀ operation ∈ script, operation.writable = true :=
        fun operation member => (showable operation member).writable
      have rendered := (script.render_eq_ok_iff _).mpr ⟨written, rfl⟩
      have all : script.takeWhile Operation.writable = script := by
        simpa using @List.takeWhile_append_of_pos _ _ script [] written
      rw [printScript, if_neg Bool.false_ne_true, print_operations_eq, all, rendered]
      rfl

end Cli

end EditScript
