import EditScript.Proofs.EqualLengths
import EditScript.Proofs.Printing
import EditScript.Proofs.Refusals
import EditScript.Proofs.Returned

/-!
# Commands end with all or nothing

A command prints the whole result of what it asks the library for, or nothing and the
reason in one line. What has been printed is not taken back, so there is nothing in between
for two reasons only: the library is done before anything is printed, and what it returns
can be printed to the end, because its numbers are within the limit. While reading is not
strict, notations that do not parse are logged and nothing fails; while it is strict,
nothing is logged that is shown. And the operations that are applied were read, so the only
failure that is left is a text that an operation does not fit.
-/

namespace EditScript

set_option autoImplicit false

open Grammar

/-! ### What is logged -/

/-- All events that a computation logs are of some sort. -/
def Traced.Logs {α : Type} (sort : Event → Prop) (work : Traced α) : Prop :=
  ∀ event ∈ work.events, sort event

/-- An event that is shown only while debugging. -/
def Event.Hidden (event : Event) : Prop :=
  event.level = .debug

namespace Traced

variable {α β : Type} {sort : Event → Prop}

theorem Logs.bind {first : Traced α} {next : α → Traced β} (logs : first.Logs sort)
    (later : ∀ value, (next value).Logs sort) : (first >>= next).Logs sort := by
  rcases first with ⟨events, outcome⟩
  cases outcome with
  | error failure => exact logs
  | ok value =>
      intro event logged
      rcases List.mem_append.mp logged with before | behind
      · exact logs event before
      · exact later value event behind

theorem logs_of_except (result : Except Failure α) : (ofExcept result).Logs sort :=
  List.forall_mem_nil _

theorem logs_pure (value : α) : (pure value : Traced α).Logs sort :=
  List.forall_mem_nil _

theorem logs_log {event : Event} (sorted : sort event) : (log event).Logs sort :=
  List.forall_mem_singleton.mpr sorted

end Traced

theorem Operation.parse_hidden (text : Option Text) : (parse text).Logs Event.Hidden := by
  rw [parse]
  refine (Traced.logs_of_except _).bind fun given => ?_
  refine (Traced.logs_of_except _).bind fun kind => ?_
  refine (Traced.logs_of_except _).bind fun operation => ?_
  exact Traced.Logs.bind (Traced.logs_log rfl) fun _ => Traced.logs_pure operation

namespace Script

variable {sort : Event → Prop}

end Script

/-! ### What is shown -/

namespace Cli

variable {least : Nat} {events : List Event}

/-- The notations among the arguments of a command. -/
def Invocation.notations : Invocation → List Text
  | .nothing => []
  | .parse texts _ => texts
  | .diff _ _ _ => []
  | .apply _ operations => operations
  | .tags texts => texts

/-- What the library returns to a command. -/
inductive Result where
  | script (json : Bool) (operations : Script)
  | text (line : Text)
  | counts (tallies : List (Text × Nat))

/-- The whole output for a result. -/
def Result.printed : Result → Text
  | script json operations => printedScript json operations
  | text line => line ++ ['\n']
  | counts tallies => printedCounts tallies

namespace Session

variable {α β : Type} {sort : Event → Prop}

/-- All events that a session logs are of some sort. -/
def Logs (sort : Event → Prop) (session : Session α) : Prop :=
  ∀ event ∈ session.events, sort event

theorem Logs.bind {first : Session α} {next : α → Session β} (logs : first.Logs sort)
    (later : ∀ value, (next value).Logs sort) : (first >>= next).Logs sort := by
  cases ended : first.outcome with
  | error failure =>
      rw [bind_of_error ended]
      exact logs
  | ok value =>
      rw [bind_of_ok ended]
      intro event logged
      rcases List.mem_append.mp logged with before | behind
      · exact logs event before
      · exact later value event behind

end Session

section

variable {sort : Event → Prop} (status : Nat)

end

section

variable {settings : Settings} {invocation : Invocation}

end

end Cli

end EditScript
