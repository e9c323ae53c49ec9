import EditScript.Cli.Arguments
import EditScript.Cli.Session
import EditScript.Grammar.Parser
import EditScript.Json.Printer
import EditScript.Operation.Record
import EditScript.Script.Apply
import EditScript.Script.Diff
import EditScript.Script.Tags
import EditScript.Settings

/-!
# The command line

What the program prints and the status that it ends with. A command works out its
result and prints it piece by piece; the log goes to the error output in front of
the message about a failure. A numeral beyond the limit and a level of the log that
is none are no failures of a command: they end the program.
-/

namespace EditScript.Cli

/-- How the program ends: with a status, or with a failure that nothing catches. -/
structure Ending where
  events : List Event
  status : Except Failure Nat
  output : Text
  errors : Text

/-- What a program that ends with a status leaves behind. -/
structure Outcome where
  status : Nat
  output : Text
  errors : Text
  deriving DecidableEq, Repr

def Ending.outcome (ending : Ending) : Traced Outcome :=
  ⟨ending.events, ending.status.map fun status => ⟨status, ending.output, ending.errors⟩⟩

/-- The lines of the log from a rank on. -/
def shownEvents (least : Nat) (events : List Event) : Text :=
  Text.unlines ((events.filter fun event => least ≤ event.level.rank).map Event.line)

/-- Prints operations, one a line. The first that cannot be written ends the program. -/
def printOperations : Script → Session Unit
  | [] => return ()
  | operation :: rest => do
    let line ← Session.ofExcept operation.write
    Session.print line
    printOperations rest

/-- Operations as data, unless a number of them is too long to be written. -/
def dumped (script : Script) : Except Failure Text :=
  let data := Json.Value.array (script.map fun operation => .object operation.members)
  if data.writable then .ok (Json.write data) else .error Failure.unwritable

def printScript (json : Bool) (script : Script) : Session Unit :=
  if json then do
    let text ← Session.ofExcept (dumped script)
    Session.print text
  else printOperations script

/-- Prints counted tags, one a line, with a tab in front of the count. -/
def printTagCounts : List (Text × Nat) → Session Unit
  | [] => return ()
  | (tag, count) :: rest => do
    Session.print (tag ++ '\t' :: Numeral.decimal count)
    printTagCounts rest

def diffOptions (settings : Settings) (flags : List Flag) : DiffOptions where
  describe := settings.includeInputText && !flags.contains .noInputText
  adjust := settings.adjustMoves && !flags.contains .noAdjust
  insertOnly := settings.insertOnly || flags.contains .insertOnly

/-- Carries out what is asked for, with the status that comes of it. Naming no command is a
failure that prints the help. -/
def Invocation.perform (settings : Settings) : Invocation → Session Nat
  | .nothing => do
    Session.write Page.program.help
    return 1
  | .parse texts json => do
    let script ← Session.ofTraced (Script.parse settings.strictParsing texts)
    printScript json script
    return 0
  | .diff source target flags => do
    let script ← Session.ofTraced (Script.diffTo (diffOptions settings flags) source target)
    printScript (flags.contains .json) script
    return 0
  | .apply text operations => do
    let script ← Session.ofTraced (Script.parse true operations)
    let result ← Session.ofTraced (script.apply text)
    Session.print result
    return 0
  | .tags texts => do
    let script ← Session.ofTraced (Script.parse settings.strictParsing texts)
    printTagCounts script.tagCounts
    return 0

/-- Whether a failure is one of the operations, and not of a numeral's length. -/
def isReported : Failure → Bool
  | .parse _ => true
  | .range _ _ => true
  | _ => false

/-- The line about a failure of a command. -/
def failureLine (failure : Failure) : Text :=
  Text.unlines [("Error: " ++ failure.message).toList]

/-- The events of a command that has failed, with the failure as the last one. -/
def Invocation.failedEvents (invocation : Invocation) (events : List Event) : List Event :=
  events ++ invocation.command?.toList.map fun command => .failed command.name

/-- Runs what is asked for. The log is shown from a rank on. -/
def Invocation.run (settings : Settings) (least : Nat) (invocation : Invocation) : Ending :=
  let work := invocation.perform settings
  match work.outcome with
  | .ok status => ⟨work.events, .ok status, work.output, shownEvents least work.events⟩
  | .error failure =>
    if isReported failure then
      let events := invocation.failedEvents work.events
      ⟨events, .ok 1, work.output, shownEvents least events ++ failureLine failure⟩
    else ⟨work.events, .error failure, work.output, shownEvents least work.events⟩

def Stop.ending : Stop → Ending
  | .help page => ⟨[], .ok 0, page.help, []⟩
  | .misuse page message =>
    ⟨[], .ok 2, [], page.usage ++
      Text.unlines [page.subject.toList ++ ": error: ".toList ++ message]⟩

/-- Runs the program with a log that keeps its things under the given names. The failures that
are not caught are a numeral that is too long and a level of the log that is none; the level
matters once the arguments are read. -/
def runWith (names : LogNames) (settings : Settings) (arguments : List Text) : Ending :=
  match readInvocation arguments with
  | .error stop => stop.ending
  | .ok invocation =>
    match settings.leastRank names with
    | .error fault => ⟨[], .error (.value fault), [], []⟩
    | .ok least => invocation.run settings least

/-- Runs the program with the standard log. -/
def run (settings : Settings) (arguments : List Text) : Traced Outcome :=
  (runWith .standard settings arguments).outcome

end EditScript.Cli
