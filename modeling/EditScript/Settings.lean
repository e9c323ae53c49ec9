import EditScript.LogNames
import EditScript.Text.UpperCase

/-!
# Settings

The defaults of the command line, which the environment can change. A variable
that is set but empty is set all the same.
-/

namespace EditScript

structure Settings where
  /-- The name of the least level of the log that is shown. -/
  logLevel : Text := "WARNING".toList
  includeInputText : Bool := true
  adjustMoves : Bool := true
  /-- Whether replacements are left out of the merging. -/
  insertOnly : Bool := false
  /-- Whether the first operation that does not parse is a failure. -/
  strictParsing : Bool := true
  deriving DecidableEq, Repr

namespace Settings

/-- A variable is a flag: it holds if it spells "true" in letters of either case. -/
def isTrue (text : Text) : Bool :=
  text.map Char.toLower == "true".toList

/-- A flag of the environment, with its value when the variable is not set. -/
def flag (lookup : String → Option Text) (name : String) (unset : Bool) : Bool :=
  match lookup name with
  | none => unset
  | some text => isTrue text

def ofEnvironment (lookup : String → Option Text) : Settings where
  logLevel := ((lookup "EDITOPS_LOG_LEVEL").map Text.upperCase).getD "WARNING".toList
  includeInputText := flag lookup "EDITOPS_INCLUDE_INPUT_TEXT" true
  adjustMoves := flag lookup "EDITOPS_ADJUST_MOVES" true
  insertOnly := flag lookup "EDITOPS_INSERT_ONLY" false
  strictParsing := flag lookup "EDITOPS_STRICT_PARSING" true

/-- The least rank that is shown. A name that the log does not know means warnings. -/
def leastRank (names : LogNames) (settings : Settings) : Except ValueFault Nat :=
  match names settings.logLevel with
  | none => .ok LogNames.unsetRank
  | some entry => entry.level

end Settings

end EditScript
