import EditScript.Cli.Usage
import EditScript.Text.DecimalDigit
import EditScript.Text.Quoted

/-!
# Arguments

How a list of arguments is read. Each argument is an operand or an option; the
first `--` makes all that follow operands. Options may be shortened as long as
one flag alone is meant, and a negative number is an operand. Operands fill the
slots of a page in order, and what fits nowhere is left over.
-/

namespace EditScript.Cli

inductive Token where
  | operand (text : Text)
  | separator
  /-- A flag, with a value if one is attached. -/
  | flag (text : Text) (flag : Flag) (value : Option Text)
  /-- A short flag with letters behind it. An equals sign between them is left out. -/
  | cluster (text : Text) (flag : Flag) (letters : Text)
  | unknown (text : Text)
  deriving DecidableEq, Repr

namespace Token

def text : Token → Text
  | operand text => text
  | separator => ['-', '-']
  | flag text _ _ => text
  | cluster text _ _ => text
  | unknown text => text

def isSeparator : Token → Bool
  | separator => true
  | _ => false

def isOption : Token → Bool
  | flag _ _ _ => true
  | cluster _ _ _ => true
  | unknown _ => true
  | _ => false

end Token

inductive Stop where
  | help (page : Page)
  | misuse (page : Page) (message : Text)
  deriving DecidableEq, Repr

/-- The flag that a text spells in full, and whether the spelling is the short one. -/
def spelled? (flags : List Flag) (text : Text) : Option (Flag × Bool) :=
  flags.findSome? fun flag =>
    if flag.long.toList = text then some (flag, false)
    else if flag.short?.map String.toList = some text then some (flag, true)
    else none

/-- The parts of a text in front of its first equals sign and behind it. -/
def splitValue (text : Text) : Text × Option Text :=
  let name := text.takeWhile (· != '=')
  match text.drop name.length with
  | [] => (name, none)
  | _ :: value => (name, some value)

/-- Whether a text is a minus sign with a decimal number, and perhaps a line feed. -/
def isNegativeNumber (text : Text) : Bool :=
  let isDigit := fun char => (Text.digitValue? char).isSome
  match text with
  | '-' :: number =>
    let number := if number.getLast? = some '\n' then number.dropLast else number
    let fraction := number.dropWhile isDigit
    match fraction with
    | [] => !number.isEmpty
    | '.' :: digits => !digits.isEmpty && digits.all isDigit
    | _ => false
  | _ => false

/-- The spellings that an argument starts, with its attached value. -/
def abbreviated (flags : List Flag) (text : Text) : List Flag × Option Text :=
  let (start, value) := splitValue text
  (flags.filter fun flag => start.isPrefixOf flag.long.toList, value)

/-- An option that does not spell a flag in full. -/
def readOption (flags : List Flag) (text : Text) : Except Text Token :=
  let fallback := if isNegativeNumber text || text.contains ' ' then Token.operand text
    else Token.unknown text
  match text with
  | '-' :: '-' :: _ =>
    match abbreviated flags text with
    | ([], _) => .ok fallback
    | ([flag], value) => .ok (.flag text flag value)
    | (several, _) =>
      .error ("ambiguous option: ".toList ++ text ++ " could match ".toList ++
        [',', ' '].intercalate (several.map fun flag => flag.long.toList))
  | _ =>
    match spelled? flags (text.take 2) with
    | some (flag, _) => .ok (.cluster text flag (text.drop 2))
    | none => .ok fallback

def readArgument (flags : List Flag) (text : Text) : Except Text Token :=
  if text.head? != some '-' then .ok (.operand text)
  else match spelled? flags text with
    | some (flag, _) => .ok (.flag text flag none)
    | none =>
      if text.length = 1 then .ok (.operand text)
      else match splitValue text with
        | (_, none) => readOption flags text
        | (name, some value) =>
          match spelled? flags name with
          | some (flag, true) => .ok (.cluster text flag value)
          | some (flag, false) => .ok (.flag text flag (some value))
          | none => readOption flags text

def readArguments (flags : List Flag) : List Text → Except Text (List Token)
  | [] => .ok []
  | text :: rest =>
    if text = ['-', '-'] then .ok (.separator :: rest.map .operand)
    else do
      let token ← readArgument flags text
      let others ← readArguments flags rest
      return token :: others

inductive Arity where
  | one
  | many
  /-- An operand and everything behind it, options too. -/
  | rest
  deriving DecidableEq, Repr

structure Slot where
  name : String
  arity : Arity
  deriving DecidableEq, Repr

def Page.slots : Page → List Slot
  | .program => [⟨"command", .rest⟩]
  | .command .parse => [⟨"operations", .many⟩]
  | .command .diff => [⟨"source", .one⟩, ⟨"target", .one⟩]
  | .command .apply => [⟨"text", .one⟩, ⟨"operations", .many⟩]
  | .command .tags => [⟨"operations", .many⟩]

/-- What a slot takes off the front of the tokens, and the tokens behind it. -/
def Arity.take? (arity : Arity) (tokens : List Token) : Option (List Token × List Token) :=
  let lead := tokens.takeWhile Token.isSeparator
  match tokens.dropWhile Token.isSeparator with
  | .operand text :: behind =>
    let more := match arity with
      | .one => behind.takeWhile Token.isSeparator
      | .many => behind.takeWhile fun token => !token.isOption
      | .rest => behind
    some (lead ++ .operand text :: more, behind.drop more.length)
  | _ => none

theorem length_dropWhile_le {α : Type} (inClass : α → Bool) (items : List α) :
    (items.dropWhile inClass).length ≤ items.length := by
  induction items with
  | nil => simp
  | cons item rest induction =>
    simp only [List.dropWhile_cons]
    split
    · simp; omega
    · simp

theorem length_lt_of_take {arity : Arity} {tokens taken behind : List Token}
    (found : arity.take? tokens = some (taken, behind)) : behind.length < tokens.length := by
  have bound := length_dropWhile_le Token.isSeparator tokens
  unfold Arity.take? at found
  split at found
  · next text rest shape =>
    simp only [Option.some.injEq, Prod.mk.injEq] at found
    rw [shape] at bound
    rw [← found.2]
    simp only [List.length_drop, List.length_cons] at bound ⊢
    omega
  · simp at found

/-- The operands of a slot. The first argument that is `--` is not one of them,
except where everything is taken. -/
def Slot.operands (slot : Slot) (taken : List Token) : List Text :=
  let texts := taken.map Token.text
  match slot.arity with
  | .rest => texts
  | _ => texts.erase ['-', '-']

structure Reading where
  /-- The operands of the slots that are filled, in order. -/
  filled : List (List Text)
  slots : List Slot
  flags : List Flag
  leftOver : List Text
  deriving DecidableEq, Repr

def refuseValue (page : Page) (flag : Flag) (value : Text) : Stop :=
  .misuse page ("argument ".toList ++ flag.label.toList ++ ": ignored explicit argument ".toList ++
    Text.quoted value)

/-- The flags that letters behind a short flag spell, one by one, or the letters
from the first on that is no flag. There has to be a letter. -/
def clusterFlags (flags : List Flag) : Text → Except Text (List Flag)
  | [] => .error []
  | letter :: rest =>
    match spelled? flags ['-', letter] with
    | none => .error (letter :: rest)
    | some (flag, _) =>
      if rest.isEmpty then .ok [flag]
      else (clusterFlags flags rest).map (flag :: ·)

/-- Raises flags in order. The help flag stops the reading. -/
def raiseFlags (page : Page) (raised : List Flag) (reading : Reading) : Except Stop Reading :=
  if raised.contains .help then .error (.help page)
  else .ok { reading with flags := reading.flags ++ raised }

def takeOption (page : Page) (reading : Reading) : Token → Except Stop Reading
  | .flag _ flag none => raiseFlags page [flag] reading
  | .flag _ flag (some value) => .error (refuseValue page flag value)
  | .cluster _ flag letters =>
    match clusterFlags page.flags letters with
    | .error value => .error (refuseValue page flag value)
    | .ok more => raiseFlags page (flag :: more) reading
  | token => .ok { reading with leftOver := reading.leftOver ++ [token.text] }

/-- Reads tokens in order: an option at once, operands into the first open slot. -/
def readTokens (page : Page) (reading : Reading) : List Token → Except Stop Reading
  | [] => .ok reading
  | token :: rest =>
    if token.isOption then do
      let after ← takeOption page reading token
      readTokens page after rest
    else
      match reading.slots with
      | [] => readTokens page { reading with leftOver := reading.leftOver ++ [token.text] } rest
      | slot :: slots =>
        match _found : slot.arity.take? (token :: rest) with
        | none =>
          readTokens page { reading with leftOver := reading.leftOver ++ [token.text] } rest
        | some (taken, behind) =>
          readTokens page
            { reading with filled := reading.filled ++ [slot.operands taken], slots } behind
termination_by tokens => tokens.length
decreasing_by
  · simp
  · simp
  · simp
  · exact length_lt_of_take _found

def readPage (page : Page) (arguments : List Text) : Except Stop Reading :=
  match readArguments page.flags arguments with
  | .error message => .error (.misuse page message)
  | .ok tokens => readTokens page ⟨[], page.slots, [], []⟩ tokens

inductive Invocation where
  | nothing
  | parse (texts : List Text) (json : Bool)
  /-- The target is not given if `--` stands in its place. -/
  | diff (source : Text) (target : Option Text) (flags : List Flag)
  | apply (text : Text) (operations : List Text)
  | tags (texts : List Text)
  deriving DecidableEq, Repr

def Invocation.command? : Invocation → Option Command
  | nothing => none
  | parse _ _ => some .parse
  | diff _ _ _ => some .diff
  | apply _ _ => some .apply
  | tags _ => some .tags

def Reading.operandsAt (reading : Reading) (place : Nat) : List Text :=
  reading.filled.getD place []

def Reading.operandAt (reading : Reading) (place : Nat) : Text :=
  (reading.operandsAt place).headD []

def Command.invocation (command : Command) (reading : Reading) : Invocation :=
  match command with
  | .parse => .parse (reading.operandsAt 0) (reading.flags.contains .json)
  | .diff => .diff (reading.operandAt 0) (reading.operandsAt 1).head? reading.flags
  | .apply => .apply (reading.operandAt 0) (reading.operandsAt 1)
  | .tags => .tags (reading.operandsAt 0)

/-- Reads the arguments of a command. All its slots have to be filled. -/
def readCommand (command : Command) (arguments : List Text) : Except Stop Reading := do
  let page := Page.command command
  let reading ← readPage page arguments
  if reading.slots.isEmpty then return reading
  else throw (.misuse page ("the following arguments are required: ".toList ++
    [',', ' '].intercalate (reading.slots.map fun slot => slot.name.toList)))

def unknownCommand (name : Text) : Text :=
  "argument command: invalid choice: ".toList ++ Text.quoted name ++ " (choose from ".toList ++
    [',', ' '].intercalate (Command.all.map fun command => Text.quoted command.name.toList) ++ [')']

/-- What is asked for, unless arguments are left over. -/
def accept (invocation : Invocation) (leftOver : List Text) : Except Stop Invocation :=
  if leftOver.isEmpty then .ok invocation
  else .error (.misuse .program
    ("unrecognized arguments: ".toList ++ Text.unwords leftOver))

def readInvocation (arguments : List Text) : Except Stop Invocation := do
  let reading ← readPage .program arguments
  match reading.operandsAt 0 with
  | [] => accept .nothing reading.leftOver
  | name :: rest =>
    match Command.ofName? name with
    | none => throw (.misuse .program (unknownCommand name))
    | some command => do
      let inner ← readCommand command rest
      accept (command.invocation inner) (reading.leftOver ++ inner.leftOver)

end EditScript.Cli
