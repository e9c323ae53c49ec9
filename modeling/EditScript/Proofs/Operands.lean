import EditScript.Cli.Arguments

/-!
# Arguments that are operands

A text that does not start with a minus sign is an operand, whatever else it holds, and
operands go to the slots of a page in order. So a derivation with options in front of its
two texts and an application to a text are read as they are meant: no text of either is
taken for an option, and none is left over.
-/

namespace EditScript.Cli

set_option autoImplicit false

/-- A text that starts no option. -/
def Unsigned (text : Text) : Prop :=
  text.head? ≠ some '-'

theorem Unsigned.not_separator {text : Text} (unsigned : Unsigned text) : text ≠ ['-', '-'] := by
  rintro rfl
  exact unsigned rfl

section

variable {flags : List Flag}

theorem read_argument_of_unsigned {text : Text} (unsigned : Unsigned text) :
    readArgument flags text = .ok (.operand text) :=
  if_pos (bne_iff_ne.mpr unsigned)

theorem read_arguments_cons {text : Text} {rest : List Text} {token : Token} {others : List Token}
    (inside : text ≠ ['-', '-']) (here : readArgument flags text = .ok token)
    (later : readArguments flags rest = .ok others) :
    readArguments flags (text :: rest) = .ok (token :: others) := by
  rw [readArguments, if_neg inside, here, later]
  rfl

theorem read_arguments_of_unsigned {texts : List Text} (unsigned : ∀ text ∈ texts, Unsigned text) :
    readArguments flags texts = .ok (texts.map .operand) := by
  induction texts with
  | nil => rfl
  | cons text rest induction =>
      rw [List.forall_mem_cons] at unsigned
      exact read_arguments_cons unsigned.1.not_separator (read_argument_of_unsigned unsigned.1)
        (induction unsigned.2)

/-- Options that are written in full in front of operands, where each is read as a token. -/
theorem read_arguments_behind_flags (token : Flag → Token) (raised : List Flag) {texts : List Text}
    (spelled : ∀ flag ∈ raised, readArgument flags flag.long.toList = .ok (token flag))
    (unsigned : ∀ text ∈ texts, Unsigned text) :
    readArguments flags (raised.map (fun flag => flag.long.toList) ++ texts) =
      .ok (raised.map token ++ texts.map .operand) := by
  induction raised with
  | nil => exact read_arguments_of_unsigned unsigned
  | cons flag rest induction =>
      rw [List.forall_mem_cons] at spelled
      have inside : flag.long.toList ≠ ['-', '-'] := by
        cases flag <;> decide
      exact read_arguments_cons inside spelled.1 (induction spelled.2)

theorem take_one (first second : Text) (rest : List Token) :
    Arity.one.take? (.operand first :: .operand second :: rest) =
      some ([.operand first], .operand second :: rest) := by
  simp [Arity.take?, Token.isSeparator]

theorem take_last_one (text : Text) :
    Arity.one.take? [.operand text] = some ([.operand text], []) :=
  rfl

theorem take_rest (text : Text) (tokens : List Token) :
    Arity.rest.take? (.operand text :: tokens) = some (.operand text :: tokens, []) := by
  simp [Arity.take?, Token.isSeparator]

theorem take_many (first : Text) (others : List Text) :
    Arity.many.take? ((first :: others).map .operand) =
      some ((first :: others).map .operand, []) := by
  have operands : (others.map Token.operand).takeWhile (fun token => !token.isOption) =
      others.map .operand := by
    have all : ∀ token ∈ others.map Token.operand, (!token.isOption) = true := by
      intro token member
      obtain ⟨text, _, rfl⟩ := List.mem_map.mp member
      rfl
    simpa using @List.takeWhile_append_of_pos _ _ _ [] all
  simp [Arity.take?, Token.isSeparator, operands]

theorem texts_of_operands (texts : List Text) :
    (texts.map Token.operand).map Token.text = texts := by
  rw [List.map_map]
  exact List.map_id texts

theorem slot_operands_of_unsigned (slot : Slot) {texts : List Text}
    (unsigned : ∀ text ∈ texts, Unsigned text) :
    slot.operands (texts.map .operand) = texts := by
  have absent : ['-', '-'] ∉ texts := fun member => (unsigned _ member).not_separator rfl
  rw [Slot.operands, texts_of_operands]
  split
  · rfl
  · exact List.erase_of_not_mem absent

theorem slot_operand_of_unsigned (slot : Slot) {text : Text} (unsigned : Unsigned text) :
    slot.operands [.operand text] = [text] :=
  slot_operands_of_unsigned slot (List.forall_mem_singleton.mpr unsigned)

/-- An open slot takes what it can. -/
theorem read_tokens_into_slot {page : Page} {reading : Reading} {token : Token} {rest : List Token}
    {slot : Slot} {slots : List Slot} {taken behind : List Token}
    (noOption : token.isOption = false) (vacant : reading.slots = slot :: slots)
    (takes : slot.arity.take? (token :: rest) = some (taken, behind)) :
    readTokens page reading (token :: rest) =
      readTokens page
        { reading with filled := reading.filled ++ [slot.operands taken], slots } behind := by
  rw [readTokens, if_neg (by simp [noOption])]
  split
  · next closed =>
      rw [vacant] at closed
      cases closed
  · next other others here =>
      rw [vacant] at here
      obtain ⟨rfl, rfl⟩ := List.cons.inj here
      split
      · next refused =>
          rw [takes] at refused
          cases refused
      · next _ _ found =>
          rw [takes] at found
          cases found
          rfl

/-- Options that are raised are gathered in order. -/
theorem read_tokens_of_flags (page : Page) (reading : Reading) (rest : List Token)
    {raised : List Flag} (helpless : Flag.help ∉ raised) :
    readTokens page reading (raised.map (fun flag => .flag flag.long.toList flag none) ++ rest) =
      readTokens page { reading with flags := reading.flags ++ raised } rest := by
  induction raised generalizing reading with
  | nil => simp
  | cons flag others induction =>
      rw [List.mem_cons, not_or] at helpless
      have raises : takeOption page reading (.flag flag.long.toList flag none) =
          .ok { reading with flags := reading.flags ++ [flag] } := by
        rw [takeOption, raiseFlags, if_neg (by simpa using helpless.1)]
      have later := induction { reading with flags := reading.flags ++ [flag] } helpless.2
      rw [List.append_assoc] at later
      rw [List.map_cons, List.cons_append, readTokens, raises]
      exact later

end

/-- The page of the program leaves everything behind the command to the command. -/
theorem read_program {name : Text} {rest : List Text} {tokens : List Token}
    (unsigned : Unsigned name) (others : readArguments Page.program.flags rest = .ok tokens)
    (texts : tokens.map Token.text = rest) :
    readPage .program (name :: rest) = .ok ⟨[name :: rest], [], [], []⟩ := by
  have read := read_arguments_cons unsigned.not_separator
    (read_argument_of_unsigned unsigned) others
  rw [readPage, read]
  change readTokens .program ⟨[], Page.program.slots, [], []⟩ (.operand name :: tokens) = _
  rw [read_tokens_into_slot rfl rfl (take_rest name tokens), readTokens]
  change Except.ok (⟨[name :: tokens.map Token.text], [], [], []⟩ : Reading) = _
  rw [texts]

theorem read_invocation_of_command {command : Command} {rest : List Text} {reading : Reading}
    (program : readPage .program (command.name.toList :: rest) =
      .ok ⟨[command.name.toList :: rest], [], [], []⟩)
    (inner : readPage (.command command) rest = .ok reading) (full : reading.slots = [])
    (nothing : reading.leftOver = []) :
    readInvocation (command.name.toList :: rest) = .ok (command.invocation reading) := by
  have named : Command.ofName? command.name.toList = some command := by
    cases command <;> decide
  have read : readCommand command rest = .ok reading := by
    rw [readCommand, inner]
    simp [bind, Except.bind, full, pure, Except.pure]
  simp only [readInvocation, program, bind, Except.bind, Reading.operandsAt, List.getD_cons_zero,
    named, read, nothing]
  rfl

/-- A derivation is read with its options, if none of them asks for help, and with both
its texts. -/
theorem read_derivation {raised : List Flag} {source target : Text} (helpless : Flag.help ∉ raised)
    (unsigned : ∀ text ∈ [source, target], Unsigned text) :
    readInvocation
        ("diff".toList :: (raised.map (fun flag => flag.long.toList) ++ [source, target])) =
      .ok (.diff source (some target) raised) := by
  have unknown : ∀ flag ∈ raised, readArgument Page.program.flags flag.long.toList =
      .ok (.unknown flag.long.toList) := by
    intro flag member
    cases flag with
    | help => exact absurd member helpless
    | _ => rfl
  have known : ∀ flag ∈ raised, readArgument (Page.command .diff).flags flag.long.toList =
      .ok (.flag flag.long.toList flag none) := by
    intro flag _
    cases flag <;> rfl
  have program := @read_program "diff".toList _ _ nofun
    (read_arguments_behind_flags _ raised unknown unsigned) (by
      rw [List.map_append, texts_of_operands, List.map_map]
      rfl)
  have read := read_arguments_behind_flags _ raised known unsigned
  have inner : readPage (.command .diff)
      (raised.map (fun flag => flag.long.toList) ++ [source, target]) =
      .ok ⟨[[source], [target]], [], raised, []⟩ := by
    rw [List.forall_mem_cons, List.forall_mem_singleton] at unsigned
    rw [readPage, read]
    change readTokens _ _ _ = _
    rw [read_tokens_of_flags _ _ _ helpless, List.map_cons, List.map_singleton,
      read_tokens_into_slot rfl rfl (take_one source target []),
      read_tokens_into_slot rfl rfl (take_last_one target), readTokens,
      slot_operand_of_unsigned _ unsigned.1, slot_operand_of_unsigned _ unsigned.2]
    rfl
  exact @read_invocation_of_command .diff _ _ program inner rfl rfl

/-- An application is read with its text and all its operations, of which there has to
be one. -/
theorem read_application {text : Text} {operations : List Text} (some : operations ≠ [])
    (unsigned : ∀ argument ∈ text :: operations, Unsigned argument) :
    readInvocation ("apply".toList :: text :: operations) = .ok (.apply text operations) := by
  have program := @read_program "apply".toList _ _ nofun
    (read_arguments_of_unsigned unsigned) (texts_of_operands _)
  have inner : readPage (.command .apply) (text :: operations) =
      .ok ⟨[[text], operations], [], [], []⟩ := by
    obtain ⟨first, others, rfl⟩ := List.exists_cons_of_ne_nil some
    rw [readPage, read_arguments_of_unsigned unsigned]
    rw [List.forall_mem_cons] at unsigned
    change readTokens _ _ (.operand text :: .operand first :: others.map .operand) = _
    rw [read_tokens_into_slot rfl rfl (take_one text first _),
      read_tokens_into_slot rfl rfl (take_many first others), readTokens,
      slot_operand_of_unsigned _ unsigned.1, slot_operands_of_unsigned _ unsigned.2]
    rfl
  exact @read_invocation_of_command .apply _ _ program inner rfl rfl

end EditScript.Cli
