import EditScript.Text.Basic

/-!
# Edit operations

An operation is one edit of a text: it deletes, replaces, moves or swaps a span
of characters, or inserts text beside a character. Positions count from one, and
an insertion may also stand at position zero. The operation can describe the
text that it affects and carry a note and tags; none of these changes its effect.
-/

namespace EditScript

inductive Side where
  | before
  | after
  deriving DecidableEq, Repr

inductive Kind where
  | delete
  | insert (side : Side)
  | replace
  | move (side : Side)
  | swap
  deriving DecidableEq, Repr

structure Span where
  start : Nat
  length : Nat
  deriving DecidableEq, Repr

/-- What an operation does, apart from the span that it starts from. -/
inductive Action where
  | delete
  /-- Puts a text beside the start of the span, or beside the whole text if the
  start is zero. -/
  | insert (side : Side) (text : Text)
  | replace (text : Text)
  | move (side : Side) (target : Nat)
  | swap (other : Span) (described : Option Text)
  deriving DecidableEq, Repr

structure Operation where
  /-- The text that the span is said to hold. -/
  described : Option Text
  span : Span
  note : Option Text
  tags : List Text
  action : Action
  deriving DecidableEq, Repr

/-- A sequence of operations, each to be executed on the result of the one before. -/
abbrev Script := List Operation

def Action.kind : Action → Kind
  | .delete => .delete
  | .insert side _ => .insert side
  | .replace _ => .replace
  | .move side _ => .move side
  | .swap _ _ => .swap

namespace Kind

/-- All kinds, in the order in which they are listed to users. -/
def all : List Kind :=
  [.delete, .insert .before, .insert .after, .replace, .move .before, .move .after, .swap]

def words : Kind → List String
  | .delete => ["delete"]
  | .insert .before => ["insert", "before"]
  | .insert .after => ["insert", "after"]
  | .replace => ["replace"]
  | .move .before => ["move", "before"]
  | .move .after => ["move", "after"]
  | .swap => ["swap"]

/-- The name of a kind in data. -/
def name (kind : Kind) : String :=
  "_".intercalate kind.words

/-- The name of a kind in messages about its notation. -/
def label (kind : Kind) : String :=
  "-".intercalate kind.words

def ofName? (name : Text) : Option Kind :=
  all.find? fun kind => kind.name.toList == name

theorem mem_all (kind : Kind) : kind ∈ all := by
  rcases kind with _ | side | _ | side | _ <;> first | decide | (cases side <;> decide)

def leastPosition : Kind → Nat
  | .insert _ => 0
  | _ => 1

end Kind

namespace Operation

def kind (operation : Operation) : Kind :=
  operation.action.kind

/-- The text that an operation puts into its result, if it brings one along. -/
def introduced (operation : Operation) : Option Text :=
  match operation.action with
  | .insert _ text => some text
  | .replace text => some text
  | _ => none

def plain (described : Option Text) (span : Span) (action : Action) : Operation :=
  { described, span, note := none, tags := [], action }

end Operation

def Described (text : Option Text) : Prop :=
  text ≠ some []

/-- A note has no blanks at its ends and is never empty. -/
def Noted (note : Option Text) : Prop :=
  ∀ text, note = some text → text ≠ [] ∧ Text.strip text = text

/-- A tag is a word without brackets. -/
def isTag (tag : Text) : Bool :=
  !tag.isEmpty && tag.all fun char => !Text.isBlank char && char != '[' && char != ']'

theorem tag_iff {tag : Text} : isTag tag = true ↔
    tag ≠ [] ∧ ∀ char ∈ tag, Text.isBlank char = false ∧ char ≠ '[' ∧ char ≠ ']' := by
  simp [isTag, and_assoc]

/-- The coordinates of an action besides its span are positions and lengths. -/
def Action.Valid : Action → Prop
  | .move _ target => 1 ≤ target
  | .swap other described => 1 ≤ other.start ∧ 1 ≤ other.length ∧ Described described
  | _ => True

/-- What holds of every operation that is parsed, read from data or derived. -/
structure Operation.Valid (operation : Operation) : Prop where
  described : Described operation.described
  start : operation.kind.leastPosition ≤ operation.span.start
  length : 1 ≤ operation.span.length
  note : Noted operation.note
  tags : ∀ tag ∈ operation.tags, isTag tag = true
  action : operation.action.Valid

end EditScript
