import EditScript.Operation.Range

/-!
# Executing an operation

The effect of an operation on a text, or the reason why its coordinates do not
fit. Spans are cut out of the text by `Text.head`, `Text.middle` and
`Text.tail`, which together are the text.
-/

namespace EditScript

namespace Text

def head (text : Text) (span : Span) : Text :=
  text.take (span.start - 1)

def middle (text : Text) (span : Span) : Text :=
  (text.drop (span.start - 1)).take span.length

def tail (text : Text) (span : Span) : Text :=
  text.drop (span.start - 1 + span.length)

theorem head_middle_tail (text : Text) (span : Span) :
    text.head span ++ text.middle span ++ text.tail span = text := by
  simp only [head, middle, tail, List.append_assoc]
  rw [← List.drop_drop, List.take_append_drop, List.take_append_drop]

/-- The text with a span exchanged for another text. -/
def splice (text : Text) (span : Span) (replacement : Text) : Text :=
  text.head span ++ replacement ++ text.tail span

end Text

/-- Where an inserted text goes: the number of characters in front of it. Position
zero is the front of the text for the one side and its end for the other. -/
def insertionIndex (side : Side) (start bound : Nat) : Nat :=
  match side, start with
  | .before, start => start - 1
  | .after, 0 => bound
  | .after, start => start

/-- Where a moved span goes: the number of remaining characters in front of it.
A target behind the span shifts left by the length of the span. -/
def relocationIndex (side : Side) (span : Span) (target : Nat) : Int :=
  let shifted : Int := if span.start < target then (target : Int) - span.length else target
  match side with
  | .before => shifted - 1
  | .after => shifted

/-- Exchanges two spans that do not overlap, the later one first, so that the
earlier one stays where it is. -/
def exchange (text : Text) (first second : Span) : Text :=
  if first.start < second.start then
    (text.splice second (text.middle first)).splice first (text.middle second)
  else
    (text.splice first (text.middle second)).splice second (text.middle first)

def Action.execute (action : Action) (span : Span) (text : Text) : Except RangeFault Text :=
  match action with
  | .delete => do
    span.check text.length
    return text.splice span []
  | .replace replacement => do
    span.check text.length
    return text.splice span replacement
  | .insert side inserted => do
    if span.start ≠ 0 then
      Span.check ⟨span.start, 1⟩ text.length
    let index := insertionIndex side span.start text.length
    return text.take index ++ inserted ++ text.drop index
  | .move side target => do
    span.check text.length
    Span.check ⟨target, 1⟩ text.length
    let rest := text.splice span []
    let index := relocationIndex side span target
    if index < 0 ∨ (rest.length : Int) < index then
      throw (.unreachable span target text.length)
    return rest.take index.toNat ++ text.middle span ++ rest.drop index.toNat
  | .swap other _ => do
    span.check text.length
    other.check text.length
    if span.overlaps other then
      throw (.overlapping span other text.length)
    return exchange text span other

def Operation.result (operation : Operation) (text : Text) : Except RangeFault Text :=
  operation.action.execute operation.span text

end EditScript
