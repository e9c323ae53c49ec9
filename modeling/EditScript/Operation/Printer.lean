import EditScript.Operation.Basic
import EditScript.Text.Numeral

/-!
# The canonical notation

Every operation has one canonical notation: the description in quotation marks,
the coordinates, the operator with its operand, and the annotations. A length is
written only if it is more than one, and never for an insertion.
-/

namespace EditScript

def Kind.operator : Kind → Text
  | .delete => ['!']
  | .insert .before => ['+', '=']
  | .insert .after => ['=', '+']
  | .replace => ['=']
  | .move .before => ['>']
  | .move .after => ['-', '>']
  | .swap => ['<', '>']

namespace Notation

def inQuotes (text : Text) : Text :=
  '"' :: (text ++ ['"'])

/-- A description, which is left out if it is empty. -/
def description (text : Option Text) : Text :=
  match text with
  | none => []
  | some [] => []
  | some text => inQuotes text

def position (start : Int) : Text :=
  '@' :: Numeral.signed start

/-- A position with a length, which is left out unless it is more than one. -/
def coordinates (start length : Int) : Text :=
  if 1 < length then position start ++ 'x' :: Numeral.signed length
  else position start

def span (span : Span) : Text :=
  coordinates span.start span.length

def note (opening closing : Char) (note : Option Text) : Text :=
  match note with
  | none => []
  | some text => ' ' :: opening :: (text ++ [closing])

def tags (tags : List Text) : Text :=
  if tags.isEmpty then [] else ' ' :: '[' :: (Text.unwords tags ++ [']'])

end Notation

namespace Operation

/-- The coordinates of an operation; an insertion has a position only. -/
def writtenSpan (operation : Operation) : Text :=
  match operation.action with
  | .insert _ _ => Notation.position operation.span.start
  | _ => Notation.span operation.span

def operand (operation : Operation) : Text :=
  match operation.action with
  | .delete => []
  | .insert _ text => Notation.inQuotes text
  | .replace text => Notation.inQuotes text
  | .move _ target => Notation.position target
  | .swap other described => Notation.description described ++ Notation.span other

/-- Note and tags. A swap has its tags first and its note in braces. -/
def annotations (operation : Operation) : Text :=
  match operation.action with
  | .swap _ _ =>
    Notation.tags operation.tags ++
      Notation.note (Char.ofNat 123) (Char.ofNat 125) operation.note
  | _ => Notation.note '(' ')' operation.note ++ Notation.tags operation.tags

/-- The canonical notation of an operation. -/
def canonical (operation : Operation) : Text :=
  Notation.description operation.described ++ operation.writtenSpan ++
    operation.kind.operator ++ operation.operand ++ operation.annotations

def writtenNumbers (operation : Operation) : List Nat :=
  match operation.action with
  | .insert _ _ => [operation.span.start]
  | .move _ target => [operation.span.start, operation.span.length, target]
  | .swap other _ => [operation.span.start, operation.span.length, other.start, other.length]
  | _ => [operation.span.start, operation.span.length]

/-- Whether every number of the canonical notation stays within the limit on numerals. -/
def writable (operation : Operation) : Bool :=
  operation.writtenNumbers.all fun number => Numeral.writable number

end Operation

end EditScript
