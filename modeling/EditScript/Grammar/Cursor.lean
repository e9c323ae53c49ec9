import EditScript.Grammar.Literal

/-!
# Cursors

A cursor stands at an offset of a text and holds what is left of it. Each step
takes one token off the front, or finds none. Numerals are taken as long as they
go, and blanks are skipped as far as they go.
-/

namespace EditScript.Grammar

structure Capture where
  text : Text
  offset : Nat
  deriving DecidableEq, Repr

structure Cursor where
  offset : Nat
  rest : Text
  deriving DecidableEq, Repr

namespace Cursor

def advance (cursor : Cursor) (count : Nat) : Cursor :=
  ⟨cursor.offset + count, cursor.rest.drop count⟩

def skipBlanks (cursor : Cursor) : Cursor :=
  cursor.advance (cursor.rest.takeWhile Text.isBlank).length

def token? (token : Text) (cursor : Cursor) : Option Cursor :=
  if token.isPrefixOf cursor.rest then some (cursor.advance token.length) else none

def numeral? (cursor : Cursor) : Option (Capture × Cursor) :=
  let digits := cursor.rest.takeWhile Char.isDigit
  if digits.isEmpty then none
  else some (⟨digits, cursor.offset⟩, cursor.advance digits.length)

def quoted? (cursor : Cursor) : Option (Capture × Cursor) :=
  match cursor.rest with
  | '"' :: rest =>
    (splitAt? '"' rest).map fun (content, _) =>
      (⟨content, cursor.offset + 1⟩, cursor.advance (content.length + 2))
  | _ => none

/-- The signs in front of a length. -/
def isLengthSign (char : Char) : Bool :=
  char = 'x' || char = 'X' || char = '×'

/-- A length, if there is one, and the place behind it. -/
def length? (cursor : Cursor) : Option Capture × Cursor :=
  match cursor.rest with
  | sign :: _ =>
    if isLengthSign sign then
      match (cursor.advance 1).numeral? with
      | some (length, behind) => (some length, behind)
      | none => (none, cursor)
    else (none, cursor)
  | [] => (none, cursor)

def position? (cursor : Cursor) : Option (Capture × Cursor) := do
  let behind ← cursor.token? ['@']
  behind.numeral?

/-- A description, if there is one, and the place behind it and the blanks that
follow. A quotation mark that opens no quoted text is not passed over. -/
def description? (cursor : Cursor) : Option (Option Capture × Cursor) :=
  match cursor.rest with
  | '"' :: _ => (cursor.quoted?).map fun (content, behind) => (some content, behind.skipBlanks)
  | _ => some (none, cursor.skipBlanks)

end Cursor

end EditScript.Grammar
