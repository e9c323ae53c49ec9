import EditScript.Text.Basic

/-!
# Literal regions

Quoted text, notes and tag lists are literal: nothing in them is an operator or
a coordinate. A text is read from left to right as a sequence of pieces, each a
literal region or a single character. A region runs from its opening delimiter
to the next closing one of its own form, and an opening delimiter that is never
closed is an ordinary character. The pieces of a text spell the text, so masking
some of them with spaces keeps every offset.
-/

namespace EditScript.Grammar

inductive Delimiter where
  | quotes
  | parentheses
  | braces
  | brackets
  deriving DecidableEq, Repr

namespace Delimiter

def opening : Delimiter → Char
  | quotes => '"'
  | parentheses => '('
  | braces => Char.ofNat 123
  | brackets => '['

def closing : Delimiter → Char
  | quotes => '"'
  | parentheses => ')'
  | braces => Char.ofNat 125
  | brackets => ']'

def ofOpening? (char : Char) : Option Delimiter :=
  [quotes, parentheses, braces, brackets].find? fun delimiter => delimiter.opening == char

theorem ofOpening_opening (delimiter : Delimiter) :
    ofOpening? delimiter.opening = some delimiter := by
  cases delimiter <;> decide

theorem opening_of_ofOpening {char : Char} {delimiter : Delimiter}
    (found : ofOpening? char = some delimiter) : delimiter.opening = char := by
  have satisfied := List.find?_some found
  simpa using satisfied

end Delimiter

/-- A text up to the first occurrence of a character, and from behind it on. -/
def splitAt? (char : Char) : Text → Option (Text × Text)
  | [] => none
  | first :: rest =>
    if first = char then some ([], rest)
    else (splitAt? char rest).map fun (front, back) => (first :: front, back)

theorem eq_of_splitAt {char : Char} {text front back : Text}
    (split : splitAt? char text = some (front, back)) : text = front ++ char :: back := by
  induction text generalizing front with
  | nil => simp [splitAt?] at split
  | cons first rest induction =>
    by_cases same : first = char
    · simp only [splitAt?, same, if_true, Option.some.injEq, Prod.mk.injEq] at split
      obtain ⟨rfl, rfl⟩ := split
      simp [same]
    · simp only [splitAt?, same, if_false, Option.map_eq_some_iff] at split
      obtain ⟨⟨inner, outer⟩, found, equal⟩ := split
      simp only [Prod.mk.injEq] at equal
      obtain ⟨rfl, rfl⟩ := equal
      simp [induction found]

theorem not_mem_of_splitAt {char : Char} {text front back : Text}
    (split : splitAt? char text = some (front, back)) : char ∉ front := by
  induction text generalizing front with
  | nil => simp [splitAt?] at split
  | cons first rest induction =>
    by_cases same : first = char
    · simp only [splitAt?, same, if_true, Option.some.injEq, Prod.mk.injEq] at split
      simp [← split.1]
    · simp only [splitAt?, same, if_false, Option.map_eq_some_iff] at split
      obtain ⟨⟨inner, outer⟩, found, equal⟩ := split
      simp only [Prod.mk.injEq] at equal
      obtain ⟨rfl, rfl⟩ := equal
      simp [induction found, Ne.symm same]

theorem splitAt_append {char : Char} {front : Text} (outside : char ∉ front) (back : Text) :
    splitAt? char (front ++ char :: back) = some (front, back) := by
  induction front with
  | nil => simp [splitAt?]
  | cons first rest induction =>
    simp only [List.mem_cons, not_or] at outside
    simp [splitAt?, Ne.symm outside.1, induction outside.2]

inductive Piece where
  | plain (char : Char)
  | literal (delimiter : Delimiter) (content : Text)
  deriving DecidableEq, Repr

/-- The region that a character opens in front of a text, and the text behind it. -/
def region? (char : Char) (rest : Text) : Option (Delimiter × Text × Text) :=
  match Delimiter.ofOpening? char with
  | none => none
  | some delimiter =>
    (splitAt? delimiter.closing rest).map fun (content, behind) => (delimiter, content, behind)

theorem eq_of_region {char : Char} {rest content behind : Text} {delimiter : Delimiter}
    (found : region? char rest = some (delimiter, content, behind)) :
    char = delimiter.opening ∧ rest = content ++ delimiter.closing :: behind := by
  unfold region? at found
  split at found
  · simp at found
  · next form opened =>
    simp only [Option.map_eq_some_iff, Prod.mk.injEq] at found
    obtain ⟨⟨front, back⟩, split, rfl, rfl, rfl⟩ := found
    exact ⟨(Delimiter.opening_of_ofOpening opened).symm, eq_of_splitAt split⟩

def pieces : Text → List Piece
  | [] => []
  | char :: rest =>
    match _found : region? char rest with
    | some (delimiter, content, behind) => .literal delimiter content :: pieces behind
    | none => .plain char :: pieces rest
termination_by text => text.length
decreasing_by
  · have shape := (eq_of_region _found).2
    subst shape
    simp
    omega
  · simp

namespace Piece

def text : Piece → Text
  | plain char => [char]
  | literal delimiter content => delimiter.opening :: (content ++ [delimiter.closing])

def withoutLiterals : Piece → Text
  | plain char => [char]
  | literal _ content => Text.spaces (content.length + 2)

def withoutAnnotations : Piece → Text
  | literal .quotes content => (literal .quotes content).text
  | piece => piece.withoutLiterals

end Piece

theorem flatMap_text_pieces (text : Text) : (pieces text).flatMap Piece.text = text := by
  fun_induction pieces text with
  | case1 => rfl
  | case2 char rest delimiter content behind found induction =>
    obtain ⟨rfl, shape⟩ := eq_of_region found
    simp [Piece.text, induction, shape]
  | case3 char rest found induction => simp [Piece.text, induction]

/-- The text with every literal region blanked out. -/
def maskLiterals (text : Text) : Text :=
  (pieces text).flatMap Piece.withoutLiterals

/-- The text with notes and tag lists blanked out. -/
def maskAnnotations (text : Text) : Text :=
  (pieces text).flatMap Piece.withoutAnnotations

/-- The content of the first region of one of the given forms. -/
def firstRegion? (forms : List Delimiter) (text : Text) : Option Text :=
  (pieces text).findSome? fun
    | .literal delimiter content => if delimiter ∈ forms then some content else none
    | .plain _ => none

/-- The note of a text: its first region in parentheses or braces, without the
blanks at the ends. A blank note is none, and no later region takes its place. -/
def note? (text : Text) : Option Text :=
  (firstRegion? [.parentheses, .braces] text).bind fun content =>
    if (Text.strip content).isEmpty then none else some (Text.strip content)

/-- The tags of a text: the words of its first region in brackets. -/
def tags (text : Text) : List Text :=
  match firstRegion? [.brackets] text with
  | none => []
  | some content => Text.words content

def firstLiteral? : (offset : Nat) → List Piece → Option (Nat × Nat)
  | _, [] => none
  | offset, .plain _ :: rest => firstLiteral? (offset + 1) rest
  | offset, .literal _ content :: _ => some (offset, offset + content.length + 2)

end EditScript.Grammar
