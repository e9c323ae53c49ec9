import EditScript.Text.Numeral

/-!
# Whole numbers in fields

A numeral in a field of data is tidied if it cannot be read as it stands. White
space around it, a plus sign, leading zeros with the underscores among them,
zeros behind a point and single underscores between two characters are taken
away. A minus sign stands in front of the numeral or directly behind its leading
zeros. What is left has to be a plain numeral, written as numbers are written.
-/

namespace EditScript.Numeral

open Text

/-- What is left of a text behind leading zeros, where the last character of these
is given. It is needed in front of a point and at the end. -/
def behindZeros? (last : Char) : Text → Option Text
  | [] => some [last]
  | char :: rest =>
    if char = '0' || char = '_' then behindZeros? char rest
    else if char = '.' then some (last :: char :: rest)
    else if char = '-' || char.isDigit then some (char :: rest)
    else none

/-- A text that starts with a digit, without its leading zeros. -/
def withoutLeadingZeros? : Text → Option Text
  | [] => none
  | char :: rest =>
    if char = '0' then behindZeros? char rest
    else if char.isDigit then some (char :: rest)
    else none

/-- A text without its point, if one or more zeros and nothing else are behind it. -/
def withoutFraction (text : Text) : Text :=
  let whole := text.takeWhile (· != '.')
  let zeros := text.drop (whole.length + 1)
  if !zeros.isEmpty && zeros.all (· = '0') then whole else text

/-- A text without its underscores, if each of them is between two others. -/
def withoutUnderscores (text : Text) : Text :=
  if underscoresSeparate false text then text.filter (· != '_') else text

/-- The numeral that is left when a text has been tidied. -/
def tidied? (text : Text) : Option Text :=
  let (negative, unsigned) := splitSign (trim isPadding text)
  (withoutLeadingZeros? unsigned).map fun digits =>
    let plain := withoutUnderscores (withoutFraction digits)
    if negative then '-' :: plain else plain

/-- Reads a numeral without leading zeros, with a minus sign if it is negative.
Too many digits are reported before whatever follows them is looked at. -/
def readPlain (text : Text) : Except Fault Int :=
  let negative := text.head? = some '-'
  let unsigned := if negative then text.drop 1 else text
  let digits := unsigned.takeWhile Char.isDigit
  if digits.isEmpty || (digits.head? = some '0' && digits.length ≠ 1) then
    .error (.malformed text)
  else if digitLimit < digits.length then .error (.tooLong digits.length)
  else if digits.length < unsigned.length then .error (.malformed text)
  else .ok (applySign negative (ofDigits digits))

/-- Reads the whole number that a text in a field stands for. Only a text that is
read as it stands can be too long: one that has to be tidied and has too many
digits then is no numeral. -/
def readWhole (text : Text) : Except Fault Int :=
  match readPlain text with
  | .ok number => .ok number
  | .error (.tooLong digits) => .error (.tooLong digits)
  | .error _ =>
    match (tidied? text).map readPlain with
    | some (.ok number) => .ok number
    | _ => .error (.malformed text)

end EditScript.Numeral
