import EditScript.Json.Value

/-!
# Writing data

A value as text: one element or member a line, two spaces of indentation a
level. Inside a string the quotation mark, the backslash and the controls are
escaped; every other character stands for itself.
-/

namespace EditScript.Json

def writtenChar (char : Char) : Text :=
  if char = Text.quotationMark || char = '\\' then ['\\', char]
  else if char = '\n' then ['\\', 'n']
  else if char = '\r' then ['\\', 'r']
  else if char = '\t' then ['\\', 't']
  else if char.toNat = 8 then ['\\', 'b']
  else if char.toNat = 12 then ['\\', 'f']
  else if char.toNat < 0x20 then ['\\', 'u'] ++ Text.hexadecimal 4 char.toNat
  else [char]

def writtenString (text : Text) : Text :=
  Text.quotationMark :: (text.flatMap writtenChar ++ [Text.quotationMark])

def newLine (level : Nat) : Text :=
  '\n' :: Text.spaces (2 * level)

/-- The number of a decimal fraction, with an exponent. -/
def writtenReal (number : Decimal) : Text :=
  (if number.negative then ['-'] else []) ++ Numeral.decimal number.mantissa ++
    'e' :: Numeral.signed number.exponent

mutual

def Value.written (level : Nat) : Value → Text
  | .null => "null".toList
  | .bool true => "true".toList
  | .bool false => "false".toList
  | .integer number => Numeral.signed number
  | .real number => writtenReal number
  | .string text => writtenString text
  | .array [] => ['[', ']']
  | .array (element :: rest) =>
    '[' :: (newLine (level + 1) ++ element.written (level + 1) ++
      writtenElements level rest ++ newLine level ++ [']'])
  | .object [] => [Char.ofNat 123, Char.ofNat 125]
  | .object ((name, value) :: rest) =>
    Char.ofNat 123 :: (newLine (level + 1) ++ writtenString name ++ [':', ' '] ++
      value.written (level + 1) ++ writtenMembers level rest ++ newLine level ++
      [Char.ofNat 125])

/-- The elements after the first one. -/
def writtenElements (level : Nat) : List Value → Text
  | [] => []
  | element :: rest =>
    ',' :: (newLine (level + 1) ++ element.written (level + 1) ++ writtenElements level rest)

/-- The members after the first one. -/
def writtenMembers (level : Nat) : List (Text × Value) → Text
  | [] => []
  | (name, value) :: rest =>
    ',' :: (newLine (level + 1) ++ writtenString name ++ [':', ' '] ++
      value.written (level + 1) ++ writtenMembers level rest)

end

def write (value : Value) : Text :=
  value.written 0

end EditScript.Json
