import EditScript.Text.DecimalDigit
import EditScript.Text.Quoted

/-!
# Numerals

Decimal numerals and the limit on their length. Numbers have any size, but a
numeral of more than 4300 digits is neither read nor written. Leading zeros
count when a numeral is read, and a sign never counts.
-/

namespace EditScript.Numeral

open Text

def digitLimit : Nat := 4300

def decimal (number : Nat) : Text :=
  Nat.toDigits 10 number

def signed : Int → Text
  | .ofNat number => decimal number
  | .negSucc number => '-' :: decimal (number + 1)

/-- The numeral of an integer inside a message. -/
def shown (number : Int) : String :=
  String.ofList (signed number)

/-- Whether the numeral of a number stays within the limit. -/
def writable (number : Int) : Bool :=
  (decimal number.natAbs).length ≤ digitLimit

inductive Fault where
  | tooLong (digits : Nat)
  /-- The number has more digits than are written. -/
  | unwritable
  | malformed (text : Text)
  deriving DecidableEq, Repr

def limitNotice : String :=
  "Exceeds the limit (4300 digits) for integer string conversion"

def limitAdvice : String :=
  "; use sys.set_int_max_str_digits() to increase the limit"

/-- The most characters of a malformed text that its message shows. -/
def shownLimit : Nat := 200

def Fault.message : Fault → String
  | .tooLong digits =>
    limitNotice ++ ": value has " ++ shown digits ++ " digits" ++ limitAdvice
  | .unwritable => limitNotice ++ limitAdvice
  | .malformed text =>
    "invalid literal for int() with base 10: " ++
      String.ofList ((quoted text).take shownLimit)

/-- Whether underscores stand only between two digits. -/
def underscoresSeparate : (afterDigit : Bool) → Text → Bool
  | afterDigit, [] => afterDigit
  | afterDigit, char :: rest =>
    if char = '_' then afterDigit && underscoresSeparate false rest
    else underscoresSeparate true rest

def valueOf (digits : List Nat) : Nat :=
  digits.foldl (fun value digit => 10 * value + digit) 0

/-- Splits a sign off a numeral; the flag tells whether it is a minus. -/
def splitSign : Text → Bool × Text
  | '-' :: rest => (true, rest)
  | '+' :: rest => (false, rest)
  | text => (false, text)

def applySign (negative : Bool) (number : Nat) : Int :=
  if negative then -(number : Int) else number

/-- Reads a number: white space around it, one sign, decimal digits of any
script, and single underscores between digits. Too many digits are reported
before whatever follows them is looked at. -/
def read (text : Text) : Except Fault Int :=
  let (negative, unsigned) := splitSign (text.dropWhile isPadding)
  let inBody := fun char => (digitValue? char).isSome || char = '_'
  let body := unsigned.takeWhile inBody
  let digits := body.filterMap digitValue?
  if !underscoresSeparate false body then .error (.malformed text)
  else if digitLimit < digits.length then .error (.tooLong digits.length)
  else if !(unsigned.dropWhile inBody).all isPadding then .error (.malformed text)
  else .ok (applySign negative (valueOf digits))

def ofDigits (digits : Text) : Nat :=
  Nat.ofDigitChars 10 digits 0

theorem ofDigits_decimal (number : Nat) : ofDigits (decimal number) = number :=
  Nat.ofDigitChars_toDigits (by decide) (by decide)

theorem isDigit_of_mem_decimal {number : Nat} {char : Char} (member : char ∈ decimal number) :
    char.isDigit = true :=
  Nat.isDigit_of_mem_toDigits (by decide) (by decide) member

end EditScript.Numeral
