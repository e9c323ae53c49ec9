import EditScript.Text.Numeral

/-!
# Decimal fractions and their nearest binary fractions

A number written with a point or an exponent is kept as it is written. What it
is worth is the nearest fraction with a significand of at most 53 bits, a tie
going to the even one; values of `2 ^ 1024` and more are infinite. A value is
shown by the fewest digits that are worth the same.
-/

namespace EditScript.Json

/-- The number `± mantissa * 10 ^ exponent`, as it is written. -/
structure Decimal where
  negative : Bool
  mantissa : Nat
  exponent : Int
  deriving DecidableEq, Repr

/-- What a written number is worth: `± significand * 2 ^ exponent`, or an infinity. -/
inductive Worth where
  | finite (negative : Bool) (significand : Nat) (exponent : Int)
  | infinite (negative : Bool)
  deriving DecidableEq, Repr

/-- The quotient rounded to the nearest whole number, a tie to the even one. -/
def roundToEven (dividend divisor : Nat) : Nat :=
  let quotient := dividend / divisor
  let twice := 2 * (dividend % divisor)
  if twice < divisor then quotient
  else if divisor < twice then quotient + 1
  else quotient + quotient % 2

/-- Whether `2 ^ exponent ≤ dividend / divisor`. -/
def reachesPower (dividend divisor : Nat) (exponent : Int) : Bool :=
  divisor * Nat.pow 2 exponent.toNat ≤ dividend * Nat.pow 2 (-exponent).toNat

def nearestBinary (dividend divisor : Nat) : Nat × Int :=
  let guess : Int := (Nat.log2 dividend : Int) - Nat.log2 divisor
  let magnitude := if reachesPower dividend divisor guess then guess else guess - 1
  let exponent := max (magnitude - 52) (-1074)
  let significand :=
    roundToEven (dividend * Nat.pow 2 (-exponent).toNat) (divisor * Nat.pow 2 exponent.toNat)
  if significand = Nat.pow 2 53 then (Nat.pow 2 52, exponent + 1) else (significand, exponent)

/-- The value of a positive decimal fraction, if it is finite. Numbers far from
the range of finite values are settled by their magnitude alone. -/
def nearestFinite? (mantissa : Nat) (exponent : Int) : Option (Nat × Int) :=
  let magnitude := (Numeral.decimal mantissa).length + exponent
  if mantissa = 0 || magnitude < -400 then some (0, 0)
  else if 400 < magnitude then none
  else
    let (significand, power) :=
      nearestBinary (mantissa * Nat.pow 10 exponent.toNat) (Nat.pow 10 (-exponent).toNat)
    if reachesPower (significand * Nat.pow 2 power.toNat) (Nat.pow 2 (-power).toNat) 1024 then none
    else some (significand, power)

def Decimal.worth (number : Decimal) : Worth :=
  match nearestFinite? number.mantissa number.exponent with
  | none => .infinite number.negative
  | some (significand, exponent) => .finite number.negative significand exponent

/-- The decimal exponent of a positive quotient: the power of ten of its first digit. -/
def decimalMagnitude (dividend divisor : Nat) : Int :=
  if divisor ≤ dividend then ((Numeral.decimal (dividend / divisor)).length : Int) - 1
  else
    match (List.range 400).find? fun shift => divisor ≤ dividend * Nat.pow 10 shift with
    | some shift => -(shift : Int)
    | none => -400

/-- Of the two neighbours of a positive value on the grid of a given number of
digits, the nearer one that is worth the same. The result is the digits as a
whole number and its power of ten. -/
def shortestOn (significand : Nat) (exponent : Int) (places : Nat) : Option (Nat × Int) :=
  let dividend := significand * Nat.pow 2 exponent.toNat
  let divisor := Nat.pow 2 (-exponent).toNat
  let grid := decimalMagnitude dividend divisor - places + 1
  let scaled := dividend * Nat.pow 10 (-grid).toNat
  let unit := divisor * Nat.pow 10 grid.toNat
  let lower := scaled / unit
  let nearer := roundToEven scaled unit
  let farther := if nearer = lower then lower + 1 else lower
  let worthSame := fun digits : Nat => nearestFinite? digits grid == some (significand, exponent)
  if worthSame nearer then some (nearer, grid)
  else if worthSame farther then some (farther, grid)
  else none

def shortestDigits (significand : Nat) (exponent : Int) : Nat × Int :=
  let grids := (List.range 17).filterMap fun index =>
    shortestOn significand exponent (index + 1)
  grids.headD (0, 0)

/-- Digits with a decimal point after the given number of them, zeros being
added where there are none. -/
def positional (digits : Text) (point : Int) : Text :=
  if point ≤ 0 then ['0', '.'] ++ List.replicate (-point).toNat '0' ++ digits
  else if digits.length ≤ point.toNat then
    digits ++ List.replicate (point.toNat - digits.length) '0' ++ ['.', '0']
  else digits.take point.toNat ++ '.' :: digits.drop point.toNat

/-- Digits with a point after the first of them and an exponent of at least two places. -/
def scientific (digits : Text) (exponent : Int) : Text :=
  let fraction := digits.drop 1
  let places := Numeral.decimal exponent.natAbs
  digits.take 1 ++ (if fraction.isEmpty then [] else '.' :: fraction) ++
    ['e', if exponent < 0 then '-' else '+'] ++
    List.replicate (2 - places.length) '0' ++ places

/-- The text of a value. Positional notation is used from `0.0001` up to, but
not including, `10 ^ 16`. -/
def Worth.text : Worth → Text
  | .infinite negative => if negative then "-inf".toList else "inf".toList
  | .finite negative significand exponent =>
    let sign := if negative then ['-'] else []
    if significand = 0 then sign ++ "0.0".toList
    else
      let (number, grid) := shortestDigits significand exponent
      let written := Numeral.decimal number
      let digits := (written.reverse.dropWhile (· = '0')).reverse
      let point : Int := written.length + grid
      sign ++ if -4 < point && point ≤ 16 then positional digits point
        else scientific digits (point - 1)

def wholeNumber? (negative : Bool) (significand : Nat) (exponent : Int) : Option Int :=
  let divisor := Nat.pow 2 (-exponent).toNat
  if significand % divisor = 0 then
    some (Numeral.applySign negative (significand / divisor * Nat.pow 2 exponent.toNat))
  else none

end EditScript.Json
