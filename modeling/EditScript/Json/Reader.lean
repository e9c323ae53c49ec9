import EditScript.Json.Value

/-!
# Reading data

The reader of the data format. Each step takes what it reads off the front of a
text and returns the rest. Values nest, so the reader counts its steps: a value
and a list of values take one step each, and both start with a character of
their own, so `read?` allows two steps a character.
-/

namespace EditScript.Json

def isGap (char : Char) : Bool :=
  char = ' ' || char = '\n' || char = '\r' || char = '\t'

def skipGap (text : Text) : Text :=
  text.dropWhile isGap

def hexValue? (char : Char) : Option Nat :=
  let code := char.toNat
  if 48 ≤ code && code ≤ 57 then some (code - 48)
  else if 97 ≤ code && code ≤ 102 then some (code - 87)
  else if 65 ≤ code && code ≤ 70 then some (code - 55)
  else none

def codeUnit? : Text → Option (Nat × Text)
  | first :: second :: third :: fourth :: rest => do
    let a ← hexValue? first
    let b ← hexValue? second
    let c ← hexValue? third
    let d ← hexValue? fourth
    some (4096 * a + 256 * b + 16 * c + d, rest)
  | _ => none

/-- The character of a code unit that has been read; the first half of a pair
needs the second one behind it. -/
def charOfUnit? (unit : Nat) (rest : Text) : Option (Char × Text) :=
  if 0xD800 ≤ unit && unit ≤ 0xDBFF then
    match rest with
    | '\\' :: 'u' :: behind => do
      let (low, after) ← codeUnit? behind
      if 0xDC00 ≤ low && low ≤ 0xDFFF then
        some (Char.ofNat (0x10000 + 0x400 * (unit - 0xD800) + (low - 0xDC00)), after)
      else none
    | _ => none
  else if 0xDC00 ≤ unit && unit ≤ 0xDFFF then none
  else some (Char.ofNat unit, rest)

/-- The character that an escape stands for, from behind its backslash. -/
def escape? : Text → Option (Char × Text)
  | 'u' :: rest => do
    let (unit, behind) ← codeUnit? rest
    charOfUnit? unit behind
  | 'n' :: rest => some ('\n', rest)
  | 'r' :: rest => some ('\r', rest)
  | 't' :: rest => some ('\t', rest)
  | 'b' :: rest => some (Char.ofNat 8, rest)
  | 'f' :: rest => some (Char.ofNat 12, rest)
  | '/' :: rest => some ('/', rest)
  | '\\' :: rest => some ('\\', rest)
  | char :: rest => if char = Text.quotationMark then some (char, rest) else none
  | [] => none

def stringBody? : (steps : Nat) → Text → Option (Text × Text)
  | 0, _ => none
  | _ + 1, [] => none
  | steps + 1, char :: rest =>
    if char = Text.quotationMark then some ([], rest)
    else if char = '\\' then do
      let (meant, behind) ← escape? rest
      let (body, after) ← stringBody? steps behind
      some (meant :: body, after)
    else if char.toNat < 0x20 then none
    else do
      let (body, after) ← stringBody? steps rest
      some (char :: body, after)

/-- The digits at the front of a text, of which there must be one. -/
def digits? (text : Text) : Option (Text × Text) :=
  match text.takeWhile Char.isDigit with
  | [] => none
  | digits => some (digits, text.dropWhile Char.isDigit)

/-- The digits behind a point; without a point there are none. -/
def fraction? : Text → Option (Text × Text)
  | '.' :: rest => digits? rest
  | text => some ([], text)

/-- The exponent behind its letter; without a letter there is none. -/
def exponent? : Text → Option (Option Int × Text)
  | char :: rest =>
    if char = 'e' || char = 'E' then do
      let (negative, unsigned) := Numeral.splitSign rest
      let (digits, after) ← digits? unsigned
      some (some (Numeral.applySign negative (Numeral.ofDigits digits)), after)
    else some (none, char :: rest)
  | [] => some (none, [])

/-- A number. It is whole if it is written without point and exponent. -/
def number? (text : Text) : Option (Value × Text) := do
  let (negative, unsigned) := match text with
    | '-' :: rest => (true, rest)
    | _ => (false, text)
  let (whole, afterWhole) ← digits? unsigned
  if 1 < whole.length && whole.head? == some '0' then none
  let (fraction, afterFraction) ← fraction? afterWhole
  let (exponent, rest) ← exponent? afterFraction
  if fraction.isEmpty && exponent.isNone then
    some (.integer (Numeral.applySign negative (Numeral.ofDigits whole)), rest)
  else
    some (.real ⟨negative, Numeral.ofDigits (whole ++ fraction),
      exponent.getD 0 - fraction.length⟩, rest)

def keyword? (text : Text) : Option (Value × Text) :=
  match text with
  | 'n' :: 'u' :: 'l' :: 'l' :: rest => some (.null, rest)
  | 't' :: 'r' :: 'u' :: 'e' :: rest => some (.bool true, rest)
  | 'f' :: 'a' :: 'l' :: 's' :: 'e' :: rest => some (.bool false, rest)
  | _ => none

mutual

def value? : (steps : Nat) → Text → Option (Value × Text)
  | 0, _ => none
  | steps + 1, text =>
    match skipGap text with
    | [] => none
    | char :: rest =>
      if char = Text.quotationMark then do
        let (body, after) ← stringBody? steps rest
        some (.string body, after)
      else if char = '[' then
        match skipGap rest with
        | ']' :: after => some (.array [], after)
        | _ => do
          let (elements, after) ← elements? steps rest
          some (.array elements, after)
      else if char = Char.ofNat 123 then
        match skipGap rest with
        | next :: after =>
          if next = Char.ofNat 125 then some (.object [], after)
          else do
            let (members, behind) ← members? steps [] rest
            some (.object members, behind)
        | [] => none
      else match keyword? (char :: rest) with
        | some result => some result
        | none => number? (char :: rest)

/-- The elements of an array up to its closing bracket, of which there is one. -/
def elements? : (steps : Nat) → Text → Option (List Value × Text)
  | 0, _ => none
  | steps + 1, text => do
    let (element, after) ← value? steps text
    match skipGap after with
    | ',' :: rest => do
      let (elements, behind) ← elements? steps rest
      some (element :: elements, behind)
    | ']' :: rest => some ([element], rest)
    | _ => none

/-- The members of an object up to its closing brace, added to earlier ones. -/
def members? : (steps : Nat) → Members → Text → Option (Members × Text)
  | 0, _, _ => none
  | steps + 1, earlier, text => do
    match skipGap text with
    | mark :: body =>
      if mark = Text.quotationMark then do
        let (name, behind) ← stringBody? steps body
        match skipGap behind with
        | ':' :: rest => do
          let (value, after) ← value? steps rest
          match skipGap after with
          | ',' :: others => members? steps (put name value earlier) others
          | next :: others =>
            if next = Char.ofNat 125 then some (put name value earlier, others) else none
          | [] => none
        | _ => none
      else none
    | [] => none

end

/-- The value that a text writes, with nothing but gaps around it. -/
def read? (text : Text) : Option Value := do
  let (value, rest) ← value? (2 * text.length + 2) text
  if (skipGap rest).isEmpty then some value else none

end EditScript.Json
