import EditScript.Json.Decimal

/-!
# Values of the data format

Structured data as it is exchanged: null, truth values, numbers, texts, arrays
and objects. An object keeps its members in order, under distinct names. Whole
numbers are told apart from numbers written with a point or an exponent.
-/

namespace EditScript.Json

inductive Value where
  | null
  | bool (value : Bool)
  | integer (value : Int)
  | real (value : Decimal)
  | string (value : Text)
  | array (elements : List Value)
  | object (members : List (Text × Value))
  deriving Inhabited, Repr

abbrev Members := List (Text × Value)

def lookup? (name : Text) (members : Members) : Option Value :=
  (members.find? fun member => member.1 == name).map (·.2)

/-- Puts a value under a name: in the place of an earlier value, or at the end. -/
def put (name : Text) (value : Value) : Members → Members
  | [] => [(name, value)]
  | member :: rest =>
    if member.1 = name then (name, value) :: rest else member :: put name value rest

def ofText? : Option Text → Value
  | none => .null
  | some text => .string text

mutual

/-- A value as it is shown inside a message. -/
def Value.shown : Value → Text
  | .null => "None".toList
  | .bool true => "True".toList
  | .bool false => "False".toList
  | .integer number => Numeral.signed number
  | .real number => number.worth.text
  | .string text => Text.quoted text
  | .array elements => '[' :: (shownElements elements ++ [']'])
  | .object members => Char.ofNat 123 :: (shownMembers members ++ [Char.ofNat 125])

def shownElements : List Value → Text
  | [] => []
  | [element] => element.shown
  | element :: rest => element.shown ++ [',', ' '] ++ shownElements rest

def shownMembers : List (Text × Value) → Text
  | [] => []
  | [(name, value)] => Text.quoted name ++ [':', ' '] ++ value.shown
  | (name, value) :: rest =>
    Text.quoted name ++ [':', ' '] ++ value.shown ++ [',', ' '] ++ shownMembers rest

end

mutual

/-- Whether every whole number of a value stays within the limit on numerals. -/
def Value.writable : Value → Bool
  | .integer number => Numeral.writable number
  | .array elements => writableElements elements
  | .object members => writableMembers members
  | _ => true

def writableElements : List Value → Bool
  | [] => true
  | element :: rest => element.writable && writableElements rest

def writableMembers : List (Text × Value) → Bool
  | [] => true
  | (_, value) :: rest => value.writable && writableMembers rest

end

end EditScript.Json
