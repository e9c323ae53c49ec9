import EditScript.Operation.Printer

/-!
# Coordinates and the texts they refer to

A span fits a text if it starts at one of its characters and ends within it.
This module holds that check and every way in which coordinates can be at fault:
against a text, or on their own when they are below what they may be.
-/

namespace EditScript

inductive Coordinate where
  | position
  | length
  | target
  | secondPosition
  | secondLength
  deriving DecidableEq, Repr

def Coordinate.label : Coordinate → String
  | .position => "Position"
  | .length => "Length"
  | .target => "Target position"
  | .secondPosition => "Second position"
  | .secondLength => "Second length"

def Coordinate.isLength : Coordinate → Bool
  | .length => true
  | .secondLength => true
  | _ => false

def requirement (label : String) (least : Int) : String :=
  label ++ " must be a " ++ (if 0 < least then "positive" else "non-negative") ++ " integer"

inductive RangeFault where
  | tooSmall (coordinate : Coordinate) (least : Nat) (value : Int)
  /-- A span starts outside the text. -/
  | outside (start length : Int) (bound : Nat)
  /-- A span runs past the end of the text. -/
  | overrun (start length : Int) (bound : Nat)
  /-- A moved span does not fit beside its target. -/
  | unreachable (span : Span) (target bound : Nat)
  | overlapping (first second : Span) (bound : Nat)
  deriving DecidableEq, Repr

namespace RangeFault

def message : RangeFault → String
  | tooSmall coordinate least value =>
    requirement coordinate.label least ++ ", got " ++ Numeral.shown value
  | outside start _ bound =>
    "Position " ++ Numeral.shown start ++ " is out of range for input string of length " ++ Numeral.shown bound
  | overrun start length bound =>
    "Length " ++ Numeral.shown length ++ " at position " ++ Numeral.shown start ++
      " exceeds input string length " ++ Numeral.shown bound
  | unreachable span target _ =>
    "Target position " ++ Numeral.shown target ++ " cannot receive " ++ Numeral.shown span.length ++
      " character(s) moved from position " ++ Numeral.shown span.start
  | overlapping first second _ =>
    "Swap spans " ++ String.ofList (Notation.span first) ++ " and " ++
      String.ofList (Notation.span second) ++ " overlap"

def position? : RangeFault → Option Int
  | tooSmall coordinate _ value => if coordinate.isLength then none else some value
  | outside start _ _ => some start
  | overrun start _ _ => some start
  | unreachable _ target _ => some target
  | overlapping _ second _ => some second.start

/-- The length that is at fault, or that goes with the position. -/
def length? : RangeFault → Option Int
  | tooSmall coordinate _ value => if coordinate.isLength then some value else none
  | outside _ length _ => some length
  | overrun _ length _ => some length
  | unreachable span _ _ => some span.length
  | overlapping _ second _ => some second.length

/-- The length of the text that the coordinates were checked against. -/
def bound? : RangeFault → Option Nat
  | tooSmall _ _ _ => none
  | outside _ _ bound => some bound
  | overrun _ _ bound => some bound
  | unreachable _ _ bound => some bound
  | overlapping _ _ bound => some bound

/-- The given numbers that the message of a fault shows. The length of a text is
not among them. -/
def writtenNumbers : RangeFault → List Int
  | tooSmall _ _ value => [value]
  | outside start _ _ => [start]
  | overrun start length _ => [start, length]
  | unreachable span target _ => [target, span.length, span.start]
  | overlapping first second _ => [first.start, first.length, second.start, second.length]

/-- Whether the message of a fault stays within the limit on numerals. -/
def writable (fault : RangeFault) : Bool :=
  fault.writtenNumbers.all Numeral.writable

end RangeFault

/-- Checks that a span lies within a text of a given length. Any numbers may be
asked about. -/
def checkRange (bound : Nat) (start length : Int) : Except RangeFault Unit :=
  if start < 1 ∨ (bound : Int) < start then .error (.outside start length bound)
  else if (bound : Int) < start + length - 1 then .error (.overrun start length bound)
  else .ok ()

namespace Span

def check (span : Span) (bound : Nat) : Except RangeFault Unit :=
  checkRange bound span.start span.length

/-- Whether a span lies within a text of a given length. -/
def Fits (span : Span) (bound : Nat) : Prop :=
  1 ≤ span.start ∧ span.start ≤ bound ∧ span.start + span.length ≤ bound + 1

instance (span : Span) (bound : Nat) : Decidable (span.Fits bound) :=
  inferInstanceAs (Decidable (_ ∧ _ ∧ _))

theorem check_eq_ok_iff (span : Span) (bound : Nat) :
    span.check bound = .ok () ↔ span.Fits bound := by
  unfold check checkRange Fits
  split
  · simp; omega
  · split
    · simp; omega
    · simp; omega

/-- Whether two spans share a position, or start at the same one. -/
def overlaps (first second : Span) : Bool :=
  if first.start = second.start then true
  else if first.start < second.start then second.start < first.start + first.length
  else first.start < second.start + second.length

theorem overlaps_comm (first second : Span) : first.overlaps second = second.overlaps first := by
  unfold overlaps
  by_cases same : first.start = second.start
  · simp [same]
  · have other : ¬second.start = first.start := fun equal => same equal.symm
    by_cases earlier : first.start < second.start
    · have later : ¬second.start < first.start := by omega
      simp [same, other, earlier, later]
    · have later : second.start < first.start := by omega
      simp [same, other, earlier, later]

end Span

end EditScript
