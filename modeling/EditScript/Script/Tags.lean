import EditScript.Operation.Basic

/-!
# Counting tags

The tags of a script with the number of their occurrences, in the order of their
code points.
-/

namespace EditScript

/-- Whether a text comes before another one, by code points; a text comes before
its continuations. -/
def Text.before : Text → Text → Bool
  | _, [] => false
  | [], _ :: _ => true
  | first :: rest, other :: others =>
    first.toNat < other.toNat || (first == other && Text.before rest others)

namespace TagCount

/-- Adds one occurrence of a tag to ordered counts. -/
def add (tag : Text) : List (Text × Nat) → List (Text × Nat)
  | [] => [(tag, 1)]
  | (first, count) :: rest =>
    if tag = first then (first, count + 1) :: rest
    else if Text.before tag first then (tag, 1) :: (first, count) :: rest
    else (first, count) :: add tag rest

def ofTags (tags : List Text) : List (Text × Nat) :=
  tags.foldl (fun counts tag => add tag counts) []

end TagCount

namespace Script

def tags (script : Script) : List Text :=
  script.flatMap Operation.tags

def tagCounts (script : Script) : List (Text × Nat) :=
  TagCount.ofTags script.tags

end Script

end EditScript
