/-!
# Texts

A text is a list of code points, so every position, offset and length of the
library counts code points. This module holds the two classes of blank
characters and the cutting of a text at blanks. The main facts are that cutting
a text into fields loses nothing but the separators, and that no field holds one.
-/

namespace EditScript

abbrev Text := List Char

namespace Text

/-- The characters with the Unicode property `White_Space`. Numerals may be
surrounded by them. -/
def isPadding (char : Char) : Bool :=
  let code := char.toNat
  (9 ≤ code && code ≤ 13) || code == 0x20 || code == 0x85 || code == 0xA0 ||
    code == 0x1680 || (0x2000 ≤ code && code ≤ 0x200A) || code == 0x2028 ||
    code == 0x2029 || code == 0x202F || code == 0x205F || code == 0x3000

/-- Blank characters: white space, and the four information separators. Blanks
separate tags, surround notes and may stand between the tokens of an operation. -/
def isBlank (char : Char) : Bool :=
  isPadding char || (0x1C ≤ char.toNat && char.toNat ≤ 0x1F)

/-- The text without the characters of a class at either end. -/
def trim (inClass : Char → Bool) (text : Text) : Text :=
  ((text.dropWhile inClass).reverse.dropWhile inClass).reverse

def strip (text : Text) : Text :=
  trim isBlank text

/-- The parts of a text between separators; there is one more of them than
there are separators. -/
def fields (isSeparator : Char → Bool) : Text → List Text
  | [] => [[]]
  | char :: rest =>
    if isSeparator char then [] :: fields isSeparator rest
    else match fields isSeparator rest with
      | [] => [[char]]
      | field :: others => (char :: field) :: others

theorem fields_ne_nil (isSeparator : Char → Bool) (text : Text) :
    fields isSeparator text ≠ [] := by
  cases text with
  | nil => simp [fields]
  | cons char rest =>
    simp only [fields]
    split
    · simp
    · split <;> simp

theorem flatten_fields (isSeparator : Char → Bool) (text : Text) :
    (fields isSeparator text).flatten = text.filter (fun char => !isSeparator char) := by
  induction text with
  | nil => rfl
  | cons char rest induction =>
    by_cases separator : isSeparator char
    · simp [fields, separator, induction]
    · cases parts : fields isSeparator rest with
      | nil => exact absurd parts (fields_ne_nil isSeparator rest)
      | cons field others =>
        rw [parts, List.flatten_cons] at induction
        simp [fields, separator, parts, induction]

theorem not_separator_of_mem_fields {isSeparator : Char → Bool} {text field : Text} {char : Char}
    (member : field ∈ fields isSeparator text) (inside : char ∈ field) :
    isSeparator char = false := by
  have kept : char ∈ (fields isSeparator text).flatten :=
    List.mem_flatten.mpr ⟨field, member, inside⟩
  rw [flatten_fields] at kept
  simpa using (List.mem_filter.mp kept).2

/-- The words of a text: its fields between blanks, less the empty ones. -/
def words (text : Text) : List Text :=
  (fields isBlank text).filter fun field => !field.isEmpty

/-- A word is a part of the text that is not empty and holds no blank. -/
theorem word_spec {text word : Text} (member : word ∈ words text) :
    word ≠ [] ∧ ∀ char ∈ word, isBlank char = false ∧ char ∈ text := by
  rcases List.mem_filter.mp member with ⟨inFields, filled⟩
  refine ⟨by simpa using filled, ?_⟩
  intro char inside
  have kept : char ∈ (fields isBlank text).flatten :=
    List.mem_flatten.mpr ⟨word, inFields, inside⟩
  rw [flatten_fields] at kept
  exact ⟨not_separator_of_mem_fields inFields inside, (List.mem_filter.mp kept).1⟩

def unwords (parts : List Text) : Text :=
  [' '].intercalate parts

def unlines (lines : List Text) : Text :=
  lines.flatMap fun line => line ++ ['\n']

def occursIn (part : Text) : Text → Bool
  | [] => part.isEmpty
  | char :: rest => part.isPrefixOf (char :: rest) || occursIn part rest

def spaces (count : Nat) : Text :=
  List.replicate count ' '

/-- Hexadecimal digits in lower case, on at least the given number of places. -/
def hexadecimal (places code : Nat) : Text :=
  let digits := Nat.toDigits 16 code
  List.replicate (places - digits.length) '0' ++ digits

end Text

end EditScript
