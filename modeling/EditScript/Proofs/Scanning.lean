import EditScript.Grammar.Cursor
import EditScript.Text.Numeral
import Mathlib.Data.List.TakeWhile

/-!
# Tokens in front of a cursor

One fact for each kind of token: it is taken off the front of a text as it was
written, and the cursor stands behind it, provided that the text goes on with
something that the token could not have taken as well. Numerals are read with any
number of leading zeros.
-/

namespace EditScript

set_option autoImplicit false

/-- A text does not go on with a character of a class. -/
def Text.StopsAt (inClass : Char → Bool) (text : Text) : Prop :=
  ∀ char, text.head? = some char → inClass char = false

/-- A row of decimal digits that is not empty. -/
structure Numeral.Digits (digits : Text) : Prop where
  nonempty : digits ≠ []
  digit : ∀ char ∈ digits, char.isDigit = true

theorem takeWhile_of_stop {inClass : Char → Bool} {front rest : Text}
    (inside : ∀ char ∈ front, inClass char = true) (stop : Text.StopsAt inClass rest) :
    (front ++ rest).takeWhile inClass = front := by
  rw [List.takeWhile_append_of_pos inside]
  cases rest with
  | nil => simp
  | cons char later => simp [stop char rfl]

theorem Text.stops_at_of_head {inClass : Char → Bool} {char : Char} (rest : Text)
    (outside : inClass char = false) : Text.StopsAt inClass (char :: rest) := by
  intro first head
  rw [← Option.some.inj head]
  exact outside

theorem Text.StopsAt.append {inClass : Char → Bool} {front rest : Text}
    (outside : ∀ char ∈ front, inClass char = false) (stop : Text.StopsAt inClass rest) :
    Text.StopsAt inClass (front ++ rest) := by
  cases front with
  | nil => exact stop
  | cons first later =>
      intro char head
      obtain rfl := Option.some.inj head
      exact outside first List.mem_cons_self

namespace Numeral

open Text

theorem decimal_digits (number : Nat) : Digits (decimal number) :=
  ⟨Nat.toDigits_ne_nil, fun _ => isDigit_of_mem_decimal⟩

theorem digit_range {char : Char} (digit : char.isDigit = true) :
    48 ≤ char.toNat ∧ char.toNat ≤ 57 := by
  simpa [Char.isDigit, UInt32.le_iff_toNat_le] using digit

theorem not_padding_of_digit {char : Char} (digit : char.isDigit = true) :
    isPadding char = false := by
  have range := digit_range digit
  simp [isPadding]
  omega

theorem underscores_separate_digits {digits : Text} (row : ∀ char ∈ digits, char.isDigit = true)
    (afterDigit : Bool) (some : afterDigit = true ∨ digits ≠ []) :
    underscoresSeparate afterDigit digits = true := by
  induction digits generalizing afterDigit with
  | nil => simpa [underscoresSeparate] using some
  | cons char rest induction =>
      have other : char ≠ '_' := by
        intro same
        subst same
        exact absurd (row '_' List.mem_cons_self) (by decide)
      rw [underscoresSeparate, if_neg other]
      exact induction (fun later member => row later (List.mem_cons_of_mem char member)) true
        (Or.inl rfl)

theorem digit_values {digits : Text} (row : ∀ char ∈ digits, char.isDigit = true) :
    digits.filterMap digitValue? = digits.map fun char => char.toNat - 48 := by
  induction digits with
  | nil => rfl
  | cons char rest induction =>
      rw [List.filterMap_cons_some (digitValue_of_isDigit (row char List.mem_cons_self)),
        induction fun later member => row later (List.mem_cons_of_mem char member), List.map_cons]

theorem value_of_digits (digits : Text) :
    valueOf (digits.map fun char => char.toNat - 48) = ofDigits digits := by
  rw [valueOf, List.foldl_map, ofDigits, Nat.ofDigitChars]
  rfl

/-- A row of digits is read as its number, unless it is longer than a numeral may be. -/
theorem read_of_digits {digits : Text} (numeral : Digits digits) :
    read digits = if digitLimit < digits.length then .error (.tooLong digits.length)
      else .ok (ofDigits digits : Int) := by
  rcases numeral with ⟨nonempty, row⟩
  have unpadded : digits.dropWhile isPadding = digits := by
    cases digits with
    | nil => rfl
    | cons char rest => simp [not_padding_of_digit (row char List.mem_cons_self)]
  have unsigned : splitSign digits = (false, digits) := by
    cases digits with
    | nil => rfl
    | cons char rest =>
        have digit := row char List.mem_cons_self
        unfold splitSign
        split
        · next same => cases same; exact absurd digit (by decide)
        · next same => cases same; exact absurd digit (by decide)
        · rfl
  have inBody : ∀ char ∈ digits, ((digitValue? char).isSome || decide (char = '_')) = true := by
    intro char member
    rw [digitValue_of_isDigit (row char member)]
    rfl
  have whole : digits.takeWhile (fun char => (digitValue? char).isSome || decide (char = '_')) =
      digits := List.takeWhile_eq_self_iff.mpr inBody
  have nothing : digits.dropWhile (fun char => (digitValue? char).isSome || decide (char = '_')) =
      [] := List.dropWhile_eq_nil_iff.mpr inBody
  have separate := underscores_separate_digits row false (Or.inr nonempty)
  have values : (digits.filterMap digitValue?).length = digits.length := by
    rw [digit_values row, List.length_map]
  simp only [read, unpadded, unsigned, whole, nothing, separate, values]
  rw [digit_values row, value_of_digits]
  simp [applySign]

theorem read_digits {digits : Text} (numeral : Digits digits) (short : digits.length ≤ digitLimit) :
    read digits = .ok (ofDigits digits) := by
  rw [read_of_digits numeral, if_neg (Nat.not_lt.mpr short)]

end Numeral

namespace Grammar.Cursor

open Text Numeral

variable {offset : Nat} {rest : Text}

theorem advance_behind (offset : Nat) (front rest : Text) :
    advance ⟨offset, front ++ rest⟩ front.length = ⟨offset + front.length, rest⟩ := by
  simp [advance]

theorem skip_blanks_at (offset : Nat) {blanks : Text} (blank : ∀ char ∈ blanks, isBlank char = true)
    (stop : rest.StopsAt isBlank) :
    skipBlanks ⟨offset, blanks ++ rest⟩ = ⟨offset + blanks.length, rest⟩ := by
  rw [skipBlanks, takeWhile_of_stop blank stop, advance_behind]

theorem token_at (offset : Nat) (token rest : Text) :
    token? token ⟨offset, token ++ rest⟩ = some ⟨offset + token.length, rest⟩ := by
  have front : token.isPrefixOf (token ++ rest) = true := by simp
  rw [token?, if_pos front, advance_behind]

theorem numeral_at {digits : Text} (row : Digits digits) (stop : rest.StopsAt Char.isDigit) :
    numeral? ⟨offset, digits ++ rest⟩ =
      some (⟨digits, offset⟩, ⟨offset + digits.length, rest⟩) := by
  have filled : digits.isEmpty = false := by
    simpa using row.nonempty
  simp only [numeral?, takeWhile_of_stop row.digit stop, filled, advance_behind]
  rfl

theorem position_at {digits : Text} (row : Digits digits) (stop : rest.StopsAt Char.isDigit) :
    position? ⟨offset, '@' :: (digits ++ rest)⟩ =
      some (⟨digits, offset + 1⟩, ⟨offset + 1 + digits.length, rest⟩) := by
  have sign := token_at offset ['@'] (digits ++ rest)
  rw [List.singleton_append] at sign
  rw [position?, sign]
  exact numeral_at row stop

theorem no_position_at_quotes : position? ⟨offset, '"' :: rest⟩ = none := by
  rfl

theorem quoted_at {content : Text} (closed : '"' ∉ content) :
    quoted? ⟨offset, '"' :: (content ++ '"' :: rest)⟩ =
      some (⟨content, offset + 1⟩, ⟨offset + (content.length + 2), rest⟩) := by
  have behind : (content ++ '"' :: rest).drop (content.length + 1) = rest := by
    simp [List.drop_append]
  simp [quoted?, splitAt_append closed, advance, behind]

theorem length_at {sign : Char} {digits : Text} (signed : isLengthSign sign = true)
    (row : Digits digits) (stop : rest.StopsAt Char.isDigit) :
    length? ⟨offset, sign :: (digits ++ rest)⟩ =
      (some ⟨digits, offset + 1⟩, ⟨offset + 1 + digits.length, rest⟩) := by
  have first : advance ⟨offset, sign :: (digits ++ rest)⟩ 1 = ⟨offset + 1, digits ++ rest⟩ := rfl
  simp only [length?, signed, if_true, first, numeral_at row stop]

theorem no_length_at (stop : rest.StopsAt isLengthSign) :
    length? ⟨offset, rest⟩ = (none, ⟨offset, rest⟩) := by
  cases rest with
  | nil => rfl
  | cons sign later =>
      have other : isLengthSign sign = false := stop sign rfl
      simp [length?, other]

theorem description_at {content blanks : Text} (closed : '"' ∉ content)
    (blank : ∀ char ∈ blanks, isBlank char = true) (stop : rest.StopsAt isBlank) :
    description? ⟨offset, '"' :: (content ++ '"' :: (blanks ++ rest))⟩ =
      some (some ⟨content, offset + 1⟩,
        ⟨offset + (content.length + 2) + blanks.length, rest⟩) := by
  simp only [description?, quoted_at closed, Option.map_some, skip_blanks_at _ blank stop]

theorem no_description_at {text : Text} (unquoted : text.head? ≠ some '"') :
    description? ⟨offset, text⟩ = some (none, skipBlanks ⟨offset, text⟩) := by
  unfold description?
  split
  · next same =>
      change text = _ at same
      rw [same] at unquoted
      exact absurd rfl unquoted
  · rfl

end Grammar.Cursor

end EditScript
