import EditScript.Proofs.RoundTrip
import Mathlib.Data.List.DropRight
import Mathlib.Data.Nat.Digits.Defs

/-!
# Writing down what was read

Whatever text an operation was read from, the operation is in order: its fields are
valid, its numbers are short enough to be written, its quoted texts hold no quotation
mark and an insertion has the length one. So its canonical notation is read as the same
operation, unless the note ends early: a note that was read from one form of region can
hold the delimiter that closes the form in which it is written.
-/

namespace EditScript

set_option autoImplicit false

theorem Text.trim_trim (inClass : Char → Bool) (text : Text) :
    Text.trim inClass (Text.trim inClass text) = Text.trim inClass text := by
  have front : (Text.trim inClass text).dropWhile inClass = Text.trim inClass text := by
    cases trimmed : Text.trim inClass text with
    | nil => rfl
    | cons first rest =>
        have start : first :: rest <+: text.dropWhile inClass := by
          rw [← trimmed]
          exact List.rdropWhile_prefix inClass _
        have filled : text.dropWhile inClass ≠ [] := start.ne_nil (List.cons_ne_nil first rest)
        have outside : inClass first = false := by
          rw [← List.head_dropWhile_not inClass filled]
          exact congrArg inClass (start.head (List.cons_ne_nil first rest))
        rw [List.dropWhile_cons_of_neg (by simp [outside])]
  calc
    Text.trim inClass (Text.trim inClass text) =
        List.rdropWhile inClass ((Text.trim inClass text).dropWhile inClass) := rfl
    _ = List.rdropWhile inClass (Text.trim inClass text) := by rw [front]
    _ = Text.trim inClass text := List.rdropWhile_idempotent inClass _

theorem noted_of_annotating (region : Option Text) : Noted (annotating region) := by
  intro text shown
  rcases Option.bind_eq_some_iff.mp shown with ⟨content, _, kept⟩
  split at kept
  · cases kept
  · next filled =>
      cases kept
      exact ⟨by simpa using filled, Text.trim_trim Text.isBlank content⟩

theorem described_of_describing (text : Option Text) : Described (describing text) := by
  unfold Described describing
  split
  · nofun
  · next filled => exact filled

namespace Numeral

theorem of_digits_cons (char : Char) (rest : Text) :
    ofDigits (char :: rest) = 10 ^ rest.length * (char.toNat - 48) + ofDigits rest := by
  rw [ofDigits, Nat.ofDigitChars_cons, Nat.ofDigitChars_eq_ofDigitChars_zero, Nat.mul_zero,
    Nat.zero_add]
  rfl

theorem of_digits_lt {digits : Text} (row : ∀ char ∈ digits, char.isDigit = true) :
    ofDigits digits < 10 ^ digits.length := by
  induction digits with
  | nil => exact Nat.one_pos
  | cons char rest induction =>
      have later := induction fun other member => row other (List.mem_cons_of_mem char member)
      have range := digit_range (row char List.mem_cons_self)
      have most : 10 ^ rest.length * (char.toNat - 48) ≤ 10 ^ rest.length * 9 :=
        Nat.mul_le_mul_left _ (by omega)
      rw [of_digits_cons, List.length_cons, Nat.pow_succ]
      omega

/-- A number that is read from a short row of digits is written with no more of them. -/
theorem writable_of_digits {digits : Text} (row : Digits digits)
    (short : digits.length ≤ digitLimit) : writable (ofDigits digits) = true := by
  apply decide_eq_true
  have some : 0 < digits.length := List.length_pos_of_ne_nil row.nonempty
  exact (Nat.toDigits_length 10 _ _ some (of_digits_lt row.digit)).trans short

end Numeral

namespace Grammar

theorem writable_of_reads {digits : Text} {least number : Nat} (row : Numeral.Digits digits)
    (reads : Reads digits least number) : Numeral.writable number = true := by
  rcases reads with ⟨read, _⟩
  rw [Numeral.read_of_digits row] at read
  split at read
  · cases read
  · next short =>
      rw [← Int.ofNat_inj.mp (Except.ok.inj read)]
      exact Numeral.writable_of_digits row (Nat.not_lt.mp short)

theorem writable_of_reads_length {label : String} {length : Option Capture} {number : Nat}
    (rows : ∀ reading ∈ lengthReading label length, Numeral.Digits reading.digits.text)
    (reads : ReadsLength length number) : Numeral.writable number = true := by
  cases length with
  | none =>
      rw [show number = 1 from reads]
      decide
  | some digits => exact writable_of_reads (rows _ List.mem_cons_self) reads

theorem Operand.Writes.kind {operand : Operand} {action : Action}
    (writes : operand.Writes action) : operand.kind = action.kind := by
  cases writes <;> rfl

theorem Operand.Writes.valid {operand : Operand} {action : Action}
    (writes : operand.Writes action) : action.Valid := by
  cases writes with
  | move side reads => exact reads.2
  | swap described start size =>
      exact ⟨start.2, one_le_of_reads_length size, described_of_describing _⟩
  | _ => trivial

namespace Match.Writes

variable {found : Match} {note : Option Text} {tags : List Text} {operation : Operation}

/-- What a form makes is in order. -/
theorem valid (writes : found.Writes note tags operation) : operation.Valid where
  described := by
    rw [← writes.described]
    exact described_of_describing _
  start := by
    rw [Operation.kind, ← writes.operand.kind]
    exact writes.start.2
  length := one_le_of_reads_length writes.length
  note := by
    rw [← writes.note]
    exact noted_of_annotating note
  tags := by
    rw [← writes.tags]
    exact writes.words
  action := writes.operand.valid

theorem writable (writes : found.Writes note tags operation)
    (rows : ∀ reading ∈ found.readings, Numeral.Digits reading.digits.text) :
    operation.writable = true := by
  rcases List.forall_mem_cons.mp rows with ⟨rowStart, rowsLater⟩
  rw [List.forall_mem_append] at rowsLater
  have start := writable_of_reads rowStart writes.start
  have length := writable_of_reads_length rowsLater.1 writes.length
  have operand := writes.operand
  have rowsOperand := rowsLater.2
  rw [Operation.writable, Operation.writtenNumbers]
  generalize found.operand = read at operand rowsOperand
  generalize operation.action = action at operand
  cases operand with
  | delete => simp [start, length]
  | insert side content => simp [start]
  | replace content => simp [start, length]
  | move side reads =>
      have target := writable_of_reads (rowsOperand _ List.mem_cons_self) reads
      simp [start, length, target]
  | swap described readsStart readsSize =>
      rcases List.forall_mem_cons.mp rowsOperand with ⟨rowOther, rowsSize⟩
      have otherStart := writable_of_reads rowOther readsStart
      have otherLength := writable_of_reads_length rowsSize readsSize
      simp [start, length, otherStart, otherLength]

end Match.Writes

end Grammar

namespace Operation

open Grammar

/-- An operation that was read from any text is read again from its canonical notation,
exactly if its note does not hold the delimiter that closes it there. -/
theorem read_again_iff {text : Text} {operation : Operation}
    (read : (Operation.parse (some text)).outcome = .ok operation) :
    operation.write >>= (fun written => (Operation.parse (some written)).outcome) =
        .ok operation ↔
      ∀ note ∈ operation.note, operation.noteForm.closing ∉ note := by
  rcases (parse_eq_ok_iff text operation).mp read with ⟨_, kind, _, found, search, writes⟩
  rcases match_of_find_from search with ⟨_, _, _, _, here⟩
  have valid := writes.valid
  have writable := writes.writable (readings_digits here)
  have written : operation.write = .ok operation.canonical := if_pos writable
  rw [written]
  constructor
  · exact fun again => (notatable_of_parse valid again).note
  · intro closed
    have quoted : ∀ content ∈ operation.quotedTexts, '"' ∉ content := fun content member =>
      match_quotes here content (writes.quoted content member)
    exact parse_canonical valid writable ⟨quoted, closed, writes.single⟩

/-- A replacement with zeros in front of its numbers, a length that says nothing, and its
note and tags in front of the operator. -/
def looseReplacement : Text :=
  "\"a!\" @007X01 [x y] (see \x7bb\x7d) = \"c>d\"".toList

theorem loose_replacement_read_again :
    ∃ operation, (Operation.parse (some looseReplacement)).outcome = .ok operation ∧
      operation.write >>= (fun written => (Operation.parse (some written)).outcome) =
        .ok operation := by
  have read : (Operation.parse (some looseReplacement)).outcome =
      .ok ⟨some ['a', '!'], ⟨7, 1⟩, some "see \x7bb\x7d".toList, [['x'], ['y']],
        .replace ['c', '>', 'd']⟩ := by
    with_unfolding_all rfl
  exact ⟨_, read, (read_again_iff read).mpr (by decide)⟩

/-- A deletion whose note, read from braces, holds the parenthesis that closes the notes
of deletions. -/
def closingNote : Text :=
  "@1! \x7ba)b\x7d".toList

/-- The note of the deletion is cut short when it is read again. -/
theorem closing_note_cut_short :
    ∃ operation shorter, (Operation.parse (some closingNote)).outcome = .ok operation ∧
      operation.write >>= (fun written => (Operation.parse (some written)).outcome) =
        .ok shorter ∧
      operation.note = some ['a', ')', 'b'] ∧ shorter.note = some ['a'] := by
  refine ⟨⟨none, ⟨1, 1⟩, some ['a', ')', 'b'], [], .delete⟩,
    ⟨none, ⟨1, 1⟩, some ['a'], [], .delete⟩, ?_, ?_, rfl, rfl⟩
  · with_unfolding_all rfl
  · with_unfolding_all rfl

end Operation

end EditScript
