import EditScript.Proofs.RoundTrip
import EditScript.Proofs.Stability

/-!
# Notations as lines

A script is printed with one notation a line, and the lines are the notations again unless
a quoted text, a note or a tag holds a line feed. No notation starts like an option. What
is left to keep an operation from being read back from its line is the limit on numerals:
one number beyond it, and the line is not read at all.
-/

namespace EditScript

set_option autoImplicit false

namespace Text

/-- The lines of a text. A line feed ends a line, so no line starts behind the last one. -/
def lines (text : Text) : List Text :=
  let parts := fields (· == '\n') text
  if parts.getLast? = some [] then parts.dropLast else parts

theorem fields_unlines {lines : List Text} (whole : ∀ line ∈ lines, '\n' ∉ line) :
    fields (· == '\n') (unlines lines) = lines ++ [[]] := by
  induction lines with
  | nil => rfl
  | cons line rest induction =>
      rw [List.forall_mem_cons] at whole
      have inside : ∀ char ∈ line, (char == '\n') = false := by
        intro char member
        simp only [beq_eq_false_iff_ne]
        rintro rfl
        exact whole.1 member
      have text : unlines (line :: rest) = line ++ '\n' :: unlines rest := by
        simp [unlines]
      rw [text, fields_behind_separator rfl, fields_of_whole inside, induction whole.2]
      rfl

theorem lines_unlines {lines : List Text} (whole : ∀ line ∈ lines, '\n' ∉ line) :
    (unlines lines).lines = lines := by
  rw [Text.lines, fields_unlines whole]
  simp

end Text

namespace Notation

theorem in_quotes_in_line {text : Text} (whole : '\n' ∉ text) : '\n' ∉ inQuotes text := by
  simp [inQuotes, whole]

theorem description_in_line {described : Option Text} (whole : ∀ text ∈ described, '\n' ∉ text) :
    '\n' ∉ description described := by
  cases described with
  | none => exact List.not_mem_nil
  | some text =>
      cases text with
      | nil => exact List.not_mem_nil
      | cons first rest => exact in_quotes_in_line (whole _ rfl)

theorem numeral_in_line (number : Nat) : '\n' ∉ Numeral.signed number :=
  fun member => absurd (Numeral.isDigit_of_mem_decimal member) (by decide)

theorem position_in_line (start : Nat) : '\n' ∉ position start := by
  simp [position, numeral_in_line]

theorem span_in_line (place : Span) : '\n' ∉ span place := by
  rw [span, coordinates]
  split
  · simp [position_in_line, numeral_in_line]
  · exact position_in_line place.start

theorem note_in_line {opening closing : Char} {text : Option Text}
    (opens : opening ≠ '\n') (closes : closing ≠ '\n') (whole : ∀ content ∈ text, '\n' ∉ content) :
    '\n' ∉ note opening closing text := by
  cases text with
  | none => exact List.not_mem_nil
  | some content => simp [note, opens.symm, closes.symm, whole content rfl]

theorem tags_in_line {words : List Text} (valid : ∀ tag ∈ words, isTag tag = true) :
    '\n' ∉ tags words := by
  have absent : '\n' ∉ Text.unwords words := by
    apply Text.not_mem_unwords (by decide)
    intro tag member inside
    have blank := ((tag_iff.mp (valid tag member)).2 _ inside).1
    exact absurd blank (by decide)
  rw [tags]
  split
  · exact List.not_mem_nil
  · simp [absent]

end Notation

namespace Operation

open Grammar

variable {operation : Operation}

theorem operator_in_line (kind : Kind) : '\n' ∉ kind.operator := by
  rcases kind with _ | side | _ | side | _ <;> first | decide | (cases side <;> decide)

theorem written_span_in_line (operation : Operation) : '\n' ∉ operation.writtenSpan := by
  rw [writtenSpan]
  split
  · exact Notation.position_in_line _
  · exact Notation.span_in_line _

theorem operand_in_line (whole : ∀ text ∈ operation.action.quotedTexts, '\n' ∉ text) :
    '\n' ∉ operation.operand := by
  rw [operand]
  cases action : operation.action with
  | delete => exact List.not_mem_nil
  | insert side text =>
      rw [action] at whole
      exact Notation.in_quotes_in_line (whole text List.mem_cons_self)
  | replace text =>
      rw [action] at whole
      exact Notation.in_quotes_in_line (whole text List.mem_cons_self)
  | move side target => exact Notation.position_in_line target
  | swap other described =>
      rw [action] at whole
      rw [List.mem_append, not_or]
      constructor
      · exact Notation.description_in_line fun text shown => whole text (Option.mem_toList.mpr shown)
      · exact Notation.span_in_line other

theorem annotations_in_line (valid : operation.Valid)
    (whole : ∀ text ∈ operation.note, '\n' ∉ text) : '\n' ∉ operation.annotations := by
  have tags := Notation.tags_in_line valid.tags
  rw [annotations]
  split <;> rw [List.mem_append, not_or]
  · exact ⟨tags, Notation.note_in_line (by decide) (by decide) whole⟩
  · exact ⟨Notation.note_in_line (by decide) (by decide) whole, tags⟩

/-- A notation has one line, unless a quoted text or the note brings a line feed along. -/
theorem canonical_in_line (valid : operation.Valid)
    (quoted : ∀ text ∈ operation.quotedTexts, '\n' ∉ text)
    (note : ∀ text ∈ operation.note, '\n' ∉ text) : '\n' ∉ operation.canonical := by
  rw [quotedTexts, List.forall_mem_append] at quoted
  have description : '\n' ∉ Notation.description operation.described :=
    Notation.description_in_line fun text shown => quoted.1 text (Option.mem_toList.mpr shown)
  simp only [canonical, List.mem_append, not_or]
  exact ⟨⟨⟨⟨description, written_span_in_line operation⟩, operator_in_line operation.kind⟩,
    operand_in_line quoted.2⟩, annotations_in_line valid note⟩

theorem written_span_head (operation : Operation) : operation.writtenSpan.head? = some '@' := by
  rw [writtenSpan]
  split
  · rfl
  · rw [Notation.span, Notation.coordinates]
    split <;> rfl

/-- A notation starts with a quotation mark or with the sign of a position. -/
theorem canonical_head (operation : Operation) :
    operation.canonical.head? = some '"' ∨ operation.canonical.head? = some '@' := by
  have start := written_span_head operation
  have unquoted : Notation.description operation.described = [] →
      operation.canonical.head? = some '@' := by
    intro nothing
    simp [canonical, nothing, start]
  cases described : operation.described with
  | none => exact .inr (unquoted (by rw [described]; rfl))
  | some text =>
      cases text with
      | nil => exact .inr (unquoted (by rw [described]; rfl))
      | cons first rest => exact .inl (by rw [canonical, described]; rfl)

section

variable {number least read : Nat}

theorem writable_of_reads_decimal (reads : Reads (Numeral.decimal number) least read) :
    Numeral.writable number = true := by
  rcases reads with ⟨read, _⟩
  rw [Numeral.read_of_digits (Numeral.decimal_digits number)] at read
  split at read
  · cases read
  · next short => exact decide_eq_true (Nat.not_lt.mp short)

theorem writable_of_reads_spelled {span : Span} {part : Option Capture}
    (shown : textOf part = span.spelled.length.map Prod.snd) (some : 1 ≤ span.length)
    (reads : ReadsLength part read) : Numeral.writable span.length = true := by
  rw [Span.spelled] at shown
  split at shown
  · cases part with
    | none => cases shown
    | some digits =>
        have same : digits.text = Numeral.decimal span.length := Option.some.inj shown
        rw [ReadsLength, same] at reads
        exact writable_of_reads_decimal reads
  · next single =>
      rw [Nat.le_antisymm (Nat.not_lt.mp single) some]
      decide

end

theorem bare_position (operation : Operation) :
    operation.bareSpelling.coordinates.position = Numeral.decimal operation.span.start := by
  rw [bareSpelling]
  cases operation.action <;> rfl

theorem bare_length (takes : operation.kind.takesLength = true) :
    operation.bareSpelling.coordinates.length = operation.span.spelled.length := by
  rw [kind] at takes
  rw [bareSpelling]
  cases action : operation.action with
  | insert side text =>
      rw [action] at takes
      cases takes
  | _ => rfl

/-- The numbers of an action besides its span. -/
theorem writable_of_operand_shows {action read : Action} {operand : Operand} (valid : action.Valid)
    (shows : operand.Shows action.spelled) (writes : operand.Writes read) :
    (∀ side target, action = .move side target → Numeral.writable target = true) ∧
      ∀ other described, action = .swap other described →
        Numeral.writable other.start = true ∧ Numeral.writable other.length = true := by
  constructor
  · rintro side target rfl
    rw [Action.spelled] at shows
    generalize same : Numeral.decimal target = digits at shows
    cases shows
    cases writes with
    | move _ reads =>
        rw [← same] at reads
        exact writable_of_reads_decimal reads
  · rintro other described rfl
    rw [Action.spelled] at shows
    generalize same : other.spelled = coordinates at shows
    cases shows with
    | swap _ start size =>
        cases writes with
        | swap _ readsStart readsSize =>
            rw [start, ← same] at readsStart
            rw [← same] at size
            exact ⟨writable_of_reads_decimal readsStart,
              writable_of_reads_spelled size valid.2.1 readsSize⟩

/-- A number that is read from a canonical notation is within the limit. -/
theorem writable_of_shows {found : Match} {note : Option Text} {tags : List Text}
    {read : Operation} (valid : operation.Valid) (shows : found.Shows operation.canonicalSpelling)
    (writes : found.Writes note tags read) : operation.writable = true := by
  have start : Numeral.writable operation.span.start = true := by
    have reads := writes.start
    rw [shows.position, canonicalSpelling, bare_position] at reads
    exact writable_of_reads_decimal reads
  have length : operation.kind.takesLength = true →
      Numeral.writable operation.span.length = true := by
    intro takes
    have spelled := shows.length
    have size := writes.length
    have kind : found.operand.kind = operation.kind :=
      (kind_of_shows shows.operand).trans (spelled_kind operation)
    rw [Match.length?, kind, if_pos takes] at size
    rw [canonicalSpelling, bare_length takes] at spelled
    exact writable_of_reads_spelled spelled valid.length size
  have operand := writable_of_operand_shows valid.action shows.operand writes.operand
  rw [Operation.writable, writtenNumbers]
  rw [kind] at length
  cases action : operation.action with
  | insert side text => simp [start]
  | move side target =>
      rw [action] at length
      simp [start, length rfl, operand.1 side target action]
  | swap other described =>
      rw [action] at length
      simp [start, length rfl, operand.2 other described action]
  | _ =>
      rw [action] at length
      simp [start, length rfl]

/-- The canonical notation of an operation is read exactly if its numbers are within the
limit, and then it is read as the operation. -/
theorem canonical_read_iff (valid : operation.Valid) (notatable : operation.Notatable)
    (read : Operation) :
    (Operation.parse (some operation.canonical)).outcome = .ok read ↔
      operation.writable = true ∧ read = operation := by
  have readBack := fun writable => parse_canonical valid writable notatable
  constructor
  · intro parsed
    have given := parsed
    rw [canonical_text valid, parse_eq_ok_iff] at given
    obtain ⟨_, kind, detected, found, search, writes⟩ := given
    have proper := canonical_proper valid notatable
    obtain ⟨other, here, shows⟩ := proper.found
    cases detected.symm.trans proper.detected
    cases search.symm.trans here
    have writable := writable_of_shows valid shows writes
    rw [readBack writable] at parsed
    exact ⟨writable, (Except.ok.inj parsed).symm⟩
  · rintro ⟨writable, rfl⟩
    exact readBack writable

end Operation

namespace Script

theorem parse_strict_cons (text : Text) (rest : List Text) :
    (parse true (text :: rest)).outcome = (Operation.parse (some text)).outcome >>= fun first =>
      (parse true rest).outcome >>= fun others => .ok (first :: others) := by
  have strict : parseOne true text = Operation.parse (some text) >>= fun first =>
      pure (some first) := rfl
  simp only [parse, strict, Traced.outcome_bind, Traced.outcome_pure]
  cases (Operation.parse (some text)).outcome with
  | error failure => rfl
  | ok first => rfl

/-- The notations of a script are read exactly if all its numbers are within the limit,
and then they are read as the script. -/
theorem notations_read_iff {script : Script} (valid : ∀ operation ∈ script, operation.Valid)
    (notatable : ∀ operation ∈ script, operation.Notatable) (read : Script) :
    (parse true (script.map Operation.canonical)).outcome = .ok read ↔
      (∀ operation ∈ script, operation.writable = true) ∧ read = script := by
  induction script generalizing read with
  | nil =>
      change Except.ok [] = Except.ok read ↔ _
      rw [Except.ok.injEq, eq_comm]
      exact (and_iff_right (List.forall_mem_nil _)).symm
  | cons operation rest induction =>
      rw [List.forall_mem_cons] at valid notatable
      rw [List.map_cons, parse_strict_cons, List.forall_mem_cons]
      simp only [Grammar.bind_eq_ok_iff, Operation.canonical_read_iff valid.1 notatable.1,
        induction valid.2 notatable.2]
      constructor
      · rintro ⟨_, ⟨first, rfl⟩, _, ⟨others, rfl⟩, same⟩
        exact ⟨⟨first, others⟩, (Except.ok.inj same).symm⟩
      · rintro ⟨⟨first, others⟩, rfl⟩
        exact ⟨operation, ⟨first, rfl⟩, rest, ⟨others, rfl⟩, rfl⟩

end Script

end EditScript
