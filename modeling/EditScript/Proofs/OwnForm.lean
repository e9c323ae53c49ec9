import EditScript.Proofs.Layout
import EditScript.Proofs.Placement

/-!
# One form for a spelling

A text can have the forms of several kinds: `"@1!"@2="x"` is a replacement whose description
holds a deletion. If no quoted text holds an at-sign, a spelling has the form of its own kind
only. Each form has an at-sign in front of its coordinates and its operator behind them, and a
spelling shows at most two such signs: its own operator stands behind the coordinates of the
first, and nothing but blanks behind those of the second, which is part of the operand. An
operator that starts like another one is told apart by what has to follow it.
-/

namespace EditScript.Grammar

set_option autoImplicit false

/-! ### From the at-sign of a form to its operator -/

namespace Cursor

/-- Past coordinates, the blanks behind them and the operator of a kind. -/
def pastOperator? (kind : Kind) (start : Cursor) : Option Cursor := do
  let (_, behind) ← start.position?
  let (_, behind) := if kind.takesLength then behind.length? else (none, behind)
  behind.skipBlanks.token? kind.operator

end Cursor

/-- A form that is found has an at-sign, and behind it its operator and its operand. -/
theorem sign_of_find {kind : Kind} {text : Text} {found : Match}
    (there : find? kind text = some found) :
    ∃ front rest offset behind after, text = front ++ '@' :: rest ∧
      Cursor.pastOperator? kind ⟨offset, '@' :: rest⟩ = some behind ∧
      ReadsOperand behind found.operand after ∧ found.operand.kind = kind := by
  obtain ⟨front, cursor, rfl, _, here⟩ := match_of_find_from there
  obtain ⟨⟨offset, place⟩, afterPosition, afterLength, behind, after, description, position, size,
    operator, operand, same⟩ := match_steps here
  obtain ⟨part, passes⟩ := Cursor.passes_to_position description
  have sign := (Cursor.passes_position position).1.rest
  dsimp only at sign
  subst sign
  refine ⟨front ++ part, found.position.text ++ afterPosition.rest, offset, behind, after, ?_, ?_,
    operand, same⟩
  · rw [passes.rest, List.append_assoc]
    rfl
  · rw [List.cons_append] at position
    simp only [Cursor.pastOperator?, position, bind, Option.bind, size]
    exact operator

section

variable {kind : Kind} {coordinates : Coordinates} {blanks tail : Text} {offset : Nat}
  {behind : Cursor}

/-- The sign of a length is neither passed over as a blank nor the start of an operator. -/
theorem no_operator_at_length (kind : Kind) {sign : Char}
    (signed : Cursor.isLengthSign sign = true) (rest : Text) :
    (Cursor.skipBlanks ⟨offset, sign :: rest⟩).token? kind.operator = none := by
  have visible : Text.isBlank sign = false := by
    rw [Bool.eq_false_iff]
    intro blank
    have numeric : isNumeric sign = true := by simp [isNumeric, signed]
    rw [not_numeric_of_blank blank] at numeric
    cases numeric
  have unmoved := Cursor.skip_blanks_at offset (List.forall_mem_nil _)
    (Text.stops_at_of_head rest visible)
  rw [List.nil_append] at unmoved
  rw [unmoved, Option.eq_none_iff_forall_ne_some]
  intro behind read
  obtain ⟨first, others, operator⟩ := List.exists_cons_of_ne_nil (operator_nonempty kind)
  have front := (Cursor.passes_token read).rest
  rw [operator] at front
  have starts : sign ∈ kind.operator := by
    rw [operator, (List.cons.inj front).1]
    exact List.mem_cons_self
  have quiet : Quiet [sign] :=
    quiet_of_class (by decide) (List.forall_mem_singleton.mpr signed)
  exact quiet sign List.mem_cons_self (operator_signs kind sign starts)

/-- What stands behind coordinates and blanks is the operator that is read there. -/
theorem operator_behind (proper : coordinates.Proper)
    (blank : ∀ char ∈ blanks, Text.isBlank char = true) (stopNumeric : tail.StopsAt isNumeric)
    (stopBlank : tail.StopsAt Text.isBlank)
    (read : Cursor.pastOperator? kind ⟨offset, coordinates.text ++ (blanks ++ tail)⟩ =
      some behind) :
    tail = kind.operator ++ behind.rest := by
  have stop : (blanks ++ tail).StopsAt isNumeric :=
    stopNumeric.append fun char member => not_numeric_of_blank (blank char member)
  have behindBlanks (place : Nat)
      (token : (Cursor.skipBlanks ⟨place, blanks ++ tail⟩).token? kind.operator = some behind) :
      tail = kind.operator ++ behind.rest := by
    rw [Cursor.skip_blanks_at place blank stopBlank] at token
    exact (Cursor.passes_token token).rest
  simp only [Cursor.pastOperator?, position_part offset proper stop, bind, Option.bind] at read
  cases takes : kind.takesLength with
  | true =>
      obtain ⟨length, place, size, _⟩ :=
        length_part (offset + 1 + coordinates.position.length) proper stop
      rw [takes, if_pos rfl, size] at read
      exact behindBlanks place read
  | false =>
      rw [takes, if_neg Bool.false_ne_true] at read
      rcases coordinates with ⟨position, length⟩
      cases length with
      | none => exact behindBlanks _ read
      | some part =>
          -- a kind that takes no length stays in front of the one that is written
          have none := @no_operator_at_length (offset + 1 + position.length) kind part.1
            (proper.length part rfl).1 (part.2 ++ (blanks ++ tail))
          cases none.symm.trans read

/-- Nothing is read behind coordinates with blanks up to the end. -/
theorem no_operator_at_end (proper : coordinates.Proper)
    (blank : ∀ char ∈ blanks, Text.isBlank char = true) :
    Cursor.pastOperator? kind ⟨offset, coordinates.text ++ blanks⟩ = none := by
  rw [Option.eq_none_iff_forall_ne_some]
  intro behind read
  rw [← List.append_nil blanks] at read
  have stop (inClass : Char → Bool) : Text.StopsAt inClass [] := by
    intro char head
    cases head
  have nothing := operator_behind proper blank (stop _) (stop _) read
  exact operator_nonempty kind (List.append_eq_nil_iff.mp nothing.symm).1

end

/-! ### Operators that start alike -/

/-- The operator that inserts behind a character starts with that of a replacement; no other
one starts with another. -/
theorem operator_starts {kind other : Kind} (starts : kind.operator <+: other.operator) :
    kind = other ∨ (kind = .replace ∧ other = .insert .after) := by
  have all : ∀ kind ∈ Kind.all, ∀ other ∈ Kind.all,
      kind.operator.isPrefixOf other.operator = true →
        kind = other ∨ (kind = .replace ∧ other = .insert .after) := by
    decide
  exact all kind kind.mem_all other other.mem_all (List.isPrefixOf_iff_prefix.mpr starts)

/-- Behind blanks a quotation starts here. -/
def QuotedNext (text : Text) : Prop :=
  ∃ blanks rest, (∀ char ∈ blanks, Text.isBlank char = true) ∧ text = blanks ++ '"' :: rest

theorem QuotedNext.not_plus {text rest : Text} (quoted : QuotedNext text) : text ≠ '+' :: rest := by
  obtain ⟨blanks, behind, blank, rfl⟩ := quoted
  intro same
  cases blanks with
  | nil => cases same
  | cons first others =>
      have plus := blank first List.mem_cons_self
      rw [(List.cons.inj same).1] at plus
      exact absurd plus (by decide)

theorem quoted_next_of_replacement {cursor after : Cursor} {operand : Operand}
    (read : ReadsOperand cursor operand after) (replaces : operand.kind = .replace) :
    QuotedNext cursor.rest := by
  cases read with
  | @replace content _ quoted =>
      obtain ⟨blanks, blank, passes⟩ := Cursor.passes_blanks cursor
      refine ⟨blanks, content.text ++ ['"'] ++ after.rest, blank, ?_⟩
      rw [passes.rest, (Cursor.passes_quoted quoted).1.rest, List.cons_append]
  | _ => cases replaces

/-- Two kinds whose operators stand at the same place are the same, if a replacement is
known to go on with a quotation. -/
theorem kind_of_operators {kind other : Kind} {back rest : Text}
    (same : kind.operator ++ back = other.operator ++ rest)
    (quoted : kind = .replace → QuotedNext back)
    (quotedOther : other = .replace → QuotedNext rest) : kind = other := by
  rcases List.prefix_or_prefix_of_prefix (List.prefix_append kind.operator back)
    (same ▸ List.prefix_append other.operator rest) with starts | starts
  · rcases operator_starts starts with equal | ⟨rfl, rfl⟩
    · exact equal
    · exact absurd (List.cons.inj same).2 (quoted rfl).not_plus
  · rcases operator_starts starts with equal | ⟨rfl, rfl⟩
    · exact equal.symm
    · exact absurd (List.cons.inj same).2.symm (quotedOther rfl).not_plus

/-! ### The at-signs of a spelling -/

section

variable {before after : Text}

/-- An at-sign stands behind a part that has none. -/
theorem sign_behind {front rest : Text} (unsigned : '@' ∉ front)
    (same : front ++ rest = before ++ '@' :: after) : ∃ later, rest = later ++ '@' :: after := by
  obtain ⟨later, rfl⟩ := prefix_of_stop same unsigned
  rw [List.append_assoc] at same
  exact ⟨later, List.append_cancel_left same⟩

theorem no_sign {text : Text} (unsigned : '@' ∉ text) : text ≠ before ++ '@' :: after := by
  rintro rfl
  exact unsigned (List.mem_append_right before List.mem_cons_self)

theorem unsigned_of_blank {text : Text} (blank : ∀ char ∈ text, Text.isBlank char = true) :
    '@' ∉ text :=
  fun member => absurd (blank '@' member) (by decide)

theorem unsigned_of_quotes {content : Text} (unsigned : '@' ∉ content) :
    '@' ∉ blanked [.literal .quotes content] := by
  simpa [blanked, Piece.withoutAnnotations, Piece.text, Delimiter.opening, Delimiter.closing]
    using unsigned

theorem unsigned_of_quotation {text : Option Text} (unsigned : ∀ content ∈ text, '@' ∉ content) :
    '@' ∉ blanked (quotation text) := by
  cases text with
  | none => exact List.not_mem_nil
  | some content => exact unsigned_of_quotes (unsigned content rfl)

theorem unsigned_of_digits {digits : Text} (row : Numeral.Digits digits) : '@' ∉ digits :=
  fun member => absurd (row.digit '@' member) (by decide)

/-- Coordinates have one at-sign, in front. -/
theorem sign_of_coordinates {coordinates : Coordinates} (proper : coordinates.Proper) {rest : Text}
    (same : coordinates.text ++ rest = before ++ '@' :: after) :
    '@' :: after = coordinates.text ++ rest ∨ ∃ later, rest = later ++ '@' :: after := by
  cases before with
  | nil => exact .inl same.symm
  | cons first others =>
      right
      have unsigned : '@' ∉ coordinates.position ++ coordinates.lengthText := by
        rw [List.mem_append, not_or]
        refine ⟨unsigned_of_digits proper.position, ?_⟩
        rcases coordinates with ⟨position, length⟩
        cases length with
        | none => exact List.not_mem_nil
        | some part =>
            obtain ⟨signed, row⟩ := proper.length part rfl
            intro member
            rcases List.mem_cons.mp member with sign | inDigits
            · rw [← sign] at signed
              exact absurd signed (by decide)
            · exact unsigned_of_digits row inDigits
      exact sign_behind unsigned (List.cons.inj same).2

/-- Behind the coordinates of an operand there is nothing but what trails it. -/
theorem sign_of_operand {operand : SpelledOperand} {trail : Text} (proper : operand.Proper)
    (spacing : ∀ piece ∈ operand.gap, piece.Spacing)
    (unsigned : ∀ text ∈ operand.quotedTexts, '@' ∉ text)
    (blank : ∀ char ∈ trail, Text.isBlank char = true)
    (same : blanked operand.pieces ++ trail = before ++ '@' :: after) :
    ∃ coordinates : Coordinates, coordinates.Proper ∧ '@' :: after = coordinates.text ++ trail := by
  have noneBehind {front : Text} (none : '@' ∉ front) : front ++ trail ≠ before ++ '@' :: after :=
    no_sign (List.not_mem_append none (unsigned_of_blank blank))
  have only {coordinates : Coordinates} (whole : coordinates.Proper) {front : Text}
      (equal : coordinates.text ++ trail = front ++ '@' :: after) :
      '@' :: after = coordinates.text ++ trail := by
    rcases sign_of_coordinates whole equal with here | ⟨later, behind⟩
    · exact here
    · exact absurd behind (no_sign (unsigned_of_blank blank))
  cases operand with
  | delete => exact absurd same (noneBehind List.not_mem_nil)
  | insert side content =>
      exact absurd same (noneBehind (unsigned_of_quotes (unsigned content List.mem_cons_self)))
  | replace content =>
      exact absurd same (noneBehind (unsigned_of_quotes (unsigned content List.mem_cons_self)))
  | move side target =>
      have whole : (Coordinates.mk target none).Proper := ⟨proper, nofun⟩
      have text : blanked (SpelledOperand.move side target).pieces =
          (Coordinates.mk target none).text := by
        rw [SpelledOperand.pieces, blanked_plainly, Coordinates.text, Coordinates.lengthText,
          List.append_nil]
      exact ⟨_, whole, only whole (text ▸ same)⟩
  | swap described gap coordinates =>
      rw [SpelledOperand.pieces, blanked_append, blanked_plainly, List.append_assoc] at same
      have front : '@' ∉ blanked (quotation described ++ gap) := by
        rw [blanked_append]
        refine List.not_mem_append (unsigned_of_quotation fun content shown => ?_)
          (unsigned_of_blank (blank_of_spacing spacing))
        exact unsigned content (Option.mem_toList.mpr shown)
      obtain ⟨later, behind⟩ := sign_behind front same
      exact ⟨coordinates, proper, only proper behind⟩

end

namespace Spelling

variable {spelling : Spelling}

/-- The text of a spelling from its operator on, without notes and tag lists. -/
def behindOperator (spelling : Spelling) : Text :=
  blanked spelling.after ++ (blanked spelling.operand.pieces ++ blanked spelling.trail)

/-- An at-sign starts the coordinates of a spelling or those of its operand. -/
theorem Proper.sign_told (proper : spelling.Proper)
    (unsigned : ∀ text ∈ spelling.quotedTexts, '@' ∉ text) {before after : Text}
    (same : maskAnnotations spelling.text = before ++ '@' :: after) :
    '@' :: after = spelling.core ∨ ∃ coordinates : Coordinates, coordinates.Proper ∧
      '@' :: after = coordinates.text ++ blanked spelling.trail := by
  have spaced {gap : List Piece} (part : gap ⊆ spelling.gaps) : '@' ∉ blanked gap :=
    unsigned_of_blank (proper.blank part)
  have lead : '@' ∉ blanked spelling.lead := spaced fun piece inside => by simp [gaps, inside]
  have inner : '@' ∉ blanked spelling.inner := spaced fun piece inside => by simp [gaps, inside]
  have described : '@' ∉ blanked (quotation spelling.described) := by
    apply unsigned_of_quotation
    intro content shown
    exact unsigned content (List.mem_append_left _ (Option.mem_toList.mpr shown))
  rw [proper.masked] at same
  obtain ⟨_, same⟩ := sign_behind lead same
  obtain ⟨_, same⟩ := sign_behind described same
  obtain ⟨_, same⟩ := sign_behind inner same
  rcases sign_of_coordinates proper.coordinates same with here | ⟨_, same⟩
  · exact .inl here
  · right
    have gapBefore : '@' ∉ blanked spelling.before :=
      spaced fun piece inside => by simp [gaps, inside]
    have gapAfter : '@' ∉ blanked spelling.after :=
      spaced fun piece inside => by simp [gaps, inside]
    have operator : '@' ∉ spelling.kind.operator := by
      intro member
      exact absurd (operator_signs _ _ member) (by decide)
    obtain ⟨_, same⟩ := sign_behind gapBefore same
    obtain ⟨_, same⟩ := sign_behind operator same
    obtain ⟨_, same⟩ := sign_behind gapAfter same
    refine sign_of_operand proper.operand ?_ ?_ ?_ same
    · exact fun piece inside => proper.spacing piece (by simp [gaps, inside])
    · exact fun text inside => unsigned text (List.mem_append_right _ inside)
    · exact proper.blank fun piece inside => by simp [gaps, inside]

theorem Proper.quoted_next (proper : spelling.Proper) (replaces : spelling.kind = .replace) :
    QuotedNext spelling.behindOperator := by
  have blank : ∀ char ∈ blanked spelling.after, Text.isBlank char = true :=
    proper.blank fun piece inside => by simp [gaps, inside]
  rw [Spelling.kind] at replaces
  rw [behindOperator]
  cases spelled : spelling.operand with
  | replace content =>
      refine ⟨blanked spelling.after, content ++ '"' :: blanked spelling.trail, blank, ?_⟩
      rw [SpelledOperand.pieces, blanked_quotes]
  | _ =>
      rw [spelled] at replaces
      cases replaces

/-- The form of no other kind is found in a spelling. -/
theorem Proper.kind_of_find (proper : spelling.Proper)
    (unsigned : ∀ text ∈ spelling.quotedTexts, '@' ∉ text) {kind : Kind} {found : Match}
    (there : find? kind (maskAnnotations spelling.text) = some found) : kind = spelling.kind := by
  obtain ⟨front, rest, offset, behind, after, masked, read, operand, same⟩ := sign_of_find there
  rcases proper.sign_told unsigned masked with core | ⟨coordinates, whole, trailing⟩
  · have blank : ∀ char ∈ blanked spelling.before, Text.isBlank char = true :=
      proper.blank fun piece inside => by simp [gaps, inside]
    have stops := operator_stops spelling.kind spelling.behindOperator
    rw [core] at read
    have operators := operator_behind proper.coordinates blank stops.1 stops.2 read
    refine (kind_of_operators operators proper.quoted_next ?_).symm
    rintro rfl
    exact quoted_next_of_replacement operand same
  · have blank : ∀ char ∈ blanked spelling.trail, Text.isBlank char = true :=
      proper.blank fun piece inside => by simp [gaps, inside]
    rw [trailing, no_operator_at_end whole blank] at read
    cases read

theorem Proper.find_iff (proper : spelling.Proper)
    (unsigned : ∀ text ∈ spelling.quotedTexts, '@' ∉ text) (kind : Kind) :
    (∃ found, find? kind (maskAnnotations spelling.text) = some found) ↔ kind = spelling.kind := by
  constructor
  · rintro ⟨found, there⟩
    exact proper.kind_of_find unsigned there
  · rintro rfl
    obtain ⟨found, there, _⟩ := proper.found
    exact ⟨found, there⟩

end Spelling

theorem parse_as_of_no_form {kind : Kind} {text : Text} (filled : Text.strip text ≠ [])
    (formless : find? kind (maskAnnotations text) = none) :
    Operation.parseAs kind (some text) = .error (.parse ⟨.form kind, some text, none⟩) := by
  have there := (present_eq_ok_iff (some text) text).mpr ⟨rfl, filled⟩
  rw [Operation.parseAs, there]
  change parseKind kind text = _
  rw [parseKind, formless]

end Grammar

namespace Operation

open Grammar

theorem canonical_quoted_texts (operation : Operation) :
    operation.canonicalSpelling.quotedTexts = operation.quotedTexts := by
  rw [Spelling.quotedTexts, quotedTexts, canonicalSpelling, bareSpelling]
  cases operation.action <;> rfl

/-- If nothing in quotation marks looks like a coordinate, the canonical notation has the
form of its own kind and of no other one: it is read as the operation with this kind, and
refused with each other kind, whatever note and tags hold. -/
theorem canonical_fits_own_kind_only {operation : Operation} (valid : operation.Valid)
    (writable : operation.writable = true) (notatable : operation.Notatable)
    (unsigned : ∀ text ∈ operation.quotedTexts, '@' ∉ text) :
    detect? operation.canonical = some operation.kind ∧ ∀ kind,
      ((∃ found, find? kind (maskAnnotations operation.canonical) = some found) ↔
        kind = operation.kind) ∧
      operation.write >>= (fun text => Operation.parseAs kind (some text)) =
        if kind = operation.kind then .ok operation
        else .error (.parse ⟨.form kind, some operation.canonical, none⟩) := by
  have proper := canonical_proper valid notatable
  have same : operation.canonicalSpelling.kind = operation.kind := spelled_kind operation
  have detected : detect? operation.canonical = some operation.kind := by
    rw [canonical_text valid, proper.detected, same]
  have fits (kind : Kind) :
      (∃ found, find? kind (maskAnnotations operation.canonical) = some found) ↔
        kind = operation.kind := by
    rw [canonical_text valid, ← same]
    exact proper.find_iff (canonical_quoted_texts operation ▸ unsigned) kind
  have read := parse_canonical valid writable notatable
  have written : operation.write = .ok operation.canonical := if_pos writable
  refine ⟨detected, fun kind => ⟨fits kind, ?_⟩⟩
  rw [written]
  change Operation.parseAs kind (some operation.canonical) = _
  split
  · next own =>
      subst own
      exact Spelling.parse_as_of_parse detected read
  · next other =>
      apply parse_as_of_no_form ((parse_eq_ok_iff _ _).mp read).1
      rw [Option.eq_none_iff_forall_ne_some]
      exact fun found fitting => other ((fits kind).mp ⟨found, fitting⟩)

/-- A swap whose texts are operators, and whose note and tags are other operations. -/
def crowdedSwap : Operation where
  described := some "=+".toList
  span := ⟨1, 2⟩
  note := some "see \"x\"@2=\"y\" (@1! [@3>@4".toList
  tags := ["@5!".toList, "@6+=\"t\"".toList]
  action := .swap ⟨7, 2⟩ (some "->".toList)

theorem crowded_swap_valid : crowdedSwap.Valid where
  described := nofun
  start := by decide
  length := by decide
  note := by
    rintro _ ⟨⟩
    decide
  tags := by decide
  action := ⟨by decide, by decide, nofun⟩

theorem crowded_swap_notatable : crowdedSwap.Notatable where
  quoted := by decide
  note := by
    rintro _ ⟨⟩
    decide
  single := nofun

theorem crowded_swap_read_as_swap :
    crowdedSwap.write = .ok crowdedSwap.canonical ∧ crowdedSwap.canonical =
        "\"=+\"@1x2<>\"->\"@7x2 [@5! @6+=\"t\"] \x7bsee \"x\"@2=\"y\" (@1! [@3>@4\x7d".toList ∧
      crowdedSwap.write >>= (fun text => parseAs .swap (some text)) = .ok crowdedSwap ∧
      crowdedSwap.write >>= (fun text => parseAs .delete (some text)) =
        .error (.parse ⟨.form .delete, some crowdedSwap.canonical, none⟩) ∧
      crowdedSwap.write >>= (fun text => parseAs (.move .before) (some text)) =
        .error (.parse ⟨.form (.move .before), some crowdedSwap.canonical, none⟩) := by
  have own := canonical_fits_own_kind_only crowded_swap_valid (by decide) crowded_swap_notatable
    (by decide)
  refine ⟨if_pos (by decide), by decide, ?_, ?_, ?_⟩
  · rw [(own.2 .swap).2, if_pos (by decide)]
  · rw [(own.2 .delete).2, if_neg (by decide)]
  · rw [(own.2 (.move .before)).2, if_neg (by decide)]

/-- With an at-sign in a description two forms may fit. -/
example :
    parseAs .replace (some "\"@1!\"@2=\"x\"".toList) =
        .ok (.plain (some "@1!".toList) ⟨2, 1⟩ (.replace ['x'])) ∧
      parseAs .delete (some "\"@1!\"@2=\"x\"".toList) = .ok (.plain none ⟨1, 1⟩ .delete) := by
  constructor <;> cbv

end Operation

end EditScript
