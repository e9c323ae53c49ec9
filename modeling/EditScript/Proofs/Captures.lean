import EditScript.Proofs.Assembly
import EditScript.Proofs.Scanning

/-!
# What a form has taken from a text

The converse of reading tokens. A step of a cursor passes over a part of the text, and
what the step returns is told by that part: a numeral is a row of digits, and the text
between two quotation marks holds no other. So every numeral of a form that has been
found, in whatever text, is a row of digits. They are listed here in the order in which
they are read, each with its name and the least number that it may stand for.
-/

namespace EditScript.Grammar

set_option autoImplicit false

namespace Cursor

variable {cursor behind : Cursor}

/-- A cursor moves over a part of its text. -/
structure Passes (cursor : Cursor) (part : Text) (behind : Cursor) : Prop where
  rest : cursor.rest = part ++ behind.rest
  offset : behind.offset = cursor.offset + part.length

theorem Passes.trans {between : Cursor} {front back : Text} (first : cursor.Passes front between)
    (second : between.Passes back behind) : cursor.Passes (front ++ back) behind where
  rest := by
    rw [first.rest, second.rest, List.append_assoc]
  offset := by
    rw [second.offset, first.offset, List.length_append, Nat.add_assoc]

theorem passes_advance {part rest : Text} (front : cursor.rest = part ++ rest) :
    cursor.Passes part (cursor.advance part.length) where
  rest := by
    rw [advance, front, List.drop_left]
  offset := rfl

theorem passes_blanks (cursor : Cursor) :
    ∃ blanks, (∀ char ∈ blanks, Text.isBlank char = true) ∧
      cursor.Passes blanks cursor.skipBlanks :=
  ⟨cursor.rest.takeWhile Text.isBlank, fun _ member => List.mem_takeWhile_imp member,
    passes_advance List.takeWhile_append_dropWhile.symm⟩

theorem passes_token {token : Text} (read : cursor.token? token = some behind) :
    cursor.Passes token behind := by
  unfold token? at read
  split at read
  · next front =>
      rcases List.isPrefixOf_iff_prefix.mp front with ⟨rest, text⟩
      cases read
      exact passes_advance text.symm
  · cases read

theorem passes_numeral {digits : Capture} (read : cursor.numeral? = some (digits, behind)) :
    cursor.Passes digits.text behind ∧ digits.offset = cursor.offset ∧
      Numeral.Digits digits.text := by
  dsimp only [numeral?] at read
  split at read
  · cases read
  · next filled =>
      cases read
      refine ⟨passes_advance List.takeWhile_append_dropWhile.symm, rfl, ?_, ?_⟩
      · simpa using filled
      · exact fun char member => List.mem_takeWhile_imp member

theorem passes_position {digits : Capture} (read : cursor.position? = some (digits, behind)) :
    cursor.Passes ('@' :: digits.text) behind ∧ digits.offset = cursor.offset + 1 ∧
      Numeral.Digits digits.text := by
  rcases Option.bind_eq_some_iff.mp read with ⟨afterSign, sign, numeral⟩
  have passesSign := passes_token sign
  rcases passes_numeral numeral with ⟨passesDigits, offset, row⟩
  exact ⟨passesSign.trans passesDigits, offset.trans passesSign.offset, row⟩

/-- A length is passed over together with its sign, or nothing is. -/
theorem passes_length {length : Option Capture} (read : cursor.length? = (length, behind)) :
    (length = none ∧ behind = cursor) ∨
      ∃ sign digits, length = some digits ∧ isLengthSign sign = true ∧
        cursor.Passes (sign :: digits.text) behind ∧ digits.offset = cursor.offset + 1 ∧
        Numeral.Digits digits.text := by
  unfold length? at read
  split at read
  · next sign rest text =>
      split at read
      · next signed =>
          split at read
          · next digits after numeral =>
              cases read
              have passesSign : cursor.Passes [sign] (cursor.advance 1) := passes_advance text
              rcases passes_numeral numeral with ⟨passesDigits, offset, row⟩
              exact .inr ⟨sign, digits, rfl, signed, passesSign.trans passesDigits,
                offset.trans passesSign.offset, row⟩
          · cases read
            exact .inl ⟨rfl, rfl⟩
      · cases read
        exact .inl ⟨rfl, rfl⟩
  · cases read
    exact .inl ⟨rfl, rfl⟩

theorem passes_quoted {content : Capture} (read : cursor.quoted? = some (content, behind)) :
    cursor.Passes ('"' :: (content.text ++ ['"'])) behind ∧ '"' ∉ content.text := by
  unfold quoted? at read
  split at read
  · next rest text =>
      rcases Option.map_eq_some_iff.mp read with ⟨⟨front, back⟩, split, same⟩
      cases same
      have whole : cursor.rest = ('"' :: (front ++ ['"'])) ++ back := by
        rw [text, eq_of_splitAt split]
        simp
      have passes := passes_advance whole
      rw [List.length_cons, List.length_append, List.length_singleton] at passes
      exact ⟨passes, not_mem_of_splitAt split⟩
  · cases read

/-- A description is passed over together with its quotation marks and the blanks
behind it; without one only blanks are. -/
theorem passes_description {described : Option Capture}
    (read : cursor.description? = some (described, behind)) :
    (described = none ∧ behind = cursor.skipBlanks) ∨
      ∃ content after, described = some content ∧ cursor.quoted? = some (content, after) ∧
        behind = after.skipBlanks := by
  unfold description? at read
  split at read
  · rcases Option.map_eq_some_iff.mp read with ⟨⟨content, after⟩, quoted, same⟩
    cases same
    exact .inr ⟨content, after, rfl, quoted, rfl⟩
  · cases read
    exact .inl ⟨rfl, rfl⟩

/-- A description leads on to the place where the position is read. -/
theorem passes_to_position {described : Option Capture}
    (read : cursor.description? = some (described, behind)) :
    ∃ part, cursor.Passes part behind := by
  rcases passes_description read with ⟨_, rfl⟩ | ⟨_, after, _, quoted, rfl⟩
  · rcases passes_blanks cursor with ⟨blanks, _, passes⟩
    exact ⟨blanks, passes⟩
  · rcases passes_blanks after with ⟨blanks, _, passes⟩
    exact ⟨_, (passes_quoted quoted).1.trans passes⟩

end Cursor

/-- What can be read behind an operator, and in which steps. -/
inductive ReadsOperand (cursor : Cursor) : Operand → Cursor → Prop
  | delete : ReadsOperand cursor .delete cursor
  | insert (side : Side) {content : Capture} {behind : Cursor}
      (quoted : cursor.skipBlanks.quoted? = some (content, behind)) :
      ReadsOperand cursor (.insert side content) behind
  | replace {content : Capture} {behind : Cursor}
      (quoted : cursor.skipBlanks.quoted? = some (content, behind)) :
      ReadsOperand cursor (.replace content) behind
  | move (side : Side) {target : Capture} {behind : Cursor}
      (position : cursor.skipBlanks.position? = some (target, behind)) :
      ReadsOperand cursor (.move side target) behind
  | swap {described length : Option Capture} {start : Capture}
      {afterDescription afterPosition behind : Cursor}
      (description : cursor.skipBlanks.description? = some (described, afterDescription))
      (position : afterDescription.position? = some (start, afterPosition))
      (size : afterPosition.length? = (length, behind)) :
      ReadsOperand cursor (.swap described start length) behind

theorem operand_steps {kind : Kind} {cursor behind : Cursor} {operand : Operand}
    (read : operand? kind cursor = some (operand, behind)) :
    ReadsOperand cursor operand behind ∧ operand.kind = kind := by
  cases kind with
  | delete =>
      cases read
      exact ⟨.delete, rfl⟩
  | insert side =>
      rcases Option.bind_eq_some_iff.mp read with ⟨⟨content, after⟩, quoted, same⟩
      cases same
      exact ⟨.insert side quoted, rfl⟩
  | replace =>
      rcases Option.bind_eq_some_iff.mp read with ⟨⟨content, after⟩, quoted, same⟩
      cases same
      exact ⟨.replace quoted, rfl⟩
  | move side =>
      rcases Option.bind_eq_some_iff.mp read with ⟨⟨target, after⟩, position, same⟩
      cases same
      exact ⟨.move side position, rfl⟩
  | swap =>
      rcases Option.bind_eq_some_iff.mp read with ⟨⟨described, afterDescription⟩, description, rest⟩
      rcases Option.bind_eq_some_iff.mp rest with ⟨⟨start, afterPosition⟩, position, same⟩
      cases same
      exact ⟨.swap description position rfl, rfl⟩

/-- The steps in which a form is read at a place, and the cursors between them. -/
theorem match_steps {kind : Kind} {cursor : Cursor} {found : Match}
    (here : matchAt? kind cursor = some found) :
    ∃ start afterPosition afterLength afterOperator behind,
      cursor.description? = some (found.described, start) ∧
      start.position? = some (found.position, afterPosition) ∧
      (if kind.takesLength then afterPosition.length? else (none, afterPosition)) =
        (found.length, afterLength) ∧
      afterLength.skipBlanks.token? kind.operator = some afterOperator ∧
      ReadsOperand afterOperator found.operand behind ∧ found.operand.kind = kind := by
  rcases Option.bind_eq_some_iff.mp here with ⟨⟨described, start⟩, description, rest⟩
  rcases Option.bind_eq_some_iff.mp rest with ⟨⟨position, afterPosition⟩, readPosition, rest⟩
  rcases Option.bind_eq_some_iff.mp rest with ⟨afterOperator, operator, rest⟩
  rcases Option.bind_eq_some_iff.mp rest with ⟨⟨operand, behind⟩, readOperand, same⟩
  cases same
  exact ⟨start, afterPosition, _, afterOperator, behind, description, readPosition, rfl, operator,
    operand_steps readOperand⟩

/-- A numeral of a form: what it is called, the least number that it may stand for, and
its digits. -/
structure Reading where
  label : String
  least : Nat
  digits : Capture

/-- A length that is left out is not read. -/
def lengthReading (label : String) (length : Option Capture) : List Reading :=
  length.toList.map fun digits => ⟨label, 1, digits⟩

def Operand.readings : Operand → List Reading
  | .move _ target => [⟨"Target position", 1, target⟩]
  | .swap _ position length =>
    ⟨"Second position", 1, position⟩ :: lengthReading "Second length" length
  | _ => []

/-- What the position in front of the operator is called. -/
def positionLabel : Kind → String
  | .swap => "First position"
  | _ => "Position"

def lengthLabel : Kind → String
  | .swap => "First length"
  | _ => "Length"

/-- The numerals of a form in the order in which they are read. -/
def Match.readings (found : Match) : List Reading :=
  ⟨positionLabel found.operand.kind, found.operand.kind.leastPosition, found.position⟩ ::
    (lengthReading (lengthLabel found.operand.kind) found.length? ++ found.operand.readings)

theorem length_reading_digits {cursor behind : Cursor} {length : Option Capture} (label : String)
    (read : cursor.length? = (length, behind)) :
    ∀ reading ∈ lengthReading label length, Numeral.Digits reading.digits.text := by
  rcases Cursor.passes_length read with ⟨rfl, _⟩ | ⟨_, digits, rfl, _, _, _, row⟩
  · exact List.forall_mem_nil _
  · exact List.forall_mem_singleton.mpr row

theorem operand_readings_digits {cursor behind : Cursor} {operand : Operand}
    (read : ReadsOperand cursor operand behind) :
    ∀ reading ∈ operand.readings, Numeral.Digits reading.digits.text := by
  cases read with
  | move side position => exact List.forall_mem_singleton.mpr (Cursor.passes_position position).2.2
  | swap _ position size =>
      exact List.forall_mem_cons.mpr ⟨(Cursor.passes_position position).2.2,
        length_reading_digits "Second length" size⟩
  | _ => exact List.forall_mem_nil _

/-- The length of a form, as far as its kind takes one, is what was read behind the position. -/
theorem length_of_steps {found : Match} {afterPosition afterLength : Cursor}
    (read : (if found.operand.kind.takesLength then afterPosition.length?
      else (none, afterPosition)) = (found.length, afterLength)) :
    (found.length? = none ∧ afterLength = afterPosition) ∨
      (found.length? = found.length ∧ afterPosition.length? = (found.length, afterLength)) := by
  rw [Match.length?]
  split at read
  · next takes =>
      rw [if_pos takes]
      exact .inr ⟨rfl, read⟩
  · next takes =>
      rw [if_neg takes]
      exact .inl ⟨rfl, (Prod.mk.inj read).2.symm⟩

/-- Every numeral of a form is a row of digits. -/
theorem readings_digits {kind : Kind} {cursor : Cursor} {found : Match}
    (here : matchAt? kind cursor = some found) :
    ∀ reading ∈ found.readings, Numeral.Digits reading.digits.text := by
  rcases match_steps here with
    ⟨_, afterPosition, _, _, _, _, readPosition, readLength, _, readOperand, rfl⟩
  refine List.forall_mem_cons.mpr ⟨(Cursor.passes_position readPosition).2.2, ?_⟩
  refine List.forall_mem_append.mpr ⟨?_, operand_readings_digits readOperand⟩
  rcases length_of_steps readLength with ⟨none, _⟩ | ⟨same, read⟩
  · rw [none]
    exact List.forall_mem_nil _
  · rw [same]
    exact length_reading_digits _ read

def Operand.quotedTexts : Operand → List Text
  | .insert _ content => [content.text]
  | .replace content => [content.text]
  | .swap described _ _ => (textOf described).toList
  | _ => []

theorem not_mem_description {cursor behind : Cursor} {shown : Option Capture}
    (read : cursor.description? = some (shown, behind)) :
    ∀ text ∈ (textOf shown).toList, '"' ∉ text := by
  rcases Cursor.passes_description read with ⟨rfl, _⟩ | ⟨content, _, rfl, quoted, _⟩
  · exact List.forall_mem_nil _
  · exact List.forall_mem_singleton.mpr (Cursor.passes_quoted quoted).2

theorem not_mem_operand {cursor behind : Cursor} {operand : Operand}
    (read : ReadsOperand cursor operand behind) : ∀ text ∈ operand.quotedTexts, '"' ∉ text := by
  cases read with
  | insert side quoted => exact List.forall_mem_singleton.mpr (Cursor.passes_quoted quoted).2
  | replace quoted => exact List.forall_mem_singleton.mpr (Cursor.passes_quoted quoted).2
  | swap description _ _ => exact not_mem_description description
  | _ => exact List.forall_mem_nil _

/-- No quoted text of a form holds a quotation mark. -/
theorem match_quotes {kind : Kind} {cursor : Cursor} {found : Match}
    (here : matchAt? kind cursor = some found) :
    ∀ text ∈ (textOf found.described).toList ++ found.operand.quotedTexts, '"' ∉ text := by
  rcases match_steps here with ⟨_, _, _, _, _, description, _, _, _, readOperand, _⟩
  exact List.forall_mem_append.mpr
    ⟨not_mem_description description, not_mem_operand readOperand⟩

theorem match_of_find_from {kind : Kind} {offset : Nat} {text : Text} {found : Match}
    (search : findFrom? kind offset text = some found) :
    ∃ front cursor, text = front ++ cursor.rest ∧ cursor.offset = offset + front.length ∧
      matchAt? kind cursor = some found := by
  induction text generalizing offset with
  | nil => cases search
  | cons first rest induction =>
      rw [findFrom?] at search
      cases here : matchAt? kind ⟨offset, first :: rest⟩ with
      | some other =>
          rw [here] at search
          cases search
          exact ⟨[], ⟨offset, first :: rest⟩, rfl, rfl, here⟩
      | none =>
          rw [here] at search
          rcases induction search with ⟨front, cursor, text, offset, there⟩
          refine ⟨first :: front, cursor, ?_, ?_, there⟩
          · rw [text, List.cons_append]
          · rw [offset, List.length_cons]
            omega

end EditScript.Grammar
