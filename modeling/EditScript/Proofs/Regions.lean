import EditScript.Grammar.Literal

/-!
# Reading pieces back

A text that is put together from pieces falls apart into the same pieces, provided
that each of them is closed: its characters open no region, and its regions hold no
closing delimiter of their own. So what a spelling means can be read off its pieces,
and the text itself is not scanned again.
-/

namespace EditScript.Grammar

set_option autoImplicit false

/-- A piece that is read as it stands, whatever text follows. -/
def Piece.Closed : Piece → Prop
  | plain char => Delimiter.ofOpening? char = none
  | literal delimiter content => delimiter.closing ∉ content

/-- A piece that may stand between two tokens: a blank, a note or a tag list. -/
def Piece.Spacing : Piece → Prop
  | plain char => Text.isBlank char = true
  | literal delimiter content => delimiter ≠ .quotes ∧ delimiter.closing ∉ content

instance (piece : Piece) : Decidable piece.Spacing :=
  match piece with
  | .plain char => inferInstanceAs (Decidable (Text.isBlank char = true))
  | .literal delimiter content =>
    inferInstanceAs (Decidable (delimiter ≠ .quotes ∧ delimiter.closing ∉ content))

/-- The characters of a text, none of which is part of a region. -/
def plainly (text : Text) : List Piece :=
  text.map Piece.plain

theorem split_at_eq_none_iff {char : Char} {text : Text} :
    splitAt? char text = none ↔ char ∉ text := by
  constructor
  · intro none inside
    obtain ⟨front, back, rfl, outside⟩ := List.eq_append_cons_of_mem inside
    rw [splitAt_append outside] at none
    cases none
  · intro outside
    rw [Option.eq_none_iff_forall_ne_some]
    rintro ⟨front, back⟩ split
    apply outside
    rw [eq_of_splitAt split]
    exact List.mem_append_right front List.mem_cons_self

/-- A character opens no region exactly if the text behind it lacks the delimiter that would
close the region. -/
theorem region_eq_none_iff {char : Char} {rest : Text} :
    region? char rest = none ↔
      ∀ delimiter, Delimiter.ofOpening? char = some delimiter → delimiter.closing ∉ rest := by
  unfold region?
  split
  · next ordinary => simp [ordinary]
  · next form opened =>
      rw [Option.map_eq_none_iff, split_at_eq_none_iff, opened]
      constructor
      · rintro unclosed _ ⟨⟩
        exact unclosed
      · intro unclosed
        exact unclosed form rfl

/-- A piece that is read as it stands in front of a text. -/
def Piece.Settled (behind : Text) : Piece → Prop
  | plain char =>
    ∀ delimiter, Delimiter.ofOpening? char = some delimiter → delimiter.closing ∉ behind
  | literal delimiter content => delimiter.closing ∉ content

theorem Piece.Closed.settled {piece : Piece} (closed : piece.Closed) (behind : Text) :
    piece.Settled behind := by
  cases piece with
  | plain char =>
      intro delimiter opened
      cases closed.symm.trans opened
  | literal delimiter content => exact closed

theorem pieces_cons {piece : Piece} {behind : Text} (settled : piece.Settled behind) :
    pieces (piece.text ++ behind) = piece :: pieces behind := by
  cases piece with
  | plain char =>
      have unopened := region_eq_none_iff.mpr settled
      rw [Piece.text, List.singleton_append, pieces]
      split
      · next found => cases unopened.symm.trans found
      · rfl
  | literal delimiter content =>
      have opened : region? delimiter.opening (content ++ delimiter.closing :: behind) =
          some (delimiter, content, behind) := by
        simp [region?, Delimiter.ofOpening_opening, splitAt_append settled]
      rw [Piece.text, List.cons_append, List.append_assoc, List.singleton_append, pieces]
      split
      · next found =>
          rw [opened] at found
          cases found
          rfl
      · next found => cases opened.symm.trans found

theorem pieces_plain {char : Char} (ordinary : Delimiter.ofOpening? char = none) (rest : Text) :
    pieces (char :: rest) = .plain char :: pieces rest := by
  have closed : (Piece.plain char).Closed := ordinary
  exact pieces_cons (closed.settled rest)

theorem pieces_literal {delimiter : Delimiter} {content : Text}
    (closed : delimiter.closing ∉ content) (rest : Text) :
    pieces (delimiter.opening :: (content ++ delimiter.closing :: rest)) =
      .literal delimiter content :: pieces rest := by
  have read := @pieces_cons (.literal delimiter content) rest closed
  rwa [Piece.text, List.cons_append, List.append_assoc, List.singleton_append] at read

theorem not_mem_of_region {char : Char} {rest content behind : Text} {delimiter : Delimiter}
    (found : region? char rest = some (delimiter, content, behind)) :
    delimiter.closing ∉ content := by
  unfold region? at found
  split at found
  · cases found
  · rcases Option.map_eq_some_iff.mp found with ⟨⟨front, back⟩, split, same⟩
    cases same
    exact not_mem_of_splitAt split

theorem pieces_append {front : List Piece} (closed : ∀ piece ∈ front, piece.Closed) (rest : Text) :
    pieces (front.flatMap Piece.text ++ rest) = front ++ pieces rest := by
  induction front with
  | nil => rfl
  | cons piece front induction =>
      have here := closed piece List.mem_cons_self
      have later := induction fun other member => closed other (List.mem_cons_of_mem piece member)
      rw [List.flatMap_cons, List.append_assoc, pieces_cons (here.settled _), later,
        List.cons_append]

/-- Every piece is read as it stands in front of those behind it. -/
def Settled : List Piece → Prop
  | [] => True
  | piece :: rest => piece.Settled (rest.flatMap Piece.text) ∧ Settled rest

theorem settled_append {front rest : List Piece} (closed : ∀ piece ∈ front, piece.Closed)
    (settled : Settled rest) : Settled (front ++ rest) := by
  induction front with
  | nil => exact settled
  | cons piece front induction =>
      constructor
      · exact (closed piece List.mem_cons_self).settled _
      · exact induction fun other member => closed other (List.mem_cons_of_mem piece member)

theorem settled_behind {front rest : List Piece} (settled : Settled (front ++ rest)) :
    Settled rest := by
  induction front with
  | nil => exact settled
  | cons piece front induction => exact induction settled.2

theorem pieces_of_settled {parts : List Piece} (settled : Settled parts) :
    pieces (parts.flatMap Piece.text) = parts := by
  induction parts with
  | nil => simp [pieces]
  | cons piece rest induction =>
      rw [List.flatMap_cons, pieces_cons settled.1, induction settled.2]

/-- The pieces of a text are settled: its regions are closed, and behind a character that opens
none the closing delimiter does not occur any more. -/
theorem settled_pieces (text : Text) : Settled (pieces text) := by
  fun_induction pieces text with
  | case1 => trivial
  | case2 char rest delimiter content behind found induction =>
      exact ⟨not_mem_of_region found, induction⟩
  | case3 char rest found induction =>
      refine ⟨?_, induction⟩
      rw [flatMap_text_pieces]
      exact region_eq_none_iff.mp found

theorem pieces_of_closed {parts : List Piece} (closed : ∀ piece ∈ parts, piece.Closed) :
    pieces (parts.flatMap Piece.text) = parts := by
  have settled := @settled_append parts [] closed trivial
  rw [List.append_nil] at settled
  exact pieces_of_settled settled

theorem ordinary_of_class {inClass : Char → Bool} {char : Char}
    (apart : ∀ delimiter : Delimiter, inClass delimiter.opening = false)
    (inside : inClass char = true) : Delimiter.ofOpening? char = none := by
  rw [Option.eq_none_iff_forall_ne_some]
  intro delimiter opened
  rw [← Delimiter.opening_of_ofOpening opened, apart delimiter] at inside
  cases inside

theorem ordinary_of_blank {char : Char} (blank : Text.isBlank char = true) :
    Delimiter.ofOpening? char = none :=
  ordinary_of_class (by intro delimiter; cases delimiter <;> decide) blank

theorem Piece.Spacing.closed {piece : Piece} (spacing : piece.Spacing) : piece.Closed := by
  cases piece with
  | plain char => exact ordinary_of_blank spacing
  | literal delimiter content => exact spacing.2

theorem flat_map_plainly {rendering : Piece → Text}
    (plain : ∀ char, rendering (.plain char) = [char]) (text : Text) :
    (plainly text).flatMap rendering = text := by
  induction text with
  | nil => rfl
  | cons char rest induction =>
      change rendering (.plain char) ++ (plainly rest).flatMap rendering = char :: rest
      rw [plain, induction, List.singleton_append]

theorem closed_plainly {text : Text}
    (ordinary : ∀ char ∈ text, Delimiter.ofOpening? char = none) :
    ∀ piece ∈ plainly text, piece.Closed := by
  intro piece member
  rcases List.mem_map.mp member with ⟨char, inside, rfl⟩
  exact ordinary char inside

theorem blank_of_mem_spaces {count : Nat} {char : Char} (member : char ∈ Text.spaces count) :
    Text.isBlank char = true := by
  rw [List.eq_of_mem_replicate member]
  decide

/-- A literal that is not quoted is blanked out as a whole. -/
theorem Piece.masked_unquoted {delimiter : Delimiter} (unquoted : delimiter ≠ .quotes)
    (content : Text) :
    (literal delimiter content).withoutAnnotations = Text.spaces (content.length + 2) := by
  cases delimiter with
  | quotes => exact absurd rfl unquoted
  | _ => rfl

/-- Spacing is masked to blanks: a note or a tag list leaves nothing else behind. -/
theorem blank_of_mem_masked {gap : List Piece} (spacing : ∀ piece ∈ gap, piece.Spacing)
    {char : Char} (member : char ∈ gap.flatMap Piece.withoutAnnotations) : Text.isBlank char = true := by
  rcases List.mem_flatMap.mp member with ⟨piece, inside, found⟩
  have blank := spacing piece inside
  cases piece with
  | plain other =>
      rw [List.mem_singleton.mp found]
      exact blank
  | literal delimiter content =>
      rw [Piece.masked_unquoted blank.1] at found
      exact blank_of_mem_spaces found

theorem literals_eq_annotations {gap : List Piece} (spacing : ∀ piece ∈ gap, piece.Spacing) :
    gap.flatMap Piece.withoutLiterals = gap.flatMap Piece.withoutAnnotations := by
  induction gap with
  | nil => rfl
  | cons piece rest induction =>
      have here := spacing piece List.mem_cons_self
      rw [List.flatMap_cons, List.flatMap_cons,
        induction fun other member => spacing other (List.mem_cons_of_mem piece member)]
      cases piece with
      | plain char => rfl
      | literal delimiter content => rw [Piece.masked_unquoted here.1, Piece.withoutLiterals]

/-- No region of a text holds the delimiter that closes it. -/
theorem closing_not_mem {text content : Text} {delimiter : Delimiter}
    (member : Piece.literal delimiter content ∈ pieces text) : delimiter.closing ∉ content := by
  obtain ⟨front, back, split⟩ := List.append_of_mem member
  have settled := settled_pieces text
  rw [split] at settled
  exact (settled_behind settled).1

end EditScript.Grammar
