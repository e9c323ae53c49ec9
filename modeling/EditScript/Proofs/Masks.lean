import EditScript.Proofs.Stretches
import Mathlib.Logic.Basic

/-!
# Texts with regions blanked out

Both masks of a text come about in one way: each region of some forms is replaced by spaces.
Blanking a region takes characters away and brings none but spaces in, so a character that
opened no region before opens none afterwards. The regions of a masked text are therefore those
that were left, in their places, and a further mask blanks those of its own forms among them.
-/

namespace EditScript.Grammar

set_option autoImplicit false

variable {forms others : List Delimiter} {text : Text}

namespace Piece

/-- The pieces that stand for a piece where regions of some forms are blanked out. -/
def blanked (forms : List Delimiter) (piece : Piece) : List Piece :=
  if piece.isRegion forms then plainly (Text.spaces piece.text.length) else [piece]

/-- The text of a piece, or as many spaces if it is a region of one of these forms. -/
def blankedText (forms : List Delimiter) (piece : Piece) : Text :=
  if piece.isRegion forms then Text.spaces piece.text.length else piece.text

theorem text_blanked (forms : List Delimiter) (piece : Piece) :
    (piece.blanked forms).flatMap Piece.text = piece.blankedText forms := by
  rw [blanked, blankedText]
  split
  · exact flat_map_plainly (fun _ => rfl) _
  · exact List.append_nil piece.text

theorem length_blanked_text (forms : List Delimiter) (piece : Piece) :
    (piece.blankedText forms).length = piece.text.length := by
  rw [blankedText]
  split
  · exact List.length_replicate
  · rfl

theorem without_literals_eq : withoutLiterals = blankedText literalForms := by
  funext piece
  cases piece with
  | plain char => rfl
  | literal delimiter content =>
      have every : delimiter ∈ literalForms := by cases delimiter <;> decide
      simp [withoutLiterals, blankedText, isRegion, every, Piece.text]

theorem without_annotations_eq : withoutAnnotations = blankedText annotationForms := by
  funext piece
  cases piece with
  | plain char => rfl
  | literal delimiter content =>
      cases delimiter <;> simp [withoutAnnotations, withoutLiterals, blankedText, isRegion,
        annotationForms, Piece.text]

theorem is_region_append (first second : List Delimiter) (piece : Piece) :
    piece.isRegion (first ++ second) = (piece.isRegion first || piece.isRegion second) := by
  cases piece with
  | plain char => rfl
  | literal delimiter content => simp [isRegion]

theorem is_region_left (forms others : List Delimiter) (piece : Piece) :
    piece.isRegion (others.filter (· ∉ forms)) =
      (piece.isRegion others && !piece.isRegion forms) := by
  cases piece with
  | plain char => rfl
  | literal delimiter content => simp [isRegion, List.mem_filter]

end Piece

theorem blanked_plain_row (row : Text) :
    (plainly row).flatMap (Piece.blanked forms) = plainly row := by
  induction row with
  | nil => rfl
  | cons char rest induction => exact congrArg (Piece.plain char :: ·) induction

/-- Blanking twice is blanking the regions of all forms. -/
theorem Piece.blanked_twice (first second : List Delimiter) (piece : Piece) :
    (piece.blanked first).flatMap (Piece.blanked second) = piece.blanked (first ++ second) := by
  by_cases region : piece.isRegion first = true
  · simp only [blanked, is_region_append, region, Bool.true_or, if_true]
    exact blanked_plain_row _
  · rw [blanked, if_neg region, List.flatMap_singleton]
    simp only [blanked, is_region_append, region, Bool.false_or]

/-- The text with its regions of some forms blanked out. -/
def blankOut (forms : List Delimiter) (text : Text) : Text :=
  (pieces text).flatMap (Piece.blankedText forms)

theorem mask_literals_eq (text : Text) : maskLiterals text = blankOut literalForms text := by
  rw [maskLiterals, Piece.without_literals_eq, blankOut]

theorem mask_annotations_eq (text : Text) :
    maskAnnotations text = blankOut annotationForms text := by
  rw [maskAnnotations, Piece.without_annotations_eq, blankOut]

theorem text_blanked_row (forms : List Delimiter) (parts : List Piece) :
    (parts.flatMap (Piece.blanked forms)).flatMap Piece.text =
      parts.flatMap (Piece.blankedText forms) := by
  rw [List.flatMap_assoc]
  apply congrArg (List.flatMap · parts)
  funext piece
  exact piece.text_blanked forms

/-! ### What is read of a masked text -/

/-- Blanking brings nothing but spaces in. -/
theorem mem_of_mem_blanked {parts : List Piece} {char : Char} (visible : char ≠ ' ')
    (member : char ∈ parts.flatMap (Piece.blankedText forms)) : char ∈ parts.flatMap Piece.text := by
  obtain ⟨piece, inside, shown⟩ := List.mem_flatMap.mp member
  apply List.mem_flatMap.mpr
  refine ⟨piece, inside, ?_⟩
  rw [Piece.blankedText] at shown
  split at shown
  · exact absurd (List.eq_of_mem_replicate shown) visible
  · exact shown

theorem mem_flat_of_masked {parts : List Piece} {char : Char} (visible : char ≠ ' ')
    (member : char ∈ parts.flatMap Piece.withoutAnnotations) : char ∈ parts.flatMap Piece.text := by
  rw [Piece.without_annotations_eq] at member
  exact mem_of_mem_blanked visible member

theorem mem_of_mem_masked {char : Char} (visible : char ≠ ' ')
    (member : char ∈ maskAnnotations text) : char ∈ text := by
  rw [← flatMap_text_pieces text]
  exact mem_flat_of_masked visible member

/-- A piece that is read as it stands is so in front of a blanked text: no closing delimiter has
come into it. -/
theorem Piece.Settled.blanked {piece : Piece} {parts : List Piece}
    (settled : piece.Settled (parts.flatMap Piece.text)) :
    piece.Settled (parts.flatMap (Piece.blankedText forms)) := by
  cases piece with
  | plain char =>
      intro delimiter opened member
      have visible : delimiter.closing ≠ ' ' := by cases delimiter <;> decide
      exact settled delimiter opened (mem_of_mem_blanked visible member)
  | literal delimiter content => exact settled

theorem settled_blanked {parts : List Piece} (settled : Settled parts) :
    Settled (parts.flatMap (Piece.blanked forms)) := by
  induction parts with
  | nil => trivial
  | cons piece rest induction =>
      have later := induction settled.2
      rw [List.flatMap_cons, Piece.blanked]
      split
      · apply settled_append _ later
        apply closed_plainly
        intro char member
        exact ordinary_of_blank (blank_of_mem_spaces member)
      · rw [List.singleton_append, Settled, text_blanked_row]
        exact ⟨settled.1.blanked, later⟩

/-- The pieces of a masked text are those of the text, with the blanked regions fallen apart
into spaces. -/
theorem pieces_blank_out (forms : List Delimiter) (text : Text) :
    pieces (blankOut forms text) = (pieces text).flatMap (Piece.blanked forms) := by
  have settled := @settled_blanked forms _ (settled_pieces text)
  rw [blankOut, ← text_blanked_row, pieces_of_settled settled]

theorem blank_out_twice (first second : List Delimiter) (text : Text) :
    blankOut second (blankOut first text) = blankOut (first ++ second) text := by
  calc
    blankOut second (blankOut first text) =
        ((pieces text).flatMap (Piece.blanked first)).flatMap (Piece.blankedText second) := by
      rw [blankOut, pieces_blank_out]
    _ = (((pieces text).flatMap (Piece.blanked first)).flatMap (Piece.blanked second)).flatMap
        Piece.text := (text_blanked_row second _).symm
    _ = ((pieces text).flatMap (Piece.blanked (first ++ second))).flatMap Piece.text := by
      simp only [List.flatMap_assoc, Piece.blanked_twice]
    _ = blankOut (first ++ second) text := text_blanked_row (first ++ second) _

theorem blank_out_congr {first second : List Delimiter}
    (same : ∀ delimiter, delimiter ∈ first ↔ delimiter ∈ second) (text : Text) :
    blankOut first text = blankOut second text := by
  apply congrArg (List.flatMap · (pieces text))
  funext piece
  have region : piece.isRegion first = piece.isRegion second := by
    cases piece with
    | plain char => rfl
    | literal delimiter content => simp only [Piece.isRegion, same]
  rw [Piece.blankedText, region, ← Piece.blankedText]

/-- A mask leaves no trace of one that blanks fewer forms. -/
theorem blank_out_wider {first second : List Delimiter} (within : first ⊆ second) (text : Text) :
    blankOut second (blankOut first text) = blankOut second text := by
  rw [blank_out_twice]
  apply blank_out_congr
  intro delimiter
  rw [List.mem_append]
  exact or_iff_right_of_imp fun member => within member

/-- A mask finds nothing left to blank behind one that blanks more forms. -/
theorem blank_out_narrower {first second : List Delimiter} (within : second ⊆ first)
    (text : Text) : blankOut second (blankOut first text) = blankOut first text := by
  rw [blank_out_twice]
  apply blank_out_congr
  intro delimiter
  rw [List.mem_append]
  exact or_iff_left_of_imp fun member => within member

/-! ### Where the regions of a masked text stand -/

theorem regions_plain_row (offset : Nat) (row : Text) (parts : List Piece) :
    regionsFrom others offset (plainly row ++ parts) =
      regionsFrom others (offset + row.length) parts := by
  induction row generalizing offset with
  | nil => rfl
  | cons char rest induction =>
      have later := induction (offset + 1)
      rw [Nat.add_assoc, Nat.add_comm 1] at later
      exact later

/-- The regions among blanked pieces are those of the forms that are left, where they were. -/
theorem regions_blanked (offset : Nat) (parts : List Piece) :
    regionsFrom others offset (parts.flatMap (Piece.blanked forms)) =
      regionsFrom (others.filter (· ∉ forms)) offset parts := by
  induction parts generalizing offset with
  | nil => rfl
  | cons piece rest induction =>
      rw [List.flatMap_cons, Piece.blanked, regionsFrom, Piece.is_region_left]
      split
      · next region =>
          rw [regions_plain_row, induction]
          simp [region, Text.spaces]
      · next kept =>
          rw [List.singleton_append, regionsFrom, induction]
          simp [kept]

theorem regions_of_no_form (offset : Nat) (parts : List Piece) :
    regionsFrom [] offset parts = [] := by
  apply List.eq_nil_iff_forall_not_mem.mpr
  intro region member
  obtain ⟨_, piece, _, _, among, _⟩ := mem_regions_from_iff.mp member
  cases piece with
  | plain char => cases among
  | literal delimiter content => simp [Piece.isRegion] at among

/-- The region pieces among blanked pieces, with what they hold, are those of the forms that are
left. -/
theorem literals_blanked (parts : List Piece) :
    (parts.flatMap (Piece.blanked forms)).filter (Piece.isRegion others) =
      parts.filter (Piece.isRegion (others.filter (· ∉ forms))) := by
  induction parts with
  | nil => rfl
  | cons piece rest induction =>
      rw [List.flatMap_cons, Piece.blanked, List.filter_append, induction, List.filter_cons,
        Piece.is_region_left]
      split
      · next region =>
          have plain : (plainly (Text.spaces piece.text.length)).filter (Piece.isRegion others) =
              [] := by
            apply List.filter_eq_nil_iff.mpr
            intro part member
            obtain ⟨char, _, rfl⟩ := List.mem_map.mp member
            exact Bool.false_ne_true
          rw [plain, region]
          simp
      · next kept =>
          rw [Bool.not_eq_true] at kept
          rw [kept, Bool.not_false, Bool.and_true, List.filter_cons, List.filter_nil]
          split <;> rfl

/-! ### Where a masked text differs -/

/-- A masked text is as long as the text. It has spaces inside the regions of some forms, and
outside of them it is the same. -/
structure Blanks (forms : List Delimiter) (text masked : Text) : Prop where
  length : masked.length = text.length
  inside : ∀ index, ¬Stretch.Outside forms text ⟨index, index + 1⟩ → masked[index]? = some ' '
  outside : ∀ index, Stretch.Outside forms text ⟨index, index + 1⟩ → masked[index]? = text[index]?

theorem blank_out_at {front back : List Piece} {piece : Piece} {index : Nat}
    (split : pieces text = front ++ piece :: back) (inside : index < piece.text.length) :
    (blankOut forms text)[width front + index]? =
      if piece.isRegion forms then some ' ' else text[width front + index]? := by
  have masked : (blankOut forms text)[width front + index]? =
      (piece.blankedText forms)[index]? := by
    rw [blankOut, split]
    exact rendered_at (Piece.length_blanked_text forms) inside
  have original : text[width front + index]? = piece.text[index]? := by
    have rendered := @rendered_at Piece.text (fun _ => rfl) front back piece index inside
    rwa [← split, flatMap_text_pieces] at rendered
  rw [masked, original, Piece.blankedText]
  split
  · exact List.getElem?_replicate_of_lt inside
  · rfl

theorem length_blank_out (forms : List Delimiter) (text : Text) :
    (blankOut forms text).length = text.length := by
  conv => rhs; rw [← flatMap_text_pieces text]
  simp only [blankOut, List.length_flatMap, Piece.length_blanked_text]

theorem blank_out_blanks (forms : List Delimiter) (text : Text) :
    Blanks forms text (blankOut forms text) where
  length := length_blank_out forms text
  inside := by
    intro place cut
    rw [outside_iff] at cut
    simp only [not_forall] at cut
    obtain ⟨front, piece, back, split, region, touches⟩ := cut
    rcases not_or.mp touches with ⟨starts, ends⟩
    dsimp only at starts ends
    obtain ⟨index, rfl⟩ := Nat.exists_eq_add_of_le (Nat.le_of_lt_succ (Nat.lt_of_not_le starts))
    have within : index < piece.text.length := by omega
    rw [blank_out_at split within, if_pos region]
  outside := by
    intro place apart
    by_cases within : place < width (pieces text)
    · obtain ⟨front, piece, back, split, starts, ends⟩ := piece_around within
      obtain ⟨index, rfl⟩ := Nat.exists_eq_add_of_le starts
      rw [blank_out_at split (by omega)]
      apply if_neg
      intro region
      rcases outside_iff.mp apart front piece back split region with before | behind
      · dsimp only at before
        omega
      · dsimp only at behind
        omega
    · have beyond : text.length ≤ place := by
        rw [width, flatMap_text_pieces] at within
        exact Nat.le_of_not_lt within
      rw [List.getElem?_eq_none beyond, List.getElem?_eq_none]
      rwa [length_blank_out]

/-- Both masks keep the length of a text and change nothing but to put spaces into its regions:
the one into all of them, the other into notes and tag lists. Each is the same when it is put on
twice, and together they are the wider one, in either order. No region is left by the wider one, and a
search for a literal finds none; by the other exactly the quoted texts are, where they stood and with what they held. -/
theorem masks_agree (text : Text) :
    Blanks literalForms text (maskLiterals text) ∧
      Blanks annotationForms text (maskAnnotations text) ∧
      maskLiterals (maskLiterals text) = maskLiterals text ∧
      maskAnnotations (maskAnnotations text) = maskAnnotations text ∧
      maskLiterals (maskAnnotations text) = maskLiterals text ∧
      maskAnnotations (maskLiterals text) = maskLiterals text ∧
      regionsFrom literalForms 0 (pieces (maskLiterals text)) = [] ∧
      firstLiteral? 0 (pieces (maskLiterals text)) = none ∧
      regionsFrom literalForms 0 (pieces (maskAnnotations text)) =
        regionsFrom [.quotes] 0 (pieces text) ∧
      (pieces (maskAnnotations text)).filter (Piece.isRegion literalForms) =
        (pieces text).filter (Piece.isRegion [.quotes]) := by
  have among : annotationForms ⊆ literalForms := List.subset_cons_self _ _
  have noneLeft : regionsFrom literalForms 0 (pieces (blankOut literalForms text)) = [] := by
    rw [pieces_blank_out, regions_blanked]
    exact regions_of_no_form 0 (pieces text)
  simp only [mask_literals_eq, mask_annotations_eq]
  refine ⟨blank_out_blanks _ text, blank_out_blanks _ text, ?_, ?_, ?_, ?_, noneLeft, ?_, ?_, ?_⟩
  · exact blank_out_wider (List.Subset.refl _) text
  · exact blank_out_wider (List.Subset.refl _) text
  · exact blank_out_wider among text
  · exact blank_out_narrower among text
  · rw [first_literal_eq, noneLeft]
    rfl
  · rw [pieces_blank_out, regions_blanked]
    rfl
  · rw [pieces_blank_out, literals_blanked]
    rfl

end EditScript.Grammar
