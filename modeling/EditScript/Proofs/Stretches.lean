import EditScript.Grammar.Cursor
import EditScript.Proofs.Regions

/-!
# Where regions stand

Each piece of a text takes up a stretch of its offsets, behind the stretches of the pieces in
front of it. What is outside the regions of some forms is told by these stretches, and a text
that is put together from the pieces anew, at their widths, has each of them in its place.
-/

namespace EditScript.Grammar

set_option autoImplicit false

/-- The offsets from one up to another. -/
structure Stretch where
  start : Nat
  stop : Nat
  deriving DecidableEq, Repr

def Stretch.Apart (left right : Stretch) : Prop :=
  left.stop ≤ right.start ∨ right.stop ≤ left.start

instance (left right : Stretch) : Decidable (left.Apart right) :=
  inferInstanceAs (Decidable (_ ∨ _))

def Capture.stretch (capture : Capture) : Stretch :=
  ⟨capture.offset, capture.offset + capture.text.length⟩

def Piece.isRegion (forms : List Delimiter) : Piece → Bool
  | plain _ => false
  | literal delimiter _ => delimiter ∈ forms

def annotationForms : List Delimiter :=
  [.parentheses, .braces, .brackets]

def literalForms : List Delimiter :=
  .quotes :: annotationForms

/-- The regions of some forms among the pieces of a text whose offset is given. -/
def regionsFrom (forms : List Delimiter) : (offset : Nat) → List Piece → List Stretch
  | _, [] => []
  | offset, piece :: rest =>
    let behind := offset + piece.text.length
    if piece.isRegion forms then ⟨offset, behind⟩ :: regionsFrom forms behind rest
    else regionsFrom forms behind rest

/-- The first literal that is found is the first of the regions of all forms. -/
theorem first_literal_eq (offset : Nat) (parts : List Piece) :
    firstLiteral? offset parts =
      (regionsFrom literalForms offset parts).head?.map fun region =>
        (region.start, region.stop) := by
  fun_induction firstLiteral? offset parts with
  | case1 => rfl
  | case2 offset char rest induction => exact induction
  | case3 offset delimiter content rest =>
      have every : delimiter ∈ literalForms := by cases delimiter <;> decide
      simp [regionsFrom, Piece.isRegion, every, Piece.text, Nat.add_assoc]

/-- A part of a text that has no offset in common with the regions of some forms. -/
def Stretch.Outside (forms : List Delimiter) (text : Text) (stretch : Stretch) : Prop :=
  ∀ region ∈ regionsFrom forms 0 (pieces text), stretch.Apart region

instance (forms : List Delimiter) (text : Text) (stretch : Stretch) :
    Decidable (stretch.Outside forms text) :=
  inferInstanceAs (Decidable (∀ region ∈ _, _))

def width (parts : List Piece) : Nat :=
  (parts.flatMap Piece.text).length

theorem width_cons (piece : Piece) (rest : List Piece) :
    width (piece :: rest) = piece.text.length + width rest := by
  rw [width, List.flatMap_cons, List.length_append, width]

/-- A region is a piece at the place where the pieces in front of it end. -/
theorem mem_regions_from_iff {forms : List Delimiter} {offset : Nat} {parts : List Piece}
    {region : Stretch} :
    region ∈ regionsFrom forms offset parts ↔
      ∃ front piece back, parts = front ++ piece :: back ∧ piece.isRegion forms = true ∧
        region = ⟨offset + width front, offset + width front + piece.text.length⟩ := by
  induction parts generalizing offset with
  | nil => simp [regionsFrom]
  | cons first rest induction =>
      have later : region ∈ regionsFrom forms (offset + first.text.length) rest ↔
          ∃ front piece back, first :: rest = (first :: front) ++ piece :: back ∧
            piece.isRegion forms = true ∧
            region = ⟨offset + width (first :: front),
              offset + width (first :: front) + piece.text.length⟩ := by
        simp only [induction, width_cons, List.cons_append, List.cons.injEq, true_and,
          Nat.add_assoc]
      have here : region ∈ regionsFrom forms offset (first :: rest) ↔
          (first.isRegion forms = true ∧ region = ⟨offset, offset + first.text.length⟩) ∨
            region ∈ regionsFrom forms (offset + first.text.length) rest := by
        rw [regionsFrom]
        cases first.isRegion forms <;> simp
      rw [here, later]
      constructor
      · rintro (⟨of, same⟩ | ⟨front, piece, back, split, of, same⟩)
        · exact ⟨[], first, rest, rfl, of, same⟩
        · exact ⟨first :: front, piece, back, split, of, same⟩
      · rintro ⟨front, piece, back, split, of, same⟩
        cases front with
        | nil =>
            cases split
            exact .inl ⟨of, same⟩
        | cons other front =>
            cases split
            exact .inr ⟨front, piece, back, rfl, of, same⟩

variable {text : Text}

theorem outside_iff {forms : List Delimiter} {stretch : Stretch} :
    stretch.Outside forms text ↔
      ∀ front piece back, pieces text = front ++ piece :: back → piece.isRegion forms = true →
        stretch.Apart ⟨width front, width front + piece.text.length⟩ := by
  constructor
  · intro outside front piece back split of
    have apart := outside ⟨0 + width front, 0 + width front + piece.text.length⟩
      (mem_regions_from_iff.mpr ⟨front, piece, back, split, of, rfl⟩)
    rwa [Nat.zero_add] at apart
  · intro apart region member
    rcases mem_regions_from_iff.mp member with ⟨front, piece, back, split, of, rfl⟩
    rw [Nat.zero_add]
    exact apart front piece back split of

theorem outside_literal_iff {stretch : Stretch} :
    stretch.Outside literalForms text ↔
      stretch.Outside [.quotes] text ∧ stretch.Outside annotationForms text := by
  simp only [outside_iff, ← forall_and]
  refine forall_congr' fun front => forall_congr' fun piece => forall_congr' fun back =>
    forall_congr' fun split => ?_
  cases piece with
  | plain char => simp [Piece.isRegion]
  | literal delimiter content =>
      cases delimiter <;> simp [Piece.isRegion, literalForms, annotationForms]

theorem outside_quotes_iff {start stop : Nat} :
    Stretch.Outside [.quotes] text ⟨start, stop⟩ ↔
      ∀ front content back, pieces text = front ++ .literal .quotes content :: back →
        stop ≤ width front ∨ width front + (content.length + 2) ≤ start := by
  have size (content : Text) : (Piece.literal .quotes content).text.length = content.length + 2 := by
    simp [Piece.text]
  rw [outside_iff]
  constructor
  · intro apart front content back split
    rw [← size]
    exact apart front _ back split rfl
  · intro apart front piece back split quoted
    cases piece with
    | plain char => cases quoted
    | literal delimiter content =>
        cases List.mem_singleton.mp (of_decide_eq_true quoted)
        rw [Stretch.Apart, size]
        exact apart front content back split

/-- Where one piece ends and the next one starts, no region is cut. -/
theorem outside_between {front back : List Piece} (forms : List Delimiter)
    (split : pieces text = front ++ back) :
    Stretch.Outside forms text ⟨width front, width front⟩ := by
  rw [outside_iff]
  intro before piece behind other _
  rw [split] at other
  rcases List.append_eq_append_iff.mp other with ⟨between, rfl, _⟩ | ⟨between, rfl, rest⟩
  · refine .inl ?_
    simp [width]
  · cases between with
    | nil =>
        refine .inl ?_
        simp [width]
    | cons first between =>
        cases rest
        refine .inr ?_
        simp [width]

/-- Every place of a text lies in one of its pieces. -/
theorem piece_around {parts : List Piece} {place : Nat} (inside : place < width parts) :
    ∃ front piece back, parts = front ++ piece :: back ∧ width front ≤ place ∧
      place < width front + piece.text.length := by
  induction parts generalizing place with
  | nil => exact absurd inside (Nat.not_lt_zero _)
  | cons first rest induction =>
      rw [width_cons] at inside
      by_cases here : place < first.text.length
      · exact ⟨[], first, rest, rfl, Nat.zero_le _, by simpa [width] using here⟩
      · have later : place - first.text.length < width rest := by omega
        rcases induction later with ⟨front, piece, back, rfl, starts, ends⟩
        refine ⟨first :: front, piece, back, rfl, ?_, ?_⟩
        · rw [width_cons]
          omega
        · rw [width_cons]
          omega

/-- Where every piece keeps its width, what a piece is rendered to stands in its place. -/
theorem rendered_at {rendering : Piece → Text}
    (wide : ∀ piece, (rendering piece).length = piece.text.length) {front back : List Piece}
    {piece : Piece} {index : Nat} (inside : index < piece.text.length) :
    ((front ++ piece :: back).flatMap rendering)[width front + index]? =
      (rendering piece)[index]? := by
  have length_front : (front.flatMap rendering).length = width front := by
    simp only [width, List.length_flatMap, wide]
  rw [← length_front, List.flatMap_append, List.getElem?_append_right (Nat.le_add_right _ _),
    Nat.add_sub_cancel_left, List.flatMap_cons, List.getElem?_append_left (by rwa [wide])]

end EditScript.Grammar
