import EditScript.Proofs.Domain
import EditScript.Proofs.Rebuild

/-!
# Exchanging two spans

A swap writes the later one of its spans first and the earlier one afterwards, so that the
coordinates of both are those of the text as it was. What comes of it is the text with the
spans in each other's places. The order in which a swap names its spans makes no difference,
and a swap with the two lengths in each other's places takes it back.
-/

namespace EditScript

set_option autoImplicit false

namespace Span

/-- The one of two spans that starts first. -/
def earlier (first second : Span) : Span :=
  if first.start < second.start then first else second

def later (first second : Span) : Span :=
  if first.start < second.start then second else first

/-- What stands between two spans, the second of which starts behind the end of the first. -/
def gap (first second : Span) : Span :=
  ⟨first.start + first.length, second.start - (first.start + first.length)⟩

/-- Spans of a text that are not empty, the first of which ends in front of the second. -/
structure Precedes (first second : Span) (bound : Nat) : Prop where
  start : 1 ≤ first.start
  left : 1 ≤ first.length
  right : 1 ≤ second.length
  order : first.start + first.length ≤ second.start
  inside : second.last ≤ bound

variable {first second : Span} {bound : Nat}

theorem Precedes.fits (precedes : first.Precedes second bound) :
    first.Fits bound ∧ second.Fits bound := by
  have start := precedes.start
  have left := precedes.left
  have order := precedes.order
  constructor
  · apply (fits_iff_last start left).mpr
    have inside := precedes.inside
    unfold last at inside ⊢
    omega
  · apply (fits_iff_last _ precedes.right).mpr precedes.inside
    omega

theorem Precedes.apart (precedes : first.Precedes second bound) :
    first.overlaps second = false := by
  rw [overlaps_eq_false_iff precedes.left precedes.right]
  intro position shared
  have before := shared.1.2
  have behind := shared.2.1
  have left := precedes.left
  have order := precedes.order
  unfold last at before
  omega

/-- Of two spans of a text that share no position, one precedes the other. -/
theorem earlier_precedes_later (starts : 1 ≤ first.start ∧ 1 ≤ second.start)
    (left : 1 ≤ first.length) (right : 1 ≤ second.length)
    (inside : first.last ≤ bound ∧ second.last ≤ bound)
    (apart : ∀ position, ¬(first.Covers position ∧ second.Covers position)) :
    (first.earlier second).Precedes (first.later second) bound := by
  have outside := apart (max first.start second.start)
  unfold Covers last at outside
  unfold earlier later
  split
  · next order => exact ⟨starts.1, left, right, by omega, inside.2⟩
  · next order => exact ⟨starts.2, right, left, by omega, inside.1⟩

end Span

namespace Text

/-- The text with two spans in each other's places; the first one ends in front of the other. -/
def traded (text : Text) (first second : Span) : Text :=
  text.head first ++ text.middle second ++ text.middle (first.gap second) ++
    text.middle first ++ text.tail second

/-- A block of a text is followed by another one. -/
theorem split_at_neighbours {text : Text} {start first second : Nat} (some : 1 ≤ start)
    (inside : start + first + second ≤ text.length + 1) :
    ∃ front left right back : Text, text = front ++ (left ++ (right ++ back)) ∧
      front.length + 1 = start ∧ left.length = first ∧ right.length = second := by
  refine ⟨text.take (start - 1), (text.drop (start - 1)).take first,
    ((text.drop (start - 1)).drop first).take second,
    ((text.drop (start - 1)).drop first).drop second, ?_, ?_, ?_, ?_⟩
  · rw [List.take_append_drop, List.take_append_drop, List.take_append_drop]
  · rw [List.length_take]
    omega
  · rw [List.length_take, List.length_drop]
    omega
  · rw [List.length_take, List.length_drop, List.length_drop]
    omega

theorem split_at_spans {text : Text} {first second : Span}
    (precedes : first.Precedes second text.length) :
    ∃ front left between right back : Text,
      text = front ++ (left ++ (between ++ (right ++ back))) ∧
        first = ⟨front.length + 1, left.length⟩ ∧
        second = ⟨front.length + left.length + between.length + 1, right.length⟩ ∧
        left ≠ [] ∧ right ≠ [] := by
  have start := precedes.start
  have order := precedes.order
  have left := precedes.left
  have right := precedes.right
  have inside := precedes.inside
  unfold Span.last at inside
  obtain ⟨front, moved, rest, back, rfl, place, size, long⟩ :=
    @split_at_neighbours text first.start first.length
      (second.start + second.length - (first.start + first.length)) start (by omega)
  refine ⟨front, moved, rest.take (second.start - (first.start + first.length)),
    rest.drop (second.start - (first.start + first.length)), back, ?_, ?_, ?_, ?_, ?_⟩
  · rw [← List.append_assoc (List.take _ rest), List.take_append_drop]
  · rw [place, size]
  · rw [List.length_take, List.length_drop]
    obtain ⟨secondStart, secondLength⟩ := second
    dsimp only at order right inside long ⊢
    congr 1 <;> omega
  · exact List.length_pos_iff.mp (by omega)
  · exact List.length_pos_iff.mp (by rw [List.length_drop]; omega)

theorem traded_at_split (front left between right back : Text) :
    (front ++ (left ++ (between ++ (right ++ back)))).traded ⟨front.length + 1, left.length⟩
        ⟨front.length + left.length + between.length + 1, right.length⟩ =
      front ++ (right ++ (between ++ (left ++ back))) := by
  have inner := middle_at_split (front ++ left) between (right ++ back)
  have second := middle_at_split (front ++ (left ++ between)) right back
  have rest := tail_at_split (front ++ (left ++ between)) right back
  have gap : Span.gap ⟨front.length + 1, left.length⟩
      ⟨front.length + left.length + between.length + 1, right.length⟩ =
        ⟨(front ++ left).length + 1, between.length⟩ := by
    simp only [Span.gap, List.length_append]
    congr 1 <;> omega
  have place : (front ++ (left ++ between)).length =
      front.length + left.length + between.length := by
    simp only [List.length_append, Nat.add_assoc]
  rw [place, List.append_assoc, List.append_assoc] at second rest
  rw [List.append_assoc] at inner
  rw [traded, gap, head_at_split, middle_at_split, inner, second, rest]
  simp only [List.append_assoc]

end Text

theorem exchange_at_gap (front left between right back : Text) (nonempty : left ≠ []) :
    exchange (front ++ (left ++ (between ++ (right ++ back)))) ⟨front.length + 1, left.length⟩
        ⟨front.length + left.length + between.length + 1, right.length⟩ =
      front ++ (right ++ (between ++ (left ++ back))) := by
  have positive := List.length_pos_iff.mpr nonempty
  have later := Text.middle_at_split (front ++ (left ++ between)) right back
  have exchanged := Text.splice_at_split (front ++ (left ++ between)) right back left
  have place : (front ++ (left ++ between)).length =
      front.length + left.length + between.length := by
    simp only [List.length_append, Nat.add_assoc]
  rw [place, List.append_assoc, List.append_assoc] at later exchanged
  rw [exchange, if_pos (by dsimp only; omega), Text.middle_at_split, later, exchanged,
    List.append_assoc, List.append_assoc, Text.splice_at_split]

theorem exchange_at_split (front left right back : Text) (nonempty : left ≠ []) :
    exchange (front ++ (left ++ (right ++ back))) ⟨front.length + 1, left.length⟩
        ⟨front.length + left.length + 1, right.length⟩ =
      front ++ (right ++ (left ++ back)) :=
  exchange_at_gap front left [] right back nonempty

/-- Which of its spans an exchange is given first does not matter, as long as they do not
start together. -/
theorem exchange_comm (text : Text) {first second : Span} (apart : first.overlaps second = false) :
    exchange text first second = exchange text second first := by
  have different : first.start ≠ second.start := by
    intro same
    rw [Span.overlaps, if_pos same] at apart
    cases apart
  unfold exchange
  split
  · next order => rw [if_neg (by omega)]
  · next order => rw [if_pos (by omega)]

/-- Two checks in order pass if both of them do. -/
theorem checks_pass_iff {ε : Type} (first : Except ε Unit) (next : Unit → Except ε Unit) :
    first >>= next = .ok () ↔ first = .ok () ∧ next () = .ok () := by
  rw [Grammar.bind_eq_ok_iff]
  exact ⟨fun ⟨(), passed, later⟩ => ⟨passed, later⟩, fun ⟨passed, later⟩ => ⟨(), passed, later⟩⟩

namespace Operation

theorem execute_eq_ok_iff (operation : Operation) (text result : Text) :
    operation.execute text = .ok result ↔
      operation.action.check operation.span text.length = .ok () ∧
        operation.action.effect operation.span text = result := by
  rw [execute_eq]
  cases operation.action.check operation.span text.length <;> simp

theorem swap_executes_iff {swap : Operation} {other : Span} {described : Option Text}
    (swaps : swap.action = .swap other described) (text result : Text) :
    swap.execute text = .ok result ↔
      swap.span.Fits text.length ∧ other.Fits text.length ∧
        swap.span.overlaps other = false ∧ exchange text swap.span other = result := by
  simp only [execute_eq_ok_iff, swaps, Action.check, checks_pass_iff, ok_unless_iff,
    Span.check_eq_ok_iff, and_assoc, Bool.not_eq_true, Action.effect]

/-- The least position of a kind, for the operations of that kind. -/
theorem Valid.start_of_kind {operation : Operation} (valid : operation.Valid) {kind : Kind}
    (same : operation.kind = kind) : kind.leastPosition ≤ operation.span.start := by
  rw [← same]
  exact valid.start

/-- The spans of a swap in the other order: it is executed on the same texts, with the same
results. -/
theorem swap_turned_iff {swap turned : Operation} {described other : Option Text}
    (swaps : swap.action = .swap turned.span described)
    (turns : turned.action = .swap swap.span other) (text result : Text) :
    turned.execute text = .ok result ↔ swap.execute text = .ok result := by
  rw [swap_executes_iff swaps, swap_executes_iff turns, Span.overlaps_comm turned.span]
  constructor
  · intro given
    obtain ⟨second, first, apart, same⟩ := given
    exact ⟨first, second, apart, (exchange_comm text apart).trans same⟩
  · intro given
    obtain ⟨first, second, apart, same⟩ := given
    exact ⟨second, first, apart, (exchange_comm text apart).symm.trans same⟩

/-- A swap of two spans with a text between them. -/
theorem swap_at_gap {swap : Operation} {described : Option Text} {front left between right : Text}
    (back : Text) (leftFilled : left ≠ []) (rightFilled : right ≠ [])
    (first : swap.span = ⟨front.length + 1, left.length⟩)
    (swaps : swap.action =
      .swap ⟨front.length + left.length + between.length + 1, right.length⟩ described) :
    swap.execute (front ++ (left ++ (between ++ (right ++ back)))) =
      .ok (front ++ (right ++ (between ++ (left ++ back)))) := by
  have precedes : Span.Precedes ⟨front.length + 1, left.length⟩
      ⟨front.length + left.length + between.length + 1, right.length⟩
      (front ++ (left ++ (between ++ (right ++ back)))).length := by
    constructor
    · exact Nat.succ_pos front.length
    · exact List.length_pos_iff.mpr leftFilled
    · exact List.length_pos_iff.mpr rightFilled
    · dsimp only
      omega
    · simp only [Span.last, List.length_append]
      omega
  apply (swap_executes_iff swaps _ _).mpr
  rw [first]
  exact ⟨precedes.fits.1, precedes.fits.2, precedes.apart,
    exchange_at_gap front left between right back leftFilled⟩

/-- A swap of two spans of a text that share no position puts them in each other's places,
whichever of them it names first. The swap that has the lengths of the spans in each other's
places, and the later one as far behind as its new text stands, restores the text. -/
theorem swap_trades_spans {swap : Operation} (valid : swap.Valid) {other : Span}
    {described : Option Text} (swaps : swap.action = .swap other described) :
    (∀ text : Text, swap.span.last ≤ text.length → other.last ≤ text.length →
      (∀ position, ¬(swap.span.Covers position ∧ other.Covers position)) →
        let first := swap.span.earlier other
        let second := swap.span.later other
        swap.execute text = .ok (text.traded first second) ∧
          ∀ back : Operation, back.span = ⟨first.start, second.length⟩ →
            (∃ shown, back.action =
              .swap ⟨second.start + second.length - first.length, first.length⟩ shown) →
            back.execute (text.traded first second) = .ok text) ∧
    ∀ turned : Operation, turned.span = other →
      (∃ shown, turned.action = .swap swap.span shown) →
        ∀ text result : Text,
          turned.execute text = .ok result ↔ swap.execute text = .ok result := by
  have start := valid.start_of_kind (congrArg Action.kind swaps)
  have otherValid := valid.action
  rw [swaps] at otherValid
  constructor
  · intro text inside otherInside apart first second
    have precedes : first.Precedes second text.length :=
      Span.earlier_precedes_later ⟨start, otherValid.1⟩ valid.length otherValid.2.1
        ⟨inside, otherInside⟩ apart
    obtain ⟨front, left, between, right, behind, rfl, firstAt, secondAt, leftFilled, rightFilled⟩ :=
      Text.split_at_spans precedes
    rw [firstAt, secondAt, Text.traded_at_split]
    constructor
    · by_cases order : swap.span.start < other.start
      · have named : first = swap.span := if_pos order
        have follows : second = other := if_pos order
        apply swap_at_gap behind leftFilled rightFilled (named.symm.trans firstAt)
        rw [swaps, ← follows, secondAt]
      · have named : first = other := if_neg order
        have follows : second = swap.span := if_neg order
        have turned : (plain none other (.swap swap.span none)).execute
            (front ++ (left ++ (between ++ (right ++ behind)))) =
            .ok (front ++ (right ++ (between ++ (left ++ behind)))) := by
          apply swap_at_gap behind leftFilled rightFilled (named.symm.trans firstAt)
          rw [plain, ← follows, secondAt]
        exact (@swap_turned_iff swap (plain none other (.swap swap.span none)) _ _
          swaps rfl _ _).mp turned
    · intro back placed shown
      obtain ⟨shown, restores⟩ := shown
      apply swap_at_gap behind rightFilled leftFilled placed
      rw [restores]
      congr 2
      dsimp only
      omega
  · intro turned named shown
    obtain ⟨shown, turns⟩ := shown
    rw [← named] at swaps
    exact swap_turned_iff swaps turns

/-- Two characters, and a single one that stands in front of them. -/
def backwardSwap : Operation :=
  .plain none ⟨5, 2⟩ (.swap ⟨2, 1⟩ none)

/-- The text between them shifts by one place; the swap is the same the other way round, and
it is taken back. -/
theorem backward_swap_trades :
    backwardSwap.execute ['a', 'b', 'c', 'd', 'e', 'f', 'g'] =
        .ok ['a', 'e', 'f', 'c', 'd', 'b', 'g'] ∧
      (plain none ⟨2, 1⟩ (.swap ⟨5, 2⟩ none)).execute ['a', 'b', 'c', 'd', 'e', 'f', 'g'] =
        .ok ['a', 'e', 'f', 'c', 'd', 'b', 'g'] ∧
      (plain none ⟨2, 2⟩ (.swap ⟨6, 1⟩ none)).execute ['a', 'e', 'f', 'c', 'd', 'b', 'g'] =
        .ok ['a', 'b', 'c', 'd', 'e', 'f', 'g'] := by
  have valid : backwardSwap.Valid :=
    ⟨nofun, by decide, by decide, nofun, nofun, by decide, by decide, nofun⟩
  have apart : ∀ position, ¬(Span.Covers ⟨5, 2⟩ position ∧ Span.Covers ⟨2, 1⟩ position) := by
    simp only [Span.Covers, Span.last]
    omega
  have trades := swap_trades_spans valid rfl
  obtain ⟨executed, restored⟩ :=
    trades.1 ['a', 'b', 'c', 'd', 'e', 'f', 'g'] (by decide) (by decide) apart
  have turned := trades.2 (plain none ⟨2, 1⟩ (.swap ⟨5, 2⟩ none)) rfl ⟨none, rfl⟩
  exact ⟨executed, (turned _ _).mpr executed, restored _ rfl ⟨none, rfl⟩⟩

end Operation

end EditScript
