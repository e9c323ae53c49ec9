import EditScript.Script.Tags

/-!
# Exact counts of tags

Tags are counted one after the other into a list that is kept in the order of code points.
One step adds one to the count of its tag, changes no other count and keeps the order; so
a whole run lists every tag that occurs, once, with the number of its occurrences. Two such
lists are equal as soon as the occurrences are, which is why the order of the operations
does not matter.
-/

namespace EditScript

set_option autoImplicit false

/-- Texts are compared by code points, from the left. -/
theorem Text.before_iff_lt (first second : Text) :
    Text.before first second = true ↔ first < second := by
  induction first generalizing second with
  | nil => cases second <;> simp [Text.before]
  | cons char rest induction =>
      cases second with
      | nil => simp [Text.before]
      | cons other others =>
          have codes : char.toNat < other.toNat ↔ char < other :=
            UInt32.lt_iff_toNat_lt.symm
          simp [Text.before, List.cons_lt_cons_iff, induction, codes]

namespace TagCount

/-- The count that a list has for a tag; a tag that is not listed has none. -/
def countOf (tag : Text) (counts : List (Text × Nat)) : Nat :=
  (counts.lookup tag).getD 0

def Ordered (counts : List (Text × Nat)) : Prop :=
  (counts.map Prod.fst).Pairwise (· < ·)

variable {tag first : Text} {count : Nat} {counts rest : List (Text × Nat)}

theorem count_of_cons (tag first : Text) (count : Nat) (rest : List (Text × Nat)) :
    countOf tag ((first, count) :: rest) = if tag = first then count else countOf tag rest := by
  by_cases same : tag = first
  · simp [countOf, same]
  · have other : (tag == first) = false := by simpa using same
    simp [countOf, List.lookup_cons, same, other]

theorem ordered_cons :
    Ordered ((first, count) :: rest) ↔ (∀ later ∈ rest, first < later.1) ∧ Ordered rest := by
  simp [Ordered]

/-- A tag in front of all that are listed has no count yet. -/
theorem count_of_before (before : ∀ later ∈ counts, tag < later.1) : countOf tag counts = 0 := by
  have absent : counts.lookup tag = none := by
    rw [List.lookup_eq_none_iff]
    intro later member
    rw [bne_iff_ne]
    intro same
    have less := before later member
    rw [← same] at less
    exact List.lt_irrefl tag less
  rw [countOf, absent]
  rfl

theorem before_of_ordered (ordered : Ordered ((first, count) :: rest)) (before : tag < first) :
    ∀ later ∈ (first, count) :: rest, tag < later.1 := by
  rw [List.forall_mem_cons]
  refine ⟨before, fun later member => ?_⟩
  exact List.lt_trans before ((ordered_cons.mp ordered).1 later member)

theorem behind_of_not_before (different : tag ≠ first)
    (behind : ¬Text.before tag first = true) : first < tag := by
  rw [Text.before_iff_lt] at behind
  rcases List.le_iff_lt_or_eq.mp (List.not_lt.mp behind) with less | same
  · exact less
  · exact absurd same.symm different

/-- A step lists nothing but its tag and what was listed before. -/
theorem listed_of_add {entry : Text × Nat} (member : entry ∈ add tag counts) :
    entry.1 = tag ∨ ∃ earlier ∈ counts, earlier.1 = entry.1 := by
  induction counts with
  | nil =>
      rw [List.mem_singleton.mp member]
      exact .inl rfl
  | cons head rest induction =>
      rw [add] at member
      split at member
      · next same =>
          rcases List.mem_cons.mp member with rfl | later
          · exact .inl same.symm
          · exact .inr ⟨entry, List.mem_cons_of_mem head later, rfl⟩
      · split at member
        · rcases List.mem_cons.mp member with rfl | later
          · exact .inl rfl
          · exact .inr ⟨entry, later, rfl⟩
        · rcases List.mem_cons.mp member with rfl | later
          · exact .inr ⟨head, List.mem_cons_self, rfl⟩
          · rcases induction later with same | ⟨earlier, inside, same⟩
            · exact .inl same
            · exact .inr ⟨earlier, List.mem_cons_of_mem head inside, same⟩

theorem ordered_add (ordered : Ordered counts) (tag : Text) : Ordered (add tag counts) := by
  induction counts with
  | nil => simp [add, Ordered]
  | cons head rest induction =>
      rcases ordered_cons.mp ordered with ⟨above, orderedRest⟩
      rw [add]
      split
      · exact ordered_cons.mpr ⟨above, orderedRest⟩
      · next different =>
          split
          · next before =>
              rw [Text.before_iff_lt] at before
              exact ordered_cons.mpr ⟨before_of_ordered ordered before, ordered⟩
          · next behind =>
              refine ordered_cons.mpr ⟨fun later member => ?_, induction orderedRest⟩
              rcases listed_of_add member with same | ⟨earlier, inside, same⟩
              · rw [same]
                exact behind_of_not_before different behind
              · rw [← same]
                exact above earlier inside

/-- A step adds one to the count of its tag and changes no other count. -/
theorem count_of_add (ordered : Ordered counts) (tag other : Text) :
    countOf other (add tag counts) = countOf other counts + if other = tag then 1 else 0 := by
  induction counts with
  | nil =>
      rw [add, count_of_cons]
      split <;> simp [countOf]
  | cons head rest induction =>
      have later := induction (ordered_cons.mp ordered).2
      rw [add]
      split
      · next same =>
          subst same
          rw [count_of_cons, count_of_cons]
          split <;> rfl
      · next different =>
          split
          · next before =>
              rw [Text.before_iff_lt] at before
              rw [count_of_cons]
              split
              · next same =>
                  rw [same, count_of_before (before_of_ordered ordered before)]
              · rfl
          · rw [count_of_cons, count_of_cons, later]
            split
            · next same =>
                rw [same, if_neg (Ne.symm different)]
                rfl
            · rfl

theorem positive_add (positive : ∀ entry ∈ counts, 0 < entry.2) (tag : Text) :
    ∀ entry ∈ add tag counts, 0 < entry.2 := by
  induction counts with
  | nil => simp [add]
  | cons head rest induction =>
      have inHead := positive head List.mem_cons_self
      have inRest := induction fun entry member =>
        positive entry (List.mem_cons_of_mem head member)
      rw [add]
      split
      · exact List.forall_mem_cons.mpr
          ⟨Nat.succ_pos _, fun entry member => positive entry (List.mem_cons_of_mem head member)⟩
      · split
        · exact List.forall_mem_cons.mpr ⟨Nat.one_pos, positive⟩
        · exact List.forall_mem_cons.mpr ⟨inHead, inRest⟩

/-- A list of counts for the tags that have occurred so far. -/
structure Tallies (occurred : List Text) (counts : List (Text × Nat)) : Prop where
  ordered : Ordered counts
  positive : ∀ entry ∈ counts, 0 < entry.2
  counted : ∀ tag, countOf tag counts = occurred.count tag

theorem Tallies.add {occurred : List Text} (tallies : Tallies occurred counts) (tag : Text) :
    Tallies (occurred ++ [tag]) (add tag counts) where
  ordered := ordered_add tallies.ordered tag
  positive := positive_add tallies.positive tag
  counted := by
    intro other
    rw [count_of_add tallies.ordered, tallies.counted, List.count_append]
    by_cases same : other = tag
    · simp [same]
    · simp [same, Ne.symm same]

/-- The run, by induction on the tags that are still to be counted. -/
theorem Tallies.foldl {occurred : List Text} (tallies : Tallies occurred counts)
    (tags : List Text) :
    Tallies (occurred ++ tags) (tags.foldl (fun counts tag => TagCount.add tag counts) counts) := by
  induction tags generalizing occurred counts with
  | nil => simpa using tallies
  | cons tag rest induction =>
      have later := induction (tallies.add tag)
      rwa [List.append_assoc, List.singleton_append] at later

theorem tallies_of_tags (tags : List Text) : Tallies tags (ofTags tags) := by
  have nothing : Tallies [] [] := ⟨.nil, List.forall_mem_nil _, fun _ => rfl⟩
  exact nothing.foldl tags

/-- Where the order is strict, each listed count is the count of its tag. -/
theorem count_of_member (ordered : Ordered counts) (member : (tag, count) ∈ counts) :
    countOf tag counts = count := by
  induction counts with
  | nil => cases member
  | cons head rest induction =>
      rcases ordered_cons.mp ordered with ⟨above, orderedRest⟩
      rw [count_of_cons]
      rcases List.mem_cons.mp member with rfl | later
      · rw [if_pos rfl]
      · have different : tag ≠ head.1 := by
          intro same
          have less := above _ later
          rw [same] at less
          exact List.lt_irrefl head.1 less
        rw [if_neg different]
        exact induction orderedRest later

theorem member_of_count (positive : 0 < countOf tag counts) :
    (tag, countOf tag counts) ∈ counts := by
  rw [countOf] at positive ⊢
  cases found : counts.lookup tag with
  | none =>
      rw [found] at positive
      exact absurd positive (Nat.lt_irrefl 0)
  | some count =>
      obtain ⟨front, back, rfl, _⟩ := List.lookup_eq_some_iff.mp found
      exact List.mem_append_right front List.mem_cons_self

/-- What is listed are exactly the tags that have occurred, with their numbers. -/
theorem Tallies.mem_iff {occurred : List Text} (tallies : Tallies occurred counts) (tag : Text)
    (count : Nat) : (tag, count) ∈ counts ↔ 0 < count ∧ count = occurred.count tag := by
  rw [← tallies.counted]
  constructor
  · intro member
    exact ⟨tallies.positive _ member, (count_of_member tallies.ordered member).symm⟩
  · rintro ⟨positive, rfl⟩
    exact member_of_count positive

theorem Ordered.entries (ordered : Ordered counts) :
    counts.Pairwise fun first second => first.1 < second.1 :=
  List.pairwise_map.mp ordered

theorem Ordered.nodup (ordered : Ordered counts) : counts.Nodup := by
  apply ordered.entries.imp
  rintro first second less rfl
  exact List.lt_irrefl first.1 less

/-- The occurrences determine the list. -/
theorem Tallies.eq_of_same {occurred again : List Text} {others : List (Text × Nat)}
    (tallies : Tallies occurred counts) (also : Tallies again others)
    (same : ∀ tag, occurred.count tag = again.count tag) : counts = others := by
  have members : ∀ entry, entry ∈ counts ↔ entry ∈ others := by
    rintro ⟨tag, count⟩
    rw [tallies.mem_iff, also.mem_iff, same]
  have perm : counts.Perm others :=
    (List.perm_ext_iff_of_nodup tallies.ordered.nodup also.ordered.nodup).mpr members
  apply perm.eq_of_pairwise _ tallies.ordered.entries also.ordered.entries
  intro first second _ _ less greater
  exact absurd greater (List.lt_asymm less)

end TagCount

namespace Script

/-- How often a tag stands in the tag lists of a script. -/
def occurrences (tag : Text) : Script → Nat
  | [] => 0
  | operation :: rest => operation.tags.count tag + occurrences tag rest

theorem count_tags (script : Script) (tag : Text) :
    script.tags.count tag = script.occurrences tag := by
  induction script with
  | nil => rfl
  | cons operation rest induction =>
      rw [tags, List.flatMap_cons, List.count_append, occurrences, ← induction]
      rfl

theorem tag_counts_tally (script : Script) : TagCount.Tallies script.tags script.tagCounts :=
  TagCount.tallies_of_tags script.tags

/-- The tags of a script are listed in strictly ascending order, each that occurs and no
other one, with the number of its occurrences. So the order of the operations does not
matter, and the counts of two scripts in a row add up. -/
theorem tags_counted_exactly (script : Script) :
    (script.tagCounts.map Prod.fst).Pairwise (· < ·) ∧
      (∀ tag count, (tag, count) ∈ script.tagCounts ↔
        0 < count ∧ count = script.occurrences tag) ∧
      (∀ shuffled : Script, script.Perm shuffled → shuffled.tagCounts = script.tagCounts) ∧
      ∀ (later : Script) (tag : Text), TagCount.countOf tag (script ++ later).tagCounts =
        TagCount.countOf tag script.tagCounts + TagCount.countOf tag later.tagCounts := by
  have tallies := script.tag_counts_tally
  refine ⟨tallies.ordered, ?_, ?_, ?_⟩
  · intro tag count
    rw [tallies.mem_iff, count_tags]
  · intro shuffled perm
    have tags : script.tags.Perm shuffled.tags := perm.flatMap_right Operation.tags
    exact shuffled.tag_counts_tally.eq_of_same tallies fun tag => (tags.count_eq tag).symm
  · intro later tag
    have both : (script ++ later).tags = script.tags ++ later.tags := List.flatMap_append
    rw [tallies.counted, (tag_counts_tally _).counted, (tag_counts_tally _).counted, both,
      List.count_append]

/-- Three operations, one of which has a tag twice; one tag starts with another one. -/
def taggedScript : Script :=
  [{ described := none, span := ⟨1, 1⟩, note := none, tags := [['b'], ['a', 'b'], ['b']],
     action := .delete },
    .plain none ⟨2, 1⟩ .delete,
    { described := none, span := ⟨1, 1⟩, note := none, tags := [['a'], ['b']],
      action := .insert .after ['x'] }]

theorem tagged_script_shuffled :
    taggedScript.Perm taggedScript.reverse ∧
      tagCounts taggedScript.reverse = [(['a'], 1), (['a', 'b'], 1), (['b'], 3)] := by
  have perm : taggedScript.Perm taggedScript.reverse := taggedScript.reverse_perm.symm
  refine ⟨perm, ?_⟩
  rw [(tags_counted_exactly taggedScript).2.2.1 _ perm]
  decide

end Script

end EditScript
