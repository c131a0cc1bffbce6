/-!
# What comes first in a list

The first item of which a condition holds: the one with none before it. A list has at most one, and more
items behind it or items before it of which the condition does not hold do not change it.
-/

namespace OutlineWiki

/-- The first item of a list of which a condition holds. -/
def FirstOf {Item : Type} (holds : Item → Prop) (items : List Item) (found : Item) : Prop :=
  ∃ before after, items = before ++ found :: after ∧ holds found ∧ ∀ earlier ∈ before, ¬ holds earlier

namespace FirstOf

variable {Item : Type} {holds other : Item → Prop} {items more : List Item} {first found : Item}

/-- The head of a list comes first if the condition holds of it. -/
theorem head (isFirst : holds first) : FirstOf holds (first :: items) first :=
  ⟨[], items, rfl, isFirst, by simp⟩

/-- What comes first comes first also with more items behind. -/
theorem before (known : FirstOf holds items found) : FirstOf holds (items ++ more) found := by
  obtain ⟨earlier, later, rfl, isFound, none⟩ := known
  exact ⟨earlier, later ++ more, by simp, isFound, none⟩

/-- What comes first comes first also behind items of which the condition does not hold. -/
theorem behind (known : FirstOf holds more found) (none : ∀ item ∈ items, ¬ holds item) :
    FirstOf holds (items ++ more) found := by
  obtain ⟨earlier, later, rfl, isFound, noEarlier⟩ := known
  refine ⟨items ++ earlier, later, by simp, isFound, fun item inside => ?_⟩
  rcases List.mem_append.mp inside with inItems | inEarlier
  · exact none item inItems
  · exact noEarlier item inEarlier

/-- The first item is one of the list. -/
theorem mem (known : FirstOf holds items found) : found ∈ items := by
  obtain ⟨earlier, later, rfl, -⟩ := known
  simp

/-- Only one item comes first. -/
theorem unique {second : Item} (known : FirstOf holds items first) (again : FirstOf holds items second) :
    first = second := by
  obtain ⟨earlier, later, rfl, isFirst, noEarlier⟩ := known
  obtain ⟨others, rest, split, isSecond, noOther⟩ := again
  rcases List.append_eq_append_iff.mp split with ⟨between, rfl, tail⟩ | ⟨between, rfl, tail⟩
  · cases between with
    | nil => exact (List.cons.inj tail).1
    | cons head between =>
      obtain ⟨rfl, -⟩ := List.cons.inj tail
      exact absurd isFirst (noOther _ (by simp))
  · cases between with
    | nil => exact (List.cons.inj tail).1.symm
    | cons head between =>
      obtain ⟨rfl, -⟩ := List.cons.inj tail
      exact absurd isSecond (noEarlier _ (by simp))

/-- Conditions that hold of the same items have the same first item. -/
theorem congr (same : ∀ item ∈ items, holds item ↔ other item) :
    FirstOf holds items found ↔ FirstOf other items found := by
  constructor
  · rintro ⟨earlier, later, rfl, isFound, none⟩
    exact ⟨earlier, later, rfl, (same found (by simp)).mp isFound, fun item inside isItem =>
      none item inside ((same item (by simp [inside])).mpr isItem)⟩
  · rintro ⟨earlier, later, rfl, isFound, none⟩
    exact ⟨earlier, later, rfl, (same found (by simp)).mpr isFound, fun item inside isItem =>
      none item inside ((same item (by simp [inside])).mp isItem)⟩

/-- The first of the items that are kept is the first that is kept and of which the condition holds. -/
theorem filter_iff {kept : Item → Bool} :
    FirstOf holds (items.filter kept) found ↔
      FirstOf (fun item => kept item = true ∧ holds item) items found := by
  constructor
  · rintro ⟨earlier, later, split, isFound, none⟩
    obtain ⟨start, rest, rfl, rfl, rest_split⟩ := List.filter_eq_append_iff.mp split
    obtain ⟨between, behind, rfl, dropped, isKept, rfl⟩ := List.filter_eq_cons_iff.mp rest_split
    refine ⟨start ++ between, behind, by simp, ⟨isKept, isFound⟩, fun item inside ⟨itemKept, isItem⟩ => ?_⟩
    rcases List.mem_append.mp inside with inStart | inBetween
    · exact none item (List.mem_filter.mpr ⟨inStart, itemKept⟩) isItem
    · exact dropped item inBetween itemKept
  · rintro ⟨earlier, later, rfl, ⟨isKept, isFound⟩, none⟩
    refine ⟨earlier.filter kept, later.filter kept, ?_, isFound, fun item inside isItem => ?_⟩
    · rw [List.filter_append, List.filter_cons_of_pos isKept]
    · obtain ⟨inEarlier, itemKept⟩ := List.mem_filter.mp inside
      exact none item inEarlier ⟨itemKept, isItem⟩

/-- A search finds what comes first. -/
theorem of_find? {test : Item → Bool} (searched : items.find? test = some found)
    (tells : ∀ item ∈ items, test item = true ↔ holds item) : FirstOf holds items found := by
  obtain ⟨isFound, earlier, later, rfl, none⟩ := List.find?_eq_some_iff_append.mp searched
  refine ⟨earlier, later, rfl, (tells found (by simp)).mp isFound, fun item inside isItem => ?_⟩
  have passed := none item inside
  rw [(tells item (by simp [inside])).mpr isItem] at passed
  cases passed

end FirstOf

end OutlineWiki
