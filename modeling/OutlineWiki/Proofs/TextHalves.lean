import Mathlib.Data.List.TakeWhile
import OutlineWiki.Text.Halves

/-!
# Halves in texts

A text that no file takes is told by its first halves of surrogate pairs: where they stand and which they are.
Characters stand for halves one to one, so what is told about them is told about the text.
-/

namespace OutlineWiki.Halves

/-- A text holds no halves. -/
def NoneIn (halves : Halves) (text : String) : Prop :=
  ∀ character ∈ text.toList, halves.half? character = none

/-- A text holds halves for the first time after as many characters as its position says, and there these in a
row. -/
def FirstIn (halves : Halves) (text : String) (position : Nat) (found : List Nat) : Prop :=
  ∃ before after, text.toList = before ++ found.map halves.standIn ++ after ∧ before.length = position ∧
    (∀ character ∈ before, halves.half? character = none) ∧ found ≠ [] ∧
    (∀ half ∈ found, firstHalf ≤ half ∧ half < firstHalf + count) ∧
    ∀ character, after.head? = some character → halves.half? character = none

variable {halves : Halves} {text : String}

/-- The code of a character that stands for a half. -/
theorem toNat_standIn (halves : Halves) {half : Nat} (most : half < firstHalf + count) :
    (halves.standIn half).toNat = halves.first + (half - firstHalf) := by
  have isPrivate := halves.isPrivate
  have inRange := halves.inRange
  simp only [firstHalf, count] at most ⊢
  have valid : (halves.first + (half - 0xD800)).isValidChar := by
    simp only [Nat.isValidChar]
    omega
  rw [standIn, firstHalf, Char.ofNat, dif_pos valid]
  rfl

/-- A character stands for a half when it is the one that does. -/
theorem half?_eq_some {character : Char} {half : Nat} :
    halves.half? character = some half ↔
      (firstHalf ≤ half ∧ half < firstHalf + count) ∧ character = halves.standIn half := by
  constructor
  · intro known
    simp only [half?, Bool.and_eq_true, Nat.ble_eq, Nat.blt_eq, Option.ite_none_right_eq_some,
      Option.some.injEq] at known
    obtain ⟨⟨least, most⟩, rfl⟩ := known
    have inRange : character.toNat - halves.first + firstHalf < firstHalf + count := by
      rw [Nat.add_comm]
      apply Nat.add_lt_add_left
      exact Nat.sub_lt_left_of_lt_add least most
    refine ⟨⟨Nat.le_add_left _ _, inRange⟩, Char.ext (UInt32.toNat_inj.mp ?_)⟩
    have code := halves.toNat_standIn inRange
    rw [Nat.add_sub_cancel, Nat.add_sub_cancel' least] at code
    exact code.symm
  · intro ⟨⟨least, most⟩, same⟩
    rw [same]
    have before : half - firstHalf < count := Nat.sub_lt_left_of_lt_add least most
    simp only [half?, toNat_standIn halves most, Nat.ble_eq, Nat.blt_eq, Bool.and_eq_true, Nat.le_add_right,
      Nat.add_lt_add_iff_left, before, and_self, if_true, Nat.add_sub_cancel_left, Nat.sub_add_cancel least]

/-- Characters in a row that stand for halves are told by the halves. -/
theorem map_standIn_filterMap {run : List Char} (stand : ∀ character ∈ run, (halves.half? character).isSome) :
    (run.filterMap halves.half?).map halves.standIn = run := by
  induction run with
  | nil => rfl
  | cons character rest inductionHypothesis =>
    obtain ⟨half, known⟩ := Option.isSome_iff_exists.mp (stand character List.mem_cons_self)
    rw [List.filterMap_cons_some known, List.map_cons, ← (half?_eq_some.mp known).2,
      inductionHypothesis fun later inside => stand later (List.mem_cons_of_mem character inside)]

/-- Where no half passes, a character passes that stands for none. -/
theorem passes_none (halves : Halves) (character : Char) :
    halves.passes (fun _ => false) character = (halves.half? character).isNone := by
  unfold passes
  cases halves.half? character <;> rfl

/-- A text passes into a file exactly when it holds no halves. -/
theorem inText?_eq_none : halves.inText? text = none ↔ halves.NoneIn text := by
  unfold inText? refused? NoneIn
  split
  case h_1 all =>
    simpa [List.dropWhile_eq_nil_iff, passes_none] using all
  case h_2 rest notEmpty =>
    refine ⟨nofun, fun noHalves => absurd ?_ notEmpty⟩
    simpa [List.dropWhile_eq_nil_iff, passes_none] using noHalves

/-- The halves for which a text does not pass into a file are the first in it. -/
theorem firstIn_of_inText? {position : Nat} {found : List Nat}
    (refused : halves.inText? text = some (position, found)) : halves.FirstIn text position found := by
  unfold inText? refused? at refused
  split at refused
  case h_1 => cases refused
  case h_2 rest notEmpty =>
    obtain ⟨rfl, rfl⟩ := Prod.mk.inj (Option.some.inj refused)
    generalize behind : text.toList.dropWhile (halves.passes fun _ => false) = rest at notEmpty
    let stands (character : Char) : Bool := (halves.half? character).isSome
    refine ⟨_, rest.dropWhile stands, ?_, rfl, fun character inside => ?_, ?_, fun half inside => ?_,
      fun character first => ?_⟩
    · have allStand : ∀ character ∈ rest.takeWhile stands, stands character = true :=
        fun _ inside => List.mem_takeWhile_imp inside
      rw [map_standIn_filterMap allStand, List.append_assoc, List.takeWhile_append_dropWhile, ← behind,
        List.takeWhile_append_dropWhile]
    · simpa [passes_none] using List.mem_takeWhile_imp inside
    · obtain ⟨first, more, rfl⟩ := List.exists_cons_of_ne_nil notEmpty
      have stops := List.head?_dropWhile_not (halves.passes fun _ => false) text.toList
      obtain ⟨half, known⟩ : ∃ half, halves.half? first = some half := by
        simpa [behind, passes_none, ← Option.isSome_iff_exists, Option.isSome_iff_ne_none] using stops
      simp [known]
    · obtain ⟨character, -, known⟩ := List.mem_filterMap.mp inside
      exact (half?_eq_some.mp known).1
    · have stops := List.head?_dropWhile_not stands rest
      simpa [first, stands] using stops

end OutlineWiki.Halves
