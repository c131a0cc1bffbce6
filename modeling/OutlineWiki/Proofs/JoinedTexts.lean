import Mathlib.Data.List.DropRight
import OutlineWiki.Proofs.Ink

/-!
# Texts that are joined again

A text made by joining can be a part of another join with the same joiner. What is joined in the end are the
parts of the parts, so long as none of the inner joins is a join of nothing. What is dropped from the end of a
join is dropped from its last part, unless nothing is left of that.
-/

namespace OutlineWiki.Text

/-! ## Joins of joins -/

/-- Joins that are joined again are one join, if each of them joins something. -/
theorem intercalate_flatten (joiner : String) {groups : List (List String)}
    (some : ∀ group ∈ groups, group ≠ []) :
    joiner.intercalate (groups.map joiner.intercalate) = joiner.intercalate groups.flatten := by
  induction groups with
  | nil => rfl
  | cons group rest inductionHypothesis =>
    have later := inductionHypothesis fun other inside => some other (List.mem_cons_of_mem group inside)
    have someOwn := some group List.mem_cons_self
    rw [List.map_cons, List.flatten_cons]
    cases rest with
    | nil => simp
    | cons next others =>
      have someNext := some next (List.mem_cons_of_mem group List.mem_cons_self)
      rw [String.intercalate_cons_of_ne_nil (by simp), later,
        String.intercalate_append_of_ne_nil someOwn (by simp [someNext])]

/-- A join of texts that are not empty is empty only where there are none. -/
theorem intercalate_eq_empty_iff (joiner : String) {texts : List String} (filled : ∀ text ∈ texts, text ≠ "") :
    joiner.intercalate texts = "" ↔ texts = [] := by
  cases texts with
  | nil => simp
  | cons text rest =>
    have isFilled := filled text List.mem_cons_self
    cases rest with
    | nil => simpa using isFilled
    | cons next rest => simp [String.intercalate_cons_cons, isFilled]

/-- Joins of texts that are not empty, joined where they are not empty, are one join of all these texts. -/
theorem intercalate_filled (joiner : String) {groups : List (List String)}
    (filled : ∀ group ∈ groups, ∀ text ∈ group, text ≠ "") :
    joiner.intercalate ((groups.map joiner.intercalate).filter (· != "")) = joiner.intercalate groups.flatten := by
  have kept : (groups.map joiner.intercalate).filter (· != "") =
      (groups.filter (· ≠ [])).map joiner.intercalate := by
    rw [List.filter_map]
    congr 1
    refine List.filter_congr fun group inside => ?_
    rw [Bool.eq_iff_iff]
    simpa using not_congr (intercalate_eq_empty_iff joiner (filled group inside))
  rw [kept, intercalate_flatten joiner (by simp), List.flatten_filter_ne_nil]

/-- With nothing between them texts are joined as they are. -/
theorem intercalate_empty (texts : List String) : "".intercalate texts = String.join texts := by
  induction texts with
  | nil => rfl
  | cons text rest inductionHypothesis =>
    cases rest with
    | nil => simp
    | cons next rest =>
      rw [String.intercalate_cons_cons, inductionHypothesis, String.append_empty]
      exact String.join_cons.symm

/-- Empty texts make no difference where texts are joined as they are. -/
theorem join_filter_filled (texts : List String) : String.join (texts.filter (· != "")) = String.join texts := by
  induction texts with
  | nil => rfl
  | cons text rest inductionHypothesis =>
    rw [String.join_cons]
    by_cases empty : text = ""
    · rw [empty, List.filter_cons_of_neg (by decide), inductionHypothesis, String.empty_append]
    · rw [List.filter_cons_of_pos (by simpa using empty), String.join_cons, inductionHypothesis]

/-! ## The end of a join -/

/-- What is dropped from the end of two lists. -/
theorem rdropWhile_append (drops : Char → Bool) (front back : List Char) :
    (front ++ back).rdropWhile drops =
      if back.rdropWhile drops = [] then front.rdropWhile drops else front ++ back.rdropWhile drops := by
  rw [List.rdropWhile, List.reverse_append, List.dropWhile_append, List.rdropWhile, List.rdropWhile]
  simp only [List.isEmpty_iff, List.reverse_eq_nil_iff]
  split <;> simp

end OutlineWiki.Text
