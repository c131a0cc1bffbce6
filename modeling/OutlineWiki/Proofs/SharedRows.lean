import Mathlib.Algebra.Order.BigOperators.Group.List
import Mathlib.Algebra.Order.Group.Nat
import OutlineWiki.Proofs.FreshKeys
import OutlineWiki.Proofs.KeylessText
import OutlineWiki.Proofs.TreeSources

/-!
# Rows that stand in several places

A row object may stand at several positions of a table and in several tables. Its position is that of its
first occurrence, so a rule that is the second exported row is drawn wherever it stands again. Apart from
that a document is rendered like its copy in which nothing is shared.
-/

namespace OutlineWiki

open Markup

namespace TableLayout

/-- The rule that is the second exported row, if there is one, stands nowhere else among the exported
rows. -/
def SecondRuleOnce (layout : TableLayout) : Prop :=
  ∀ rule ∈ layout.rows[1]?, rule.isRule = true →
    ∀ entry ∈ layout.rows.zipIdx, entry.1.rowKey? = rule.rowKey? → entry.2 = 1

instance (layout : TableLayout) : Decidable layout.SecondRuleOnce :=
  inferInstanceAs (Decidable (∀ rule ∈ layout.rows[1]?, rule.isRule = true →
    ∀ entry ∈ layout.rows.zipIdx, entry.1.rowKey? = rule.rowKey? → entry.2 = 1))

/-- Rows with the same key are the same object. -/
def RowsIdentify (rows : List Node) : Prop :=
  ∀ row ∈ rows, ∀ other ∈ rows, row.rowKey? = other.rowKey? → row = other

/-- A row is drawn as a rule when its first occurrence is the second exported row. -/
theorem isDrawn_iff {layout : TableLayout} {row : Node} :
    layout.isDrawn row = true ↔
      (∃ second, layout.rows[1]? = some second ∧ second.rowKey? = row.rowKey?) ∧
        ∀ first, layout.rows[0]? = some first → first.rowKey? ≠ row.rowKey? := by
  have drawn : layout.isDrawn row = true ↔
      layout.rows.findIdx? (fun other => other.rowKey? == row.rowKey?) = some 1 := by
    unfold isDrawn rowIndex
    cases layout.rows.findIdx? fun other => other.rowKey? == row.rowKey? <;> simp [drawnRuleIndex]
  rw [drawn, List.findIdx?_eq_some_iff_getElem]
  constructor
  · rintro ⟨inside, same, before⟩
    refine ⟨⟨_, List.getElem?_eq_getElem inside, eq_of_beq same⟩, fun first isFirst => ?_⟩
    obtain ⟨_, rfl⟩ := List.getElem?_eq_some_iff.mp isFirst
    simpa using before 0 Nat.zero_lt_one
  · rintro ⟨⟨second, isSecond, same⟩, notFirst⟩
    obtain ⟨inside, rfl⟩ := List.getElem?_eq_some_iff.mp isSecond
    refine ⟨inside, by simpa using same, fun index before => ?_⟩
    obtain rfl : index = 0 := by omega
    simpa using notFirst _ (List.getElem?_eq_getElem (by omega))

/-- Where the second rule stands once, a rule is drawn exactly where it is the second exported row. -/
theorem isDrawn_of_secondRuleOnce {layout : TableLayout} (identified : RowsIdentify layout.rows)
    (once : layout.SecondRuleOnce) {row : Node} {index : Nat} (found : layout.rows[index]? = some row)
    (isRule : row.isRule = true) : layout.isDrawn row = (index == 1) := by
  apply Bool.eq_iff_iff.mpr
  rw [isDrawn_iff, beq_iff_eq]
  constructor
  · rintro ⟨⟨second, isSecond, same⟩, -⟩
    obtain rfl := identified second (List.mem_of_getElem? isSecond) row (List.mem_of_getElem? found) same
    exact once second isSecond isRule (second, index) (List.mem_zipIdx_iff_getElem?.mpr found) rfl
  · rintro rfl
    refine ⟨⟨row, found, rfl⟩, fun first isFirst same => ?_⟩
    have atStart : (first, 0) ∈ layout.rows.zipIdx := List.mem_zipIdx_iff_getElem?.mpr isFirst
    exact absurd (once row found isRule (first, 0) atStart same) Nat.zero_ne_one

/-- Lists of parts that are no longer one by one, and once shorter, are shorter together. -/
theorem length_flatMap_lt {Item Part : Type} {items : List Item} {fewer more : Item → List Part}
    (each : ∀ item ∈ items, (fewer item).length ≤ (more item).length)
    (once : ∃ item ∈ items, (fewer item).length < (more item).length) :
    (items.flatMap fewer).length < (items.flatMap more).length := by
  rw [List.length_flatMap, List.length_flatMap]
  exact List.sum_lt_sum _ _ each once

/-- A row has no fewer lines when it is drawn than when it is not. -/
theorem length_rowLines_le (layout : TableLayout) (content : Node → String) (width : Nat → Nat)
    {row : Node} {drawn drawnToo : Bool} (more : row.isRule = true → drawn = true → drawnToo = true) :
    (layout.rowLines content width drawn row).length ≤
      (layout.rowLines content width drawnToo row).length := by
  rw [rowLines_eq, rowLines_eq]
  by_cases isRule : row.isRule = true
  · cases drawn with
    | false => simp [isRule]
    | true => rw [more isRule rfl]
  · simp [isRule]

/-- A table has the same lines by the keys and by the positions of its rules exactly when its second rule
stands once. -/
theorem tableLines_eq_iff {layout : TableLayout} (identified : RowsIdentify layout.rows)
    (content : Node → String) (width : Nat → Nat) :
    layout.tableLines content width = layout.positionedLines content width ↔ layout.SecondRuleOnce := by
  rw [tableLines_eq_linesDrawing, positionedLines_eq_linesDrawing]
  constructor
  · rintro same rule isSecond isRule ⟨other, index⟩ atIndex sameKey
    have found : layout.rows[index]? = some other := List.mem_zipIdx_iff_getElem?.mp atIndex
    by_contra apart
    obtain rfl := identified other (List.mem_of_getElem? found) rule (List.mem_of_getElem? isSecond) sameKey
    rw [linesDrawing, linesDrawing, List.append_cancel_left_eq] at same
    have lengths := congrArg List.length same
    have atSecond : (other, 1) ∈ layout.rows.zipIdx := List.mem_zipIdx_iff_getElem?.mpr isSecond
    have lines : ∀ drawn, layout.rowLines content width drawn other =
        if drawn then [layout.alignedRuns width '-'] else [] := by
      intro drawn
      rw [rowLines_eq, if_pos isRule]
    cases drawn : layout.isDrawn other with
    | true =>
      -- The second rule is drawn again at the other position, and nothing is drawn less.
      refine absurd lengths (Nat.ne_of_gt (length_flatMap_lt ?_ ⟨_, atIndex, ?_⟩))
      · rintro ⟨row, position⟩ inside
        refine layout.length_rowLines_le content width fun _ second => ?_
        obtain rfl : position = 1 := by simpa using second
        obtain rfl := Option.some.inj (isSecond.symm.trans (List.mem_zipIdx_iff_getElem?.mp inside))
        exact drawn
      · simp [lines, drawn, apart]
    | false =>
      -- The second rule has its first occurrence above, so that no rule is drawn at all.
      refine absurd lengths (Nat.ne_of_lt (length_flatMap_lt ?_ ⟨_, atSecond, ?_⟩))
      · rintro ⟨row, position⟩ inside
        refine layout.length_rowLines_le content width fun _ rowDrawn => ?_
        obtain ⟨⟨second, isSecond', sameKey⟩, -⟩ := isDrawn_iff.mp rowDrawn
        obtain rfl := Option.some.inj (isSecond.symm.trans isSecond')
        have isRow : row ∈ layout.rows := List.mem_of_getElem? (List.mem_zipIdx_iff_getElem?.mp inside)
        obtain rfl := identified other (List.mem_of_getElem? found) row isRow sameKey
        exact absurd rowDrawn (by simp [drawn])
      · simp [lines, drawn]
  · intro once
    exact linesDrawing_congr content width fun row index found isRule =>
      isDrawn_of_secondRuleOnce identified once found isRule

end TableLayout

end OutlineWiki
