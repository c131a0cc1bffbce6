import OutlineWiki.Proofs.TableText

/-!
# The moments of a table

A visit of a table goes through moments: it writes a cell, or it asks for the width of a column. The
order of the moments is fixed by the layout. Two visits agree when they do at each moment.
-/

namespace OutlineWiki

open Markup

/-- A moment of a visit: a cell is written, or the width of a column is asked for. -/
inductive Moment (Cell : Type) where
  | cell (cell : Cell)
  | question (column : Nat)
deriving DecidableEq, Repr

namespace Moment

variable {Cell Changed : Type}

/-- The moment with something else in place of its cell. -/
def map (change : Cell → Changed) : Moment Cell → Moment Changed
  | .cell item => .cell (change item)
  | .question column => .question column

/-- Questions for the widths of columns from one on. -/
def questions (first count : Nat) : List (Moment Cell) :=
  (List.range' first count).map .question

/-- Cells from a column on. A cell is written before the width of its column is asked for. -/
def ofCells (first : Nat) : List Cell → List (Moment Cell)
  | [] => []
  | item :: rest => .cell item :: .question first :: ofCells (first + 1) rest

/-- Questions have no cells to change. -/
@[simp] theorem map_questions (change : Cell → Changed) (first count : Nat) :
    (questions first count).map (map change) = questions first count := by
  simp only [questions, List.map_map]
  rfl

/-- The moments of changed cells are the changed moments. -/
@[simp] theorem map_ofCells (change : Cell → Changed) (first : Nat) (cells : List Cell) :
    (ofCells first cells).map (map change) = ofCells first (cells.map change) := by
  induction cells generalizing first with
  | nil => rfl
  | cons item rest inductionHypothesis =>
    simp only [ofCells, List.map_cons, inductionHypothesis, map]

end Moment

namespace TableLayout

variable {Cell Changed : Type} (layout : TableLayout)

/-- The moments of a row with the given cells: a rule asks for all widths if it is drawn. -/
def rowMoments (row : Node) (cells : List Cell) : List (Moment Cell) :=
  if row.isRule then
    if layout.isDrawn row then Moment.questions 0 layout.columnCount else []
  else Moment.ofCells 0 cells

/-- The moments of a dummy header, for a table with at most one row of content. -/
def headerMoments : List (Moment Cell) :=
  if layout.rowCount ≤ 1 then Moment.questions 0 layout.columnCount else []

/-- The moments of a table whose exported rows have the given cells; none without columns. -/
def moments (grid : List (List Cell)) : List (Moment Cell) :=
  if layout.columnCount = 0 then []
  else layout.headerMoments ++
    (layout.rows.zip grid).flatMap fun entry => layout.rowMoments entry.1 entry.2

/-- The moments of a table's own cells. -/
def ownMoments : List (Moment Node) :=
  layout.moments (layout.rows.map layout.cells)

/-- The moments of changed cells are the changed moments. -/
theorem map_moments (change : Cell → Changed) (grid : List (List Cell)) :
    (layout.moments grid).map (Moment.map change) = layout.moments (grid.map (List.map change)) := by
  have rows : ∀ row (cells : List Cell), (layout.rowMoments row cells).map (Moment.map change) =
      layout.rowMoments row (cells.map change) := by
    intro row cells
    simp only [rowMoments, apply_ite (List.map (Moment.map change)), Moment.map_questions,
      Moment.map_ofCells, List.map_nil]
  simp only [moments, headerMoments, apply_ite (List.map (Moment.map change)), List.map_append,
    Moment.map_questions, List.map_nil, List.map_flatMap, rows, List.zip_map_right, List.flatMap_map]
  rfl

/-- The moments of a table's own cells come row by row. -/
theorem ownMoments_eq :
    layout.ownMoments = if layout.columnCount = 0 then []
      else layout.headerMoments ++ layout.rows.flatMap fun row => layout.rowMoments row (layout.cells row) := by
  have paired : layout.rows.zip (layout.rows.map layout.cells) =
      layout.rows.map fun row => (row, layout.cells row) := by
    rw [List.zip_map_right, List.zip_eq_zipWith, List.zipWith_self, List.map_map]
    rfl
  rw [ownMoments, moments, paired, List.flatMap_map]

/-- A cell that is written is a cell of an exported row. -/
theorem mem_of_mem_ownMoments {cell : Node} (inside : .cell cell ∈ layout.ownMoments) :
    ∃ row ∈ layout.rows, cell ∈ layout.cells row := by
  have noQuestion : ∀ first count, Moment.cell cell ∉ Moment.questions first count := by
    simp [Moment.questions]
  have isCell : ∀ cells first, Moment.cell cell ∈ Moment.ofCells first cells → cell ∈ cells := by
    intro cells
    induction cells with
    | nil => simp [Moment.ofCells]
    | cons head rest inductionHypothesis =>
      intro first inside
      simp only [Moment.ofCells, List.mem_cons, Moment.cell.injEq, reduceCtorEq, false_or] at inside
      rcases inside with rfl | later
      · exact List.mem_cons_self
      · exact List.mem_cons_of_mem head (inductionHypothesis (first + 1) later)
  rw [ownMoments_eq] at inside
  split at inside
  · cases inside
  · rcases List.mem_append.mp inside with inHeader | inRows
    · unfold headerMoments at inHeader
      split at inHeader
      · exact absurd inHeader (noQuestion _ _)
      · cases inHeader
    · obtain ⟨row, isRow, inRow⟩ := List.mem_flatMap.mp inRows
      unfold rowMoments at inRow
      split at inRow
      · split at inRow
        · exact absurd inRow (noQuestion _ _)
        · cases inRow
      · exact ⟨row, isRow, isCell _ _ inRow⟩

/-- A table that has a moment has columns. -/
theorem columnCount_ne_zero {moment : Moment Node} (inside : moment ∈ layout.ownMoments) :
    layout.columnCount ≠ 0 := by
  intro none
  rw [ownMoments_eq, if_pos none] at inside
  cases inside

/-- Every cell of an exported row is written at a moment, if the table has columns. -/
theorem mem_ownMoments (columns : layout.columnCount ≠ 0) {row cell : Node} (isRow : row ∈ layout.rows)
    (inside : cell ∈ layout.cells row) : .cell cell ∈ layout.ownMoments := by
  have isMoment : ∀ cells first, cell ∈ cells → Moment.cell cell ∈ Moment.ofCells first cells := by
    intro cells
    induction cells with
    | nil => simp
    | cons head rest inductionHypothesis =>
      intro first inside
      simp only [Moment.ofCells, List.mem_cons, Moment.cell.injEq, reduceCtorEq, false_or]
      exact (List.mem_cons.mp inside).imp_right (inductionHypothesis (first + 1))
  have noRule : ¬ row.isRule = true := by
    cases row with
    | tableRow => exact Bool.false_ne_true
    | _ => cases inside
  rw [ownMoments_eq, if_neg columns]
  refine List.mem_append_right _ (List.mem_flatMap.mpr ⟨row, isRow, ?_⟩)
  rw [rowMoments, if_neg noRule]
  exact isMoment _ 0 inside

end TableLayout

namespace Markup

open TableLayout

/-- The surroundings inside a table that is visited. -/
def insideTable (find : WidthFinder) (form : TableForm) (options : Options) (key : Nat) (rows : List Node)
    (layout : TableLayout) : Surroundings :=
  let grid := exportedCells layout (Node.cellWriters form options rows)
  surroundings find key layout grid (questionBound grid)

/-- A question inside a table is answered in the given way, with a measure of the column's cells. -/
theorem width_insideTable (find : WidthFinder) (form : TableForm) (options : Options) (key : Nat)
    {rows : List Node} {layout : TableLayout} (made : TableLayout.ofRows rows = .ok layout) :
    ∃ inner, ∀ column, (insideTable find form options key rows layout).width column =
      find key (layout.cookie? column) column (measureColumn column (some inner)
        (layout.rows.map fun row => Node.writers form options (layout.cells row))) := by
  obtain ⟨-, -, exported, -⟩ := of_ofRows made
  rw [← exportedCells_eq exported]
  exact ⟨surroundings find key layout _ _, fun column => rfl⟩

/-- Two visits agree at each moment, from one condition to another. -/
inductive AgreeMoments (mayFail : Prop) (left right : TableForm) (options : Options)
    (leftAround rightAround : Surroundings) : Condition → Condition → List (Moment Node) → Prop where
  | nil {before after : Condition} :
    (∀ level numbers widths, before level numbers widths → after level numbers widths) →
      AgreeMoments mayFail left right options leftAround rightAround before after []
  | cell {before between after : Condition} {cell : Node} {rest : List (Moment Node)} :
    AgreeOr mayFail before between (capture [cell.writer left options] (some leftAround))
      (capture [cell.writer right options] (some rightAround)) →
    AgreeMoments mayFail left right options leftAround rightAround between after rest →
      AgreeMoments mayFail left right options leftAround rightAround before after (.cell cell :: rest)
  | question {before between after : Condition} {column : Nat} {rest : List (Moment Node)} :
    AgreeOr mayFail before between (leftAround.width column) (rightAround.width column) →
    AgreeMoments mayFail left right options leftAround rightAround between after rest →
      AgreeMoments mayFail left right options leftAround rightAround before after (.question column :: rest)

namespace AgreeMoments

variable {mayFail : Prop} {left right : TableForm} {options : Options}
  {leftAround rightAround : Surroundings} {before after : Condition}

/-- A condition can be met from a stronger one before, and be weakened after. -/
theorem weaken {before' after' : Condition} {moments : List (Moment Node)}
    (each : AgreeMoments mayFail left right options leftAround rightAround before after moments)
    (stronger : ∀ level numbers widths, before' level numbers widths → before level numbers widths)
    (weaker : ∀ level numbers widths, after level numbers widths → after' level numbers widths) :
    AgreeMoments mayFail left right options leftAround rightAround before' after' moments := by
  induction each generalizing before' with
  | nil stays =>
    exact .nil fun level numbers widths meets => weaker _ _ _ (stays _ _ _ (stronger _ _ _ meets))
  | cell written _ inductionHypothesis =>
    exact .cell (written.weaken stronger fun _ _ _ meets => meets)
      (inductionHypothesis (fun _ _ _ meets => meets) weaker)
  | question asked _ inductionHypothesis =>
    exact .question (asked.weaken stronger fun _ _ _ meets => meets)
      (inductionHypothesis (fun _ _ _ meets => meets) weaker)

/-- Two visits agree at each moment while a fact is known. -/
theorem keeping {moments : List (Moment Node)}
    (each : AgreeMoments mayFail left right options leftAround rightAround before after moments)
    (fact : Prop) :
    AgreeMoments mayFail left right options leftAround rightAround (before.knowing fact)
      (after.knowing fact) moments := by
  induction each with
  | nil stays => exact .nil fun _ _ _ meets => ⟨stays _ _ _ meets.1, meets.2⟩
  | cell written _ inductionHypothesis => exact .cell (written.keeping fact) inductionHypothesis
  | question asked _ inductionHypothesis => exact .question (asked.keeping fact) inductionHypothesis

/-- What agrees at the moments of two lists agrees at those of each list. -/
theorem split {first second : List (Moment Node)}
    (each : AgreeMoments mayFail left right options leftAround rightAround before after (first ++ second)) :
    ∃ between, AgreeMoments mayFail left right options leftAround rightAround before between first ∧
      AgreeMoments mayFail left right options leftAround rightAround between after second := by
  induction first generalizing before with
  | nil => exact ⟨before, .nil fun _ _ _ meets => meets, each⟩
  | cons moment rest inductionHypothesis =>
    cases each with
    | cell written others =>
      obtain ⟨between, inFirst, inSecond⟩ := inductionHypothesis others
      exact ⟨between, .cell written inFirst, inSecond⟩
    | question asked others =>
      obtain ⟨between, inFirst, inSecond⟩ := inductionHypothesis others
      exact ⟨between, .question asked inFirst, inSecond⟩

/-- The questions for widths agree as a whole when each of them does. -/
theorem columnWidthsFrom {first count : Nat}
    (each : AgreeMoments mayFail left right options leftAround rightAround before after
      (Moment.questions first count)) :
    AgreeOr mayFail before after (Markup.columnWidthsFrom leftAround first count)
      (Markup.columnWidthsFrom rightAround first count) := by
  induction count generalizing first before with
  | zero =>
    cases each with
    | nil stays => exact .give [] stays
  | succ count inductionHypothesis =>
    rw [Moment.questions, List.range'_succ] at each
    cases each with
    | question asked others =>
      exact asked.bind fun width => (inductionHypothesis others).bind fun widths => .pure (width :: widths)

/-- The cells of a row agree as a whole when each cell and each question for a width does. -/
theorem writeCells (sameLayout : leftAround.layout = rightAround.layout) {cells : List Node} {first : Nat}
    (each : AgreeMoments mayFail left right options leftAround rightAround before after
      (Moment.ofCells first cells)) :
    AgreeOr mayFail before after (Markup.writeCells leftAround first (Node.writers left options cells))
      (Markup.writeCells rightAround first (Node.writers right options cells)) := by
  induction cells generalizing first before with
  | nil =>
    cases each with
    | nil stays =>
      simp only [Node.writers, Markup.writeCells]
      exact .give [] stays
  | cons cell rest inductionHypothesis =>
    cases each with
    | cell written others =>
      cases others with
      | question asked others =>
        simp only [Node.writers, Markup.writeCells, sameLayout]
        exact written.bind fun content => asked.bind fun width =>
          (inductionHypothesis others).bind fun boxes => .pure _

/-- A row agrees as a block when its moments do. -/
theorem row (sameLayout : leftAround.layout = rightAround.layout) {row : Node} (isRow : row.rowKey?.isSome)
    (inside : row ∈ rightAround.layout.rows)
    (each : AgreeMoments mayFail left right options leftAround rightAround before after
      (rightAround.layout.rowMoments row (rightAround.layout.cells row))) :
    AgreeOr mayFail before after (block (row.writer left options) (some leftAround))
      (block (row.writer right options) (some rightAround)) := by
  refine AgreeOr.block ?_
  cases row with
  | tableRow attributes key cells =>
    rw [writer_tableRow, writer_tableRow, sameLayout]
    exact each.writeCells sameLayout
  | ruleRow attributes key =>
    simp only [Node.writer, ruleWriter, sameLayout]
    obtain ⟨index, position⟩ := rowIndex_of_mem inside
    have isRule : (Node.ruleRow attributes key).isRule = true := rfl
    simp only [position, settle, pure_bind]
    by_cases drawn : index = drawnRuleIndex
    · have isDrawn : rightAround.layout.isDrawn (.ruleRow attributes key) = true := by
        simp [TableLayout.isDrawn, position, drawn]
      rw [rowMoments, if_pos isRule, if_pos isDrawn] at each
      simp only [if_pos drawn, columnWidths, sameLayout]
      exact each.columnWidthsFrom.bind fun widths => .pure _
    · have notDrawn : ¬ rightAround.layout.isDrawn (.ruleRow attributes key) = true := by
        simp [TableLayout.isDrawn, position, drawn]
      rw [rowMoments, if_pos isRule, if_neg notDrawn] at each
      simp only [if_neg drawn]
      cases each with
      | nil stays => exact .give [] stays
  | _ => cases isRow

/-- Exported rows agree as blocks when their moments do. -/
theorem rows (sameLayout : leftAround.layout = rightAround.layout) {rows : List Node}
    (areRows : ∀ row ∈ rows, row.rowKey?.isSome ∧ row ∈ rightAround.layout.rows)
    (each : AgreeMoments mayFail left right options leftAround rightAround before after
      (rows.flatMap fun row => rightAround.layout.rowMoments row (rightAround.layout.cells row))) :
    AgreeOr mayFail before after (blocks (rows.map (Node.writer left options)) (some leftAround))
      (blocks (rows.map (Node.writer right options)) (some rightAround)) := by
  induction rows generalizing before with
  | nil =>
    cases each with
    | nil stays => exact .give [] stays
  | cons row rest inductionHypothesis =>
    rw [List.flatMap_cons] at each
    obtain ⟨between, first, others⟩ := each.split
    obtain ⟨isRow, inside⟩ := areRows row List.mem_cons_self
    have later := inductionHypothesis
      (fun other inRest => areRows other (List.mem_cons_of_mem row inRest)) others
    simp only [List.map_cons, blocks]
    exact (first.row sameLayout isRow inside).bind fun text => later.bind fun texts => .pure (text :: texts)

/-- Dummy headers agree when their questions do. -/
theorem header (sameLayout : leftAround.layout = rightAround.layout)
    (each : AgreeMoments mayFail left right options leftAround rightAround before after
      rightAround.layout.headerMoments) :
    AgreeOr mayFail before after (dummyHeader leftAround) (dummyHeader rightAround) := by
  unfold dummyHeader columnWidths
  unfold headerMoments at each
  rw [sameLayout]
  split
  · rename_i few
    rw [if_pos few] at each
    exact each.columnWidthsFrom.bind fun widths => .pure _
  · rename_i many
    rw [if_neg many] at each
    cases each with
    | nil stays => exact .give [] stays

/-- Visits of a table agree when their moments do. -/
theorem table {findLeft findRight : WidthFinder} {key : Nat} {rows : List Node} {layout : TableLayout}
    (made : TableLayout.ofRows rows = .ok layout)
    (each : AgreeMoments mayFail left right options (insideTable findLeft left options key rows layout)
      (insideTable findRight right options key rows layout) before after layout.ownMoments)
    (leftOuter rightOuter : Option Surroundings) :
    AgreeOr mayFail before after
      (tableWriter findLeft key rows (Node.writers left options rows)
        (Node.cellWriters left options rows) leftOuter)
      (tableWriter findRight key rows (Node.writers right options rows)
        (Node.cellWriters right options rows) rightOuter) := by
  have layout_settled : settle (TableLayout.ofRows rows) = pure layout := by
    rw [made]
    rfl
  unfold tableWriter
  simp only [layout_settled, pure_bind, exported_writers _ options made]
  refine AgreeOr.note.bind fun _ => ?_
  rw [ownMoments_eq] at each
  by_cases none : layout.columnCount = 0
  · rw [if_pos none] at each
    rw [if_pos none, if_pos none]
    cases each with
    | nil stays => exact .give [] stays
  · rw [if_neg none] at each
    rw [if_neg none, if_neg none]
    obtain ⟨between, inHeader, inRows⟩ := each.split
    have isRow := isRow_of_ofRows made
    have sameLayout : (insideTable findLeft left options key rows layout).layout =
        (insideTable findRight right options key rows layout).layout := rfl
    exact (inHeader.header sameLayout).bind fun header =>
      (inRows.rows sameLayout fun row inside => ⟨isRow row inside, inside⟩).bind fun lines => .pure _

end AgreeMoments

end Markup

end OutlineWiki
