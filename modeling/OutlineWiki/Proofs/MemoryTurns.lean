import OutlineWiki.Proofs.TableMoments

/-!
# The turns of the memory of widths

The memory of widths is about one table at a time, and a question turns it to the table that asks. A
column without a cookie is measured, and tables in its cells ask in their turn. The turns of a node are
the tables that its rendering turns the memory to, in order, when every question is measured. They are
read off the tree, without rendering it.
-/

namespace OutlineWiki

namespace TableLayout

/-- What stands in a column of the exported rows; a row without a cell there has nothing. -/
def inColumn {Cell : Type} (grid : List (List Cell)) (column : Nat) : List Cell :=
  grid.filterMap fun row => row[column]?

/-- The cells of a column, from the exported rows that have one there. -/
def columnCells (layout : TableLayout) (column : Nat) : List Node :=
  inColumn (layout.rows.map layout.cells) column

/-- The turns of a question: to the table itself, and then those of the cells to measure. -/
def questionTurns (layout : TableLayout) (key : Nat) (grid : List (List (List Nat))) (column : Nat) :
    List Nat :=
  key :: match layout.cookie? column with
    | some _ => []
    | none => (inColumn grid column).flatten

/-- The turns of a moment, given those of each cell. -/
def momentTurns (layout : TableLayout) (key : Nat) (grid : List (List (List Nat))) :
    Moment (List Nat) → List Nat
  | .cell turns => turns
  | .question column => layout.questionTurns key grid column

/-- The turns of a table, given those of each cell of its rows. -/
def tableTurns (key : Nat) (rows : List Node) (cells : List (List (List Nat))) : List Nat :=
  match ofRows rows with
  | .error _ => []
  | .ok layout =>
    let grid := Markup.exportedCells layout cells
    (layout.moments grid).flatMap (layout.momentTurns key grid)

end TableLayout

namespace Node

mutual

/-- The tables that rendering a node turns the memory of widths to, in order. -/
def turns : Node → List Nat
  | .document _ children => (turnsEach children).flatten
  | .heading _ _ content => (turnsEach content).flatten
  | .paragraph _ content => (turnsEach content).flatten
  | .blockQuote _ children => (turnsEach children).flatten
  | .list _ _ _ items => (turnsEach items).flatten
  | .listItem _ children => (turnsEach children).flatten
  | .table _ key rows => TableLayout.tableTurns key rows (cellTurns rows)
  | .tableRow _ _ cells => (turnsEach cells).flatten
  | .tableCell _ content => (turnsEach content).flatten
  | .styled _ _ content => (turnsEach content).flatten
  | .link _ _ content => (turnsEach content).flatten
  | .codeBlock .. | .ruleRow .. | .thematicBreak .. | .text .. | .code .. | .image .. | .lineBreak .. => []

/-- The turns of each of several nodes. -/
def turnsEach : List Node → List (List Nat)
  | [] => []
  | node :: rest => turns node :: turnsEach rest

/-- The turns of each cell of rows. -/
def cellTurns : List Node → List (List (List Nat))
  | [] => []
  | .tableRow _ _ cells :: rest => turnsEach cells :: cellTurns rest
  | _ :: rest => [] :: cellTurns rest

end

/-- The turns of nodes, one by one. -/
theorem turnsEach_eq_map (nodes : List Node) : turnsEach nodes = nodes.map turns := by
  induction nodes with
  | nil => rfl
  | cons node rest inductionHypothesis => rw [turnsEach, inductionHypothesis, List.map_cons]

/-- The turns of the cells of rows, one by one. -/
theorem cellTurns_eq_map (rows : List Node) :
    cellTurns rows = rows.map fun row => (row.columnCells false).map turns := by
  induction rows with
  | nil => rfl
  | cons row rest inductionHypothesis =>
    rw [List.map_cons, ← inductionHypothesis]
    cases row <;> simp [cellTurns, columnCells, turnsEach_eq_map]

/-- A node that is no table has the turns of its children. -/
theorem turns_of_children {node : Node} (noTable : node.tableKey? = none) :
    node.turns = node.children.flatMap turns := by
  have flat : ∀ nodes, (turnsEach nodes).flatten = nodes.flatMap turns := by
    intro nodes
    rw [turnsEach_eq_map, List.flatMap_def]
  cases node with
  | table => cases noTable
  | codeBlock | ruleRow | thematicBreak | text | code | image | lineBreak => rfl
  | _ =>
    rw [turns]
    exact flat _

end Node

namespace TableLayout

variable {rows : List Node} {layout : TableLayout}

/-- The turns of measuring a column; one with a cookie is not measured. -/
def measureTurns (layout : TableLayout) (column : Nat) : List Nat :=
  match layout.cookie? column with
  | some _ => []
  | none => (layout.columnCells column).flatMap Node.turns

/-- The turns of a moment of a table's own cells. -/
def ownTurns (layout : TableLayout) (key : Nat) : Moment Node → List Nat
  | .cell cell => cell.turns
  | .question column => key :: layout.measureTurns column

/-- Changing cells changes those in a column. -/
theorem inColumn_map {Cell Changed : Type} (change : Cell → Changed) (grid : List (List Cell))
    (column : Nat) : inColumn (grid.map (List.map change)) column = (inColumn grid column).map change := by
  simp only [inColumn, List.filterMap_map, List.map_filterMap]
  refine congrArg (fun pick => grid.filterMap pick) (funext fun row => ?_)
  rw [Function.comp_apply, List.getElem?_map]

/-- The turns of a table that has a layout are those of its moments. -/
theorem turns_table (made : ofRows rows = .ok layout) (attributes : Attributes) (key : Nat) :
    (Node.table attributes key rows).turns = layout.ownMoments.flatMap (layout.ownTurns key) := by
  obtain ⟨-, -, exported, -⟩ := of_ofRows made
  have grid : Markup.exportedCells layout (Node.cellTurns rows) =
      (layout.rows.map layout.cells).map (List.map Node.turns) := by
    rw [Node.cellTurns_eq_map, Markup.exportedCells_map exported, List.map_map]
    rfl
  have each : (fun moment => layout.momentTurns key ((layout.rows.map layout.cells).map (List.map Node.turns))
      (moment.map Node.turns)) = layout.ownTurns key := by
    funext moment
    cases moment with
    | cell cell => rfl
    | question column =>
      simp only [Moment.map, momentTurns, questionTurns, ownTurns, measureTurns, inColumn_map, columnCells,
        List.flatMap_def]
  rw [Node.turns, tableTurns, made]
  simp only [grid, ← layout.map_moments, List.flatMap_map, each]
  rfl

/-! ## Cells of a table -/

/-- A cell by column is a cell of its row. -/
theorem cells_sublist (layout : TableLayout) (row : Node) :
    (layout.cells row).Sublist (row.columnCells false) := by
  cases row with
  | tableRow attributes key cells =>
    simp only [TableLayout.cells, Node.columnCells]
    cases layout.specialColumn with
    | false => exact .refl cells
    | true => exact List.drop_sublist 1 cells
  | _ => exact .refl []

/-- A cell of an exported row is a cell of one of the table's rows. -/
theorem mem_rows_of_mem_cells (made : ofRows rows = .ok layout) {row cell : Node}
    (isRow : row ∈ layout.rows) (inside : cell ∈ layout.cells row) :
    row ∈ rows ∧ cell ∈ row.columnCells false :=
  ⟨(rows_sublist made).subset isRow, (layout.cells_sublist row).subset inside⟩

/-- A cell of a column is a cell of an exported row. -/
theorem mem_cells_of_mem_column {cell : Node} {column : Nat} (inside : cell ∈ layout.columnCells column) :
    ∃ row ∈ layout.rows, cell ∈ layout.cells row := by
  obtain ⟨cells, isCells, found⟩ := List.mem_filterMap.mp inside
  obtain ⟨row, isRow, rfl⟩ := List.mem_map.mp isCells
  exact ⟨row, isRow, List.mem_of_getElem? found⟩

/-- The tables in a column stand in the rows, each once and in their order. -/
theorem column_sublist (made : ofRows rows = .ok layout) (column : Nat) :
    ((layout.columnCells column).flatMap Node.tableKeys).Sublist (rows.flatMap Node.tableKeys) := by
  have cells : ∀ row : Node, (row.columnCells false).Sublist row.children := by
    intro row
    cases row with
    | tableRow => exact .refl _
    | _ => exact List.nil_sublist _
  have inRow : ∀ row : Node, ((layout.cells row)[column]?.toList.flatMap Node.tableKeys).Sublist
      row.tableKeys := by
    intro row
    have one : (layout.cells row)[column]?.toList.Sublist (layout.cells row) := by
      cases found : (layout.cells row)[column]? with
      | none => exact List.nil_sublist _
      | some cell => exact List.singleton_sublist.mpr (List.mem_of_getElem? found)
    rw [Node.tableKeys_eq row]
    exact (((one.trans (layout.cells_sublist row)).trans (cells row)).flatMap _).trans
      (List.sublist_append_right _ _)
  rw [columnCells, inColumn, List.filterMap_map, List.filterMap_eq_flatMap_toList, List.flatMap_assoc]
  exact (List.Sublist.flatMap_right layout.rows fun row _ => inRow row).trans
    ((rows_sublist made).flatMap _)

end TableLayout

namespace Node

/-- A cell stands in its row. -/
theorem within_of_cell {row cell : Node} (inside : cell ∈ row.columnCells false) : Within cell row := by
  cases row with
  | tableRow => exact .child inside (.self cell)
  | _ => cases inside

/-- A node turns the memory to nothing but tables inside it. -/
theorem turns_subset (node : Node) : node.turns ⊆ node.tableKeys := by
  induction node using inductionInside with
  | step node inductionHypothesis =>
    intro key isTurn
    cases noTable : node.tableKey? with
    | none =>
      rw [turns_of_children noTable] at isTurn
      obtain ⟨child, inside, inChild⟩ := List.mem_flatMap.mp isTurn
      exact (tableKeys_sublist (.child inside (.self child))).subset
        (inductionHypothesis child inside child (.self child) inChild)
    | some =>
      cases node with
      | table attributes own rows =>
        cases made : TableLayout.ofRows rows with
        | error failure =>
          rw [turns, TableLayout.tableTurns, made] at isTurn
          cases isTurn
        | ok layout =>
          have ofCell : ∀ row ∈ layout.rows, ∀ cell ∈ layout.cells row, key ∈ cell.turns →
              key ∈ (Node.table attributes own rows).tableKeys := by
            intro row isRow cell isCell inCell
            obtain ⟨inRows, inCells⟩ := TableLayout.mem_rows_of_mem_cells made isRow isCell
            have within := within_of_cell inCells
            exact (tableKeys_sublist (.child inRows within)).subset
              (inductionHypothesis row inRows cell within inCell)
          rw [TableLayout.turns_table made] at isTurn
          obtain ⟨moment, inside, inMoment⟩ := List.mem_flatMap.mp isTurn
          cases moment with
          | cell cell =>
            obtain ⟨row, isRow, isCell⟩ := layout.mem_of_mem_ownMoments inside
            exact ofCell row isRow cell isCell inMoment
          | question column =>
            rcases List.mem_cons.mp inMoment with rfl | inColumn
            · rw [tableKeys_eq]
              exact List.mem_cons_self
            · unfold TableLayout.measureTurns at inColumn
              split at inColumn
              · cases inColumn
              · obtain ⟨cell, isCell, inCell⟩ := List.mem_flatMap.mp inColumn
                obtain ⟨row, isRow, inRow⟩ := TableLayout.mem_cells_of_mem_column isCell
                exact ofCell row isRow cell inRow inCell
      | _ => cases noTable

/-- A table's keys are its own and those of the tables in its rows. -/
theorem tableKeys_table (attributes : Attributes) (key : Nat) (rows : List Node) :
    (Node.table attributes key rows).tableKeys = key :: rows.flatMap tableKeys :=
  tableKeys_eq _

/-- The tables in a cell that is written at a moment of a table stand in its rows. -/
theorem tableKeys_subset_of_moment {rows : List Node} {layout : TableLayout}
    (made : TableLayout.ofRows rows = .ok layout) {cell : Node} (inside : .cell cell ∈ layout.ownMoments) :
    cell.tableKeys ⊆ rows.flatMap tableKeys := by
  obtain ⟨row, isRow, isCell⟩ := layout.mem_of_mem_ownMoments inside
  obtain ⟨inRows, inCells⟩ := TableLayout.mem_rows_of_mem_cells made isRow isCell
  intro inner isInner
  exact List.mem_flatMap.mpr ⟨row, inRows, (tableKeys_sublist (within_of_cell inCells)).subset isInner⟩

/-- Measuring a column turns to nothing but tables in the rows. -/
theorem measureTurns_subset {rows : List Node} {layout : TableLayout}
    (made : TableLayout.ofRows rows = .ok layout) (column : Nat) :
    layout.measureTurns column ⊆ rows.flatMap tableKeys := by
  unfold TableLayout.measureTurns
  split
  · exact List.nil_subset _
  · intro key isTurn
    obtain ⟨cell, inside, inCell⟩ := List.mem_flatMap.mp isTurn
    exact (TableLayout.column_sublist made column).subset
      (List.mem_flatMap.mpr ⟨cell, inside, cell.turns_subset inCell⟩)

/-! ## Steady tables -/

/-- The memory is not about the table that comes first, so its first question starts it over. -/
def startsOver (about : Option Nat) (turns : List Nat) : Bool :=
  turns.head?.all fun first => about != some first

end Node

namespace TableLayout

/-- No cell of the moments begins with a question of the table that the memory is about. -/
def steadyFrom (layout : TableLayout) (key : Nat) (about : Option Nat) : List (Moment Node) → Bool
  | [] => true
  | .cell cell :: rest =>
    Node.startsOver about cell.turns && steadyFrom layout key (cell.turns.getLast?.or about) rest
  | .question column :: rest =>
    steadyFrom layout key ((layout.ownTurns key (.question column)).getLast?.or about) rest

end TableLayout

/-- Whether the questions of a table leave each table in its cells a memory that is not about it. A
question that measures cells leaves the memory about the last table that asked there, with the width
of the outer column in it; a cell that is written next must not begin with a question of that table. -/
def Node.isSteady : Node → Bool
  | .table _ key rows =>
    match TableLayout.ofRows rows with
    | .ok layout => layout.steadyFrom key none layout.ownMoments
    | .error _ => true
  | _ => true

namespace Node

/-- Every table of the tree that is visited is steady. Cells that are not exported are never visited, and
neither are those of a table without columns. -/
inductive Steady : Node → Prop where
  | table {attributes : Attributes} {key : Nat} {rows : List Node} :
    (Node.table attributes key rows).isSteady = true →
    (∀ layout, TableLayout.ofRows rows = .ok layout → ∀ cell, .cell cell ∈ layout.ownMoments →
      Steady cell) →
      Steady (.table attributes key rows)
  | other {node : Node} : node.tableKey? = none → (∀ child ∈ node.children, Steady child) → Steady node

/-- What a table being steady all the way down says. -/
theorem steady_table_iff {attributes : Attributes} {key : Nat} {rows : List Node} :
    Steady (.table attributes key rows) ↔ (Node.table attributes key rows).isSteady = true ∧
      ∀ layout, TableLayout.ofRows rows = .ok layout → ∀ cell, .cell cell ∈ layout.ownMoments →
        Steady cell := by
  constructor
  · intro steady
    cases steady with
    | table own cells => exact ⟨own, cells⟩
    | other noTable => cases noTable
  · rintro ⟨own, cells⟩
    exact .table own cells

/-- A node that is no table is steady when its children are. -/
theorem steady_iff_children {node : Node} (noTable : node.tableKey? = none) :
    node.Steady ↔ ∀ child ∈ node.children, child.Steady := by
  constructor
  · intro steady
    cases steady with
    | table => cases noTable
    | other _ children => exact children
  · exact .other noTable

/-- A tree in which every table is steady is so where it is visited. -/
theorem Steady.of_everywhere {node : Node} (every : node.Everywhere (·.isSteady = true)) : node.Steady := by
  induction node using inductionInside with
  | step node inductionHypothesis =>
    obtain ⟨own, inside⟩ := everywhere_iff.mp every
    cases isTable : node.tableKey? with
    | none => exact .other isTable fun child isChild =>
        inductionHypothesis child isChild child (.self child) (inside child isChild)
    | some =>
      cases node with
      | table attributes key rows =>
        refine .table own fun layout made cell isMoment => ?_
        obtain ⟨row, isExported, isExportedCell⟩ := layout.mem_of_mem_ownMoments isMoment
        obtain ⟨isRow, isCell⟩ := TableLayout.mem_rows_of_mem_cells made isExported isExportedCell
        have within := within_of_cell isCell
        exact inductionHypothesis row isRow cell within fun deep inCell =>
          inside row isRow deep (inCell.trans within)
      | _ => cases isTable

end Node

end OutlineWiki
