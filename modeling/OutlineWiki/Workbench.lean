import OutlineWiki.Builder
import OutlineWiki.Renderer

/-!
# A workbench for tables

Tables that are built, changed in place, laid out, measured and rendered one action after another. A
row keeps its identity when it is placed in a second table or a second time in the same one; a
layout keeps describing the rows it was made of. The renderer remembers column widths between
actions, also when a table has changed since.
-/

namespace OutlineWiki

/-- Why an action was refused. -/
inductive BenchError where
  | noSuchItem
  | failure (failure : Failure)
deriving DecidableEq, Inhabited, Repr

/-- A table on the bench: its key and its rows. -/
structure BenchTable where
  key : Nat
  rows : List Node
deriving Inhabited, Repr

/-- The table as a node. -/
def BenchTable.node (table : BenchTable) : Node :=
  .table {} table.key table.rows

/-- Everything on the bench. Keys from `nextKey` on are free. -/
structure Workbench where
  nextKey : Nat := 0
  builder : List Node := []
  tables : List BenchTable := []
  layouts : List TableLayout := []
  renderer : Renderer := {}
deriving Inhabited

namespace Workbench

/-- An action: it may be refused, and what it changed before stays changed. -/
abbrev Action := EStateM BenchError Workbench

/-- An action that is settled without a look at the bench. -/
def settle {α : Type} : Except Failure α → Action α
  | .ok value => pure value
  | .error failure => throw (.failure failure)

/-- An item that has to exist. -/
def item {α : Type} : Option α → Action α
  | some value => pure value
  | none => throw .noSuchItem

/-- A table by its number. -/
def table (number : Nat) : Action BenchTable := do
  item (← get).tables[number]?

/-- A row of a table. -/
def row (number position : Nat) : Action Node := do
  item (← table number).rows[position]?

/-- A layout by its number. -/
def layout (number : Nat) : Action TableLayout := do
  item (← get).layouts[number]?

/-- A new row with keys of its own. -/
def newRow (spec : RowSpec) : Action Node := do
  let plain ← settle spec.row
  let bench ← get
  let (row, nextKey) := plain.numberFrom bench.nextKey
  set { bench with nextKey }
  return row

/-- Starts a new builder. -/
def startTable : Action Unit :=
  modify fun bench => { bench with builder := [] }

/-- Adds a row to the builder; gives the number of its rows. -/
def addRow (row : Node) : Action Nat := do
  modify fun bench => { bench with builder := bench.builder ++ [row] }
  return (← get).builder.length

/-- Puts the builder's rows on the bench as a table; gives its number and the number of its rows. -/
def finishTable : Action (Nat × Nat) := do
  let bench ← get
  set { bench with
    nextKey := bench.nextKey + 1
    tables := bench.tables ++ [BenchTable.mk bench.nextKey bench.builder] }
  return (bench.tables.length, bench.builder.length)

/-- Replaces the rows of a table in place. -/
def setRows (number : Nat) (rows : List Node) : Action Nat := do
  modify fun bench => { bench with tables := bench.tables.modify number fun table => { table with rows } }
  return rows.length

/-- Adds a row at the end of a table. -/
def pushRow (number : Nat) (spec : RowSpec) : Action Nat := do
  let rows := (← table number).rows
  let row ← newRow spec
  setRows number (rows ++ [row])

/-- Removes the last row of a table. -/
def popRow (number : Nat) : Action Nat := do
  let rows := (← table number).rows
  if rows.isEmpty then throw .noSuchItem
  setRows number rows.dropLast

/-- Makes a layout of a table as it is now. -/
def addLayout (number : Nat) : Action TableLayout := do
  let layout ← settle (TableLayout.ofRows (← table number).rows)
  modify fun bench => { bench with layouts := bench.layouts ++ [layout] }
  return layout

/-- Runs a step of the renderer. -/
def withRenderer {α : Type} (step : Renderer → Except Failure α × Renderer) : Action α := do
  let bench ← get
  let (result, renderer) := step bench.renderer
  set { bench with renderer }
  settle result

/-- The width of a column as the renderer knows it. -/
def width (number column : Nat) : Action Nat := do
  let table ← table number
  withRenderer fun renderer => renderer.width table.key table.rows column

/-- Makes the renderer forget its widths. -/
def resetWidths : Action Unit :=
  modify fun bench => { bench with renderer := bench.renderer.resetWidths }

/-- Renders a document of tables. -/
def renderTables (numbers : List Nat) : Action String := do
  let tables ← numbers.mapM table
  withRenderer fun renderer => renderer.renderToString (.document {} (tables.map BenchTable.node))

end Workbench

/-- The positions of rows in a table: for each row that of its first occurrence. -/
def rowPositions (table rows : List Node) : List Nat :=
  rows.filterMap fun row => table.findIdx? fun other => other.rowKey? == row.rowKey?

end OutlineWiki
