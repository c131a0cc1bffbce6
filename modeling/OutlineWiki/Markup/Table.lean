import OutlineWiki.Markup.Marks

/-!
# Writing tables

A table is written row by row. Every cell is padded to the width of its column, a rule that is the
second exported row becomes a dashed line, and any other rule writes nothing. A table with at most
one row of content first gets a blank row and a rule, so that the wiki still draws it as a table.
Lines that nothing was written on are left out.
-/

namespace OutlineWiki.Markup

/-- The position at which a rule is drawn as a line. -/
def drawnRuleIndex : Nat := 1

/-- The cells of a row from a column on. A cell is rendered before its column is measured. -/
def writeCells (around : Surroundings) (column : Nat) : List Writer → Render (List Json)
  | [] => return []
  | cell :: rest => do
    let content ← capture [cell] (some around)
    let width ← around.width column
    let boxes ← writeCells around (column + 1) rest
    return .string (cellBox (around.layout.startsGroup column) content width) :: boxes

/-- A row of cells, given by their writers. -/
def rowWriter (cells : List Writer) : Writer
  | none => throw .strayRow
  | some around => writeCells around 0 (if around.layout.specialColumn then cells.drop 1 else cells)

/-- A rule row. -/
def ruleWriter (row : Node) : Writer
  | none => throw .strayRow
  | some around => do
    if (← settle (around.layout.rowIndex row)) = drawnRuleIndex then
      return [.string (ruleLine (← columnWidths around))]
    else
      return []

/-- A cell on one line. -/
def cellWriter (content : List Writer) : Writer := fun around => do
  return [.string (Text.collapse (← capture content around))]

/-- The dummy header of a table with at most one row of content. -/
def dummyHeader (around : Surroundings) : Render (List String) := do
  if around.layout.rowCount ≤ 1 then
    let widths ← columnWidths around
    return [blankLine widths ++ "\n", ruleLine widths ++ "\n"]
  else
    return []

/-- The cells by column of each exported row, as their writers or as what else stands for them. -/
def exportedCells {Cell : Type} (layout : TableLayout) (cells : List (List Cell)) : List (List Cell) :=
  (layout.exported cells).map fun row => if layout.specialColumn then row.drop 1 else row

/-- A way to write a table, given its key, its rows, and the writers of its rows and of each row's
cells. -/
abbrev TableForm := Nat → List Node → List Writer → List (List Writer) → Writer

/-- A table with aligned columns, whose widths are found in a given way. -/
def tableWriter (find : WidthFinder) : TableForm := fun table rows writers cells _ => do
  let layout ← settle (TableLayout.ofRows rows)
  note (.renderingTable layout.rowCount layout.columnCount)
  if layout.columnCount = 0 then return []
  let grid := exportedCells layout cells
  let inside := surroundings find table layout grid (questionBound grid)
  let header ← dummyHeader inside
  let lines ← blocks (layout.exported writers) (some inside)
  return [.string (Text.dropEmptyLines (String.join (header ++ lines.map (· ++ "\n"))))]

end OutlineWiki.Markup
