import OutlineWiki.Table.Rows

/-!
# Table layout

Everything a renderer needs to know about a table: which rows are exported, how many rows and
columns there are, the widths that cookies set and the columns at which column groups start. A
layout describes the rows it was made of and is not updated when the table changes.
-/

namespace OutlineWiki

/-- The layout of a table. `special` tells of each source row whether it is left out, and `rows` are
the others in order. `rowCount` counts rows that are not rules. -/
structure TableLayout where
  specialColumn : Bool
  special : List Bool
  rows : List Node
  rowCount : Nat
  columnCount : Nat
  cookies : List (Nat × Nat)
  markers : List String
deriving Inhabited

namespace TableLayout

/-- Of a list with one item for each source row, the items of the rows with the given status. -/
def select {α : Type} (status : Bool) (special : List Bool) (items : List α) : List α :=
  ((special.zip items).filter fun entry => entry.1 == status).map (·.2)

/-- The widths set so far with those of one more row; a column keeps its first width. -/
def addCookies (cookies : List (Nat × Nat)) (column : Nat) : List Node → Except Failure (List (Nat × Nat))
  | [] => .ok cookies
  | cell :: rest => do
    let value ← cell.cellText
    let cookies :=
      match (Cookie.ofText? value).bind (·.width), cookies.lookup column with
      | some width, none => cookies ++ [(column, width)]
      | _, _ => cookies
    addCookies cookies (column + 1) rest

/-- The cookies and group markers of special rows, added to those of the rows above. The first row of
group markers that has a cell beside its marker counts. -/
def readSpecialRows (specialColumn : Bool) (cookies : List (Nat × Nat)) (markers : List String) :
    List Node → Except Failure (List (Nat × Nat) × List String)
  | [] => .ok (cookies, markers)
  | row :: rest => do
    let cells := row.columnCells specialColumn
    let markers ←
      if specialColumn && markers.isEmpty then
        if (← Node.firstText row.children) = groupMarker then cells.mapM Node.cellText else pure markers
      else pure markers
    let cookies ← addCookies cookies 0 cells
    readSpecialRows specialColumn cookies markers rest

/-- The layout of a table with the given rows. -/
def ofRows (rows : List Node) : Except Failure TableLayout := do
  let specialColumn ← Node.hasSpecialColumn rows
  let special ← rows.mapM (Node.isSpecialRow specialColumn)
  let exported := select false special rows
  let specialRows := select true special rows
  let standardRows := exported.filter fun row => !row.isRule
  -- Without rows of content the layout rows still tell how many columns there are.
  let columnCount :=
    match standardRows ++ specialRows with
    | shape :: _ => (shape.columnCells specialColumn).length
    | [] => 0
  let (cookies, markers) ← readSpecialRows specialColumn [] [] specialRows
  return {
    specialColumn
    special
    rows := exported
    rowCount := standardRows.length
    columnCount
    cookies
    markers }

/-- The items of exported rows, from a list with one item for each source row. -/
def exported {α : Type} (layout : TableLayout) (items : List α) : List α :=
  select false layout.special items

/-- The cells of a row by column. -/
def cells (layout : TableLayout) (row : Node) : List Node :=
  row.columnCells layout.specialColumn

/-- The position of a row among the exported rows: that of its first occurrence. -/
def rowIndex (layout : TableLayout) (row : Node) : Except Failure Nat :=
  match layout.rows.findIdx? fun other => other.rowKey? == row.rowKey? with
  | some index => .ok index
  | none => .error .unexportedRow

/-- The width a cookie sets for a column. -/
def cookie? (layout : TableLayout) (column : Nat) : Option Nat :=
  layout.cookies.lookup column

/-- Whether a column opens a column group: the first one does, one marked as a start does, and one
after a column marked as an end. -/
def startsGroup (layout : TableLayout) (column : Nat) : Bool :=
  match column with
  | 0 => true
  | before + 1 =>
    (layout.markers[column]?.any fun marker => marker == "<" || marker == "<>") ||
      (layout.markers[before]?.any fun marker => marker == ">" || marker == "<>")

end TableLayout

/-- The exported rows of a table in order. -/
def exportedRows (rows : List Node) : Except Failure (List Node) := do
  let specialColumn ← Node.hasSpecialColumn rows
  let special ← rows.mapM (Node.isSpecialRow specialColumn)
  return TableLayout.select false special rows

/-- Whether a row would be left out of a table. -/
def isSpecialRowOf (rows : List Node) (row : Node) : Except Failure Bool := do
  Node.isSpecialRow (← Node.hasSpecialColumn rows) row

/-- The number of exported rows that are not rules, and of columns. -/
def tableDimensions (rows : List Node) : Except Failure (Nat × Nat) := do
  let layout ← TableLayout.ofRows rows
  return (layout.rowCount, layout.columnCount)

/-- The position of a row among the exported rows of a table. -/
def exportedPosition (rows : List Node) (row : Node) : Except Failure Nat := do
  (← TableLayout.ofRows rows).rowIndex row

/-- The width that a cookie sets for a column of a table. -/
def columnCookie (rows : List Node) (column : Nat) : Except Failure (Option Nat) := do
  return (← TableLayout.ofRows rows).cookie? column

/-- Whether a column of a table opens a column group. -/
def columnStartsGroup (rows : List Node) (column : Nat) : Except Failure Bool := do
  return (← TableLayout.ofRows rows).startsGroup column

end OutlineWiki
