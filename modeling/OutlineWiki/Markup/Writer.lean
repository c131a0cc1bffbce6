import OutlineWiki.Markup.State
import OutlineWiki.Table.Layout
import OutlineWiki.Table.Lines
import OutlineWiki.Text.Blank
import OutlineWiki.Text.Lines

/-!
# Writers

A writer is what a node means: given the table around it, it writes the node's pieces. Writers of
children are combined here into captured texts, blocks and sequences.

The surroundings know how to find the width of a column of their table: in the memory of widths, or
by measuring it each time. A row inside a cell, outside any table of its own, belongs to the table
around the cell, and may ask for the width of the very column being measured; that never ends, and
measuring gives up after as many nested questions as the table has columns to ask about.
-/

namespace OutlineWiki.Markup

/-- The table around a node: its layout, and how to find the width of one of its columns. -/
structure Surroundings where
  layout : TableLayout
  width : Nat → Render Nat

/-- How a node writes itself, in a table or outside of any. -/
abbrev Writer := Option Surroundings → Render (List Json)

/-- A writer of fixed pieces. -/
def Writer.ofStrings (strings : List String) : Writer := fun _ =>
  return strings.map .string

/-- Writers one after the other, as one. -/
def inSequence : List Writer → Writer
  | [] => fun _ => return []
  | first :: rest => fun around => do
    let pieces ← first around
    let more ← inSequence rest around
    return pieces ++ more

/-- What writers write, as a string. -/
def capture (writers : List Writer) (around : Option Surroundings) : Render String := do
  settle (joinPieces (← inSequence writers around))

/-- What one writer writes on its own, without line feeds at its end. -/
def block (writer : Writer) (around : Option Surroundings) : Render String := do
  return Text.stripNewlinesEnd (← capture [writer] around)

/-- The blocks of several writers. -/
def blocks : List Writer → Option Surroundings → Render (List String)
  | [], _ => return []
  | first :: rest, around => do
    let text ← block first around
    let texts ← blocks rest around
    return text :: texts

/-- Blocks with one blank line between them; those that show nothing are left out. -/
def joinBlocks (texts : List String) : String :=
  "\n\n".intercalate (texts.filter Text.hasInk)

/-! ## Columns -/

/-- The width of the widest cell of a column, in rows given by the writers of their cells. -/
def measureColumn (column : Nat) (around : Option Surroundings) : List (List Writer) → Render Nat
  | [] => return 0
  | cells :: rest => do
    let width ←
      match cells[column]? with
      | some cell => Text.displayWidth <$> capture [cell] around
      | none => pure 0
    let widest ← measureColumn column around rest
    return max width widest

/-- A way to find the width of a column: from the key of its table, the width a cookie sets, the column
and what measures it. -/
abbrev WidthFinder := Nat → Option Nat → Nat → Render Nat → Render Nat

namespace WidthFinder

/-- Widths are remembered: a column is measured only when nothing is known about it. -/
def remembering : WidthFinder := fun table cookie? column measure =>
  WidthCache.width (fun count => note (.widthsDropped count)) (pure cookie?) measure table column

/-- Nothing is remembered: a column without a cookie is measured each time. -/
def measuring : WidthFinder := fun _ cookie? _ measure =>
  match cookie? with
  | some width => pure width
  | none => measure

end WidthFinder

/-- The surroundings inside a table, with a bound on nested questions for widths. -/
def surroundings (find : WidthFinder) (table : Nat) (layout : TableLayout) (rows : List (List Writer)) :
    Nat → Surroundings
  | 0 => { layout, width := fun column => find table (layout.cookie? column) column (throw .endless) }
  | bound + 1 =>
    { layout
      width := fun column => find table (layout.cookie? column) column
        (measureColumn column (some (surroundings find table layout rows bound)) rows) }

/-- One more than the columns that can be asked about with an answer other than zero. -/
def questionBound (rows : List (List Writer)) : Nat :=
  (rows.map List.length).foldl max 0 + 1

/-- The widths of columns from one on. -/
def columnWidthsFrom (around : Surroundings) (first : Nat) : Nat → Render (List Nat)
  | 0 => return []
  | count + 1 => do
    let width ← around.width first
    let widths ← columnWidthsFrom around (first + 1) count
    return width :: widths

/-- The widths of all columns of the table around. -/
def columnWidths (around : Surroundings) : Render (List Nat) :=
  columnWidthsFrom around 0 around.layout.columnCount

end OutlineWiki.Markup
