import OutlineWiki.Markup.Write

/-!
# The renderer

A renderer keeps an option set and the state that its renderings leave behind. Every rendering starts
from a clean state, so a renderer can be used again, also after a failure; only the notices of all
its renderings add up. Between renderings the column widths it remembers can be asked for.
-/

namespace OutlineWiki

open Markup

/-- A renderer with its options and what its last rendering left. -/
structure Renderer where
  options : Options := {}
  state : State := {}
deriving Inhabited, Repr

/-- A finished text: no blanks at its end but one line feed. -/
def finishText (text : String) : String :=
  Text.stripEnd text ++ "\n"

/-- The markup of a whole tree. -/
def renderTree (form : TableForm) (options : Options) (tree : Node) : Render String := do
  finishText <$> capture [tree.writer form options] none

namespace Renderer

/-- Runs a step and keeps the state it leaves. -/
def run {α : Type} (renderer : Renderer) (step : Render α) : Except Failure α × Renderer :=
  match EStateM.run step renderer.state with
  | .ok value state => (.ok value, { renderer with state })
  | .error failure state => (.error failure, { renderer with state })

/-- The renderer before its first rendering, but with the notices given so far. -/
def restarted (renderer : Renderer) : Renderer :=
  { renderer with state := { notices := renderer.state.notices } }

/-- The markup of a tree. -/
def renderToString (renderer : Renderer) (tree : Node) : Except Failure String × Renderer :=
  renderer.restarted.run (renderTree (tableWriter .remembering) renderer.options tree)

/-- The width of a column of a table, as remembered or as measured now. -/
def width (renderer : Renderer) (table : Nat) (rows : List Node) (column : Nat) :
    Except Failure Nat × Renderer :=
  let layout := TableLayout.ofRows rows
  let measure : Render Nat := do
    let layout ← settle layout
    measureColumn column none (exportedCells layout (Node.cellWriters (tableWriter .remembering) renderer.options rows))
  renderer.run <|
    WidthCache.width (fun count => note (.widthsDropped count))
      (settle (layout.map (·.cookie? column))) measure table column

/-- The renderer without remembered widths. -/
def resetWidths (renderer : Renderer) : Renderer :=
  { renderer with state := { renderer.state with widths := {} } }

end Renderer

/-- The markup of a tree, by a new renderer. -/
def render (options : Options) (tree : Node) : Except Failure String :=
  ({ options : Renderer }.renderToString tree).1

end OutlineWiki
