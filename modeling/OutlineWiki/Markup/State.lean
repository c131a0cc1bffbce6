import OutlineWiki.Document.PlainText
import OutlineWiki.Table.WidthCache

/-!
# The state of a rendering

What changes while a tree is rendered: how deep the current list is, the number of the next item of
each open list, the column widths found so far, and the notices given. A visit gives back the pieces
it writes; a piece is a string, or a value that will not join with strings.
-/

namespace OutlineWiki

/-- What a rendering tells a reader of its log. -/
inductive Notice where
  | renderingTable (rows columns : Nat)
  | widthsDropped (count : Nat)
deriving DecidableEq, Inhabited, Repr

/-- What a notice says. -/
def Notice.message : Notice → String
  | .renderingTable rows columns =>
    "Rendering table with " ++ toString rows ++ " rows and " ++ toString columns ++ " columns"
  | .widthsDropped count =>
    "Column width cache invalidated for new table (" ++ toString count ++ " cached columns dropped)"

namespace Markup

/-- The state of a rendering. The number of the innermost list is first in `numbers`; null stands for
a list without numbers. -/
structure State where
  listLevel : Nat := 0
  numbers : List Json := []
  widths : WidthCache := {}
  notices : List Notice := []
deriving Inhabited, Repr

/-- A step of a rendering: it may fail, and what it changed before stays changed. -/
abbrev Render := EStateM Failure State

instance : MonadStateOf WidthCache Render where
  get := do return (← getThe State).widths
  set widths := modifyThe State fun state => { state with widths }
  modifyGet change := do
    let state ← getThe State
    let (result, widths) := change state.widths
    set { state with widths }
    return result

/-- Gives a notice. -/
def note (notice : Notice) : Render Unit :=
  modifyThe State fun state => { state with notices := state.notices ++ [notice] }

/-- A step that is settled without a look at the state. -/
def settle {α : Type} : Except Failure α → Render α
  | .ok value => pure value
  | .error failure => throw failure

/-- The pieces a visit writes, as one string. -/
def joinPieces (pieces : List Json) : Except Failure String :=
  (stringsOf pieces).map String.join

end Markup

end OutlineWiki
