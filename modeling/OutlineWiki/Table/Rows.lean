import OutlineWiki.Document.PlainText
import OutlineWiki.Table.Cookie
import OutlineWiki.Text.Blank

/-!
# Rows of a table

A table mixes rows of content with rows that only carry layout instructions. The first column is a
special column when every row that is not a rule starts with an empty cell or a marker, and at least
one starts with a marker. A row is special, and is not exported, when the table has a special column
and the row's marker is one of `/ ! ^ _ $`, or when its cells are empty or cookies and at least one
is a cookie.

The questions below look at cells from left to right and at rows from top to bottom, and stop as
soon as the answer is settled; a cell that is never looked at cannot make them fail.
-/

namespace OutlineWiki

/-- The markers that the first cell of a row can hold in a special column. -/
def columnMarkers : List String := ["#", "!", "$", "*", "_", "^", "/"]

/-- The markers that make a row special. -/
def rowMarkers : List String := ["/", "!", "^", "_", "$"]

/-- The marker of the row that defines column groups. -/
def groupMarker : String := "/"

namespace Node

/-- The plain text of a cell without blanks at its ends. A cell is any node with content; content
that is not a list of nodes has no text. -/
def cellText : Node → Except Failure String
  | .heading _ _ content | .paragraph _ content | .tableCell _ content | .styled _ _ content
  | .link _ _ content => (joinedText "" content).map Text.strip
  | .codeBlock .. | .text .. | .code .. => .ok ""
  | .document .. | .blockQuote .. | .list .. | .listItem .. | .table .. | .tableRow .. | .ruleRow ..
  | .thematicBreak .. | .image .. | .lineBreak .. => .error .unsuitable

/-- The text of the first cell, empty when there is none. -/
def firstText : List Node → Except Failure String
  | [] => .ok ""
  | cell :: _ => cell.cellText

/-- Whether rows have a special column; `found` tells that a row above starts with a marker. -/
def markerColumn (found : Bool) : List Node → Except Failure Bool
  | [] => .ok found
  | .ruleRow .. :: rest => markerColumn found rest
  | .tableRow _ _ cells :: rest => do
    let value ← firstText cells
    if columnMarkers.contains value then markerColumn true rest
    else if value = "" then markerColumn found rest
    else return false
  | _ :: _ => .error .unsuitable

/-- Whether the first column of a table holds markers. -/
def hasSpecialColumn (rows : List Node) : Except Failure Bool :=
  markerColumn false rows

/-- Whether cells are empty or cookies with at least one cookie; `found` tells of a cookie before. -/
def cookieCells (found : Bool) : List Node → Except Failure Bool
  | [] => .ok found
  | cell :: rest => do
    let value ← cell.cellText
    if (Cookie.ofText? value).isSome then cookieCells true rest
    else if value = "" then cookieCells found rest
    else return false

/-- Whether a row only carries layout instructions, in a table with or without a special column. -/
def isSpecialRow (specialColumn : Bool) : Node → Except Failure Bool
  | .ruleRow .. => .ok false
  | .tableRow _ _ cells => do
    let marked ← if specialColumn then rowMarkers.contains <$> firstText cells else pure false
    if marked then return true else cookieCells false cells
  | _ => .error .unsuitable

/-- The cells of a row by column: a special column is not counted. -/
def columnCells (specialColumn : Bool) (row : Node) : List Node :=
  match row with
  | .tableRow _ _ cells => if specialColumn then cells.drop 1 else cells
  | _ => []

/-- The key of a row. -/
def rowKey? : Node → Option Nat
  | .tableRow _ key _ | .ruleRow _ key => some key
  | _ => none

/-- Whether a node is a rule row. -/
def isRule : Node → Bool
  | .ruleRow .. => true
  | _ => false

end Node

end OutlineWiki
