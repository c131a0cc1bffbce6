import OutlineWiki.Text.Halves

/-!
# Failures of a tree

Why a tree that was read cannot be rendered or asked about, or its markup not be written. Trees whose
fields have the types they should have can only fail to be rendered by a row outside a table.
-/

namespace OutlineWiki

/-- Why a rendering or a query stopped. -/
inductive Failure where
  /-- A table row is not inside any table. -/
  | strayRow
  /-- A row is asked for its position in a table that does not export it. -/
  | unexportedRow
  /-- A value does not have the type its use needs. -/
  | wrongType
  /-- A node or a value lacks what its use asks of it, as a text that stands where a row is needed. -/
  | unsuitable
  /-- A row inside a cell asks for the width of the column it is in. -/
  | endless
  /-- The markup holds halves of surrogate pairs, from a position on, and no file takes them. -/
  | unencodable (position : Nat) (halves : List Nat)
deriving DecidableEq, Inhabited, Repr

/-- What a failure says; some say nothing beyond their cause. -/
def Failure.message? : Failure → Option String
  | .strayRow => some "Table row rendered outside of a table"
  | .unexportedRow => some "Row is not an exported row of the given table"
  | .unencodable position halves => some (encodingMessage position halves)
  | .wrongType | .unsuitable | .endless => none

/-- The stage of a rendering to which a failure belongs, where it is told. -/
def Failure.stage? : Failure → Option String
  | .strayRow => some "table"
  | .unexportedRow | .wrongType | .unsuitable | .endless | .unencodable _ _ => none

end OutlineWiki
