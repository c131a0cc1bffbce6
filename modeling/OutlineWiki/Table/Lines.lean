import OutlineWiki.Text.Width

/-!
# Synthesized table lines

The two lines of a table that no source row gives: the rule and the blank row of a dummy header.
Each has one run of characters for every column, as wide as the column but never narrower than the
least width.
-/

namespace OutlineWiki

/-- The least width of a run in a synthesized line. -/
def leastRunWidth : Nat := 3

/-- A line of one run for each column between borders. -/
def runLine (character : Char) (widths : List Nat) : String :=
  "||" ++ "||".intercalate (widths.map fun width => Text.replicate (max leastRunWidth width) character) ++
    "||"

/-- The rule line for columns of the given widths. -/
def ruleLine (widths : List Nat) : String :=
  runLine '-' widths

/-- The blank row for columns of the given widths. -/
def blankLine (widths : List Nat) : String :=
  runLine ' ' widths

end OutlineWiki
