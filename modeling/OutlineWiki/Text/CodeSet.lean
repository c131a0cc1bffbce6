/-!
# Sets of characters given by code point

A character property is published as a list of code point intervals. This module holds the sets and
their membership test; the intervals of each property are in a module of its own.
-/

namespace OutlineWiki.Text

/-- A set of code points as a list of intervals, both ends included. -/
structure CodeSet where
  intervals : List (Nat × Nat)

namespace CodeSet

/-- A code point is in the set when one of the intervals holds it. -/
def hasCode (codes : CodeSet) (code : Nat) : Bool :=
  codes.intervals.any fun interval => Nat.ble interval.1 code && Nat.ble code interval.2

/-- A character is in the set when its code point is. -/
def has (codes : CodeSet) (character : Char) : Bool :=
  codes.hasCode character.toNat

/-- Membership says that some interval encloses the code point. -/
theorem hasCode_iff {codes : CodeSet} {code : Nat} :
    codes.hasCode code = true ↔ ∃ interval ∈ codes.intervals, interval.1 ≤ code ∧ code ≤ interval.2 := by
  simp [hasCode]

end CodeSet

end OutlineWiki.Text
