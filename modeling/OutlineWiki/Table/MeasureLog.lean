import OutlineWiki.Document.Failure
import OutlineWiki.Table.WidthCache

/-!
# Column widths with a log of the measuring

A memory of column widths over numbered tables, together with the questions that its measure had to
answer. The log tells which widths were remembered and which were measured.
-/

namespace OutlineWiki

/-- A memory of widths and the questions, table and column, put to its measure so far. -/
structure MeasureLog where
  cache : WidthCache := {}
  calls : List (Nat × Nat) := []
deriving DecidableEq, Inhabited, Repr

/-- What can be done with a memory of widths. -/
inductive WidthStep where
  | ask (table column : Nat)
  | reset
deriving DecidableEq, Inhabited, Repr

namespace MeasureLog

/-- An action on the log; looking at a table may fail. -/
abbrev Action := EStateM Failure MeasureLog

instance : MonadStateOf WidthCache Action where
  get := do return (← getThe MeasureLog).cache
  set cache := modifyThe MeasureLog fun log => { log with cache }
  modifyGet change := do
    let log ← getThe MeasureLog
    let (result, cache) := change log.cache
    set { log with cache }
    return result

/-- The answer of a measure, with its question put on the log. -/
def measured (measure : Nat → Nat → Nat) (table column : Nat) : Action Nat := do
  modifyThe MeasureLog fun log => { log with calls := log.calls ++ [(table, column)] }
  return measure table column

/-- The cookie of a column, if its table can be looked at. -/
def settleCookie (cookie? : Except Failure (Option Nat)) : Action (Option Nat) :=
  match cookie? with
  | .ok width? => pure width?
  | .error failure => throw failure

/-- The width of a column: remembered, set by a cookie or measured. -/
def width (cookie? : Nat → Nat → Except Failure (Option Nat)) (measure : Nat → Nat → Nat)
    (table column : Nat) : Action Nat :=
  WidthCache.width (fun _ => pure ()) (settleCookie (cookie? table column))
    (measured measure table column) table column

/-- Forgets the widths but not the log. -/
def reset : Action Unit :=
  set ({} : WidthCache)

/-- Takes a step; only a question has an answer. -/
def take (cookie? : Nat → Nat → Except Failure (Option Nat)) (measure : Nat → Nat → Nat) :
    WidthStep → Action (Option Nat)
  | .ask table column => some <$> width cookie? measure table column
  | .reset => do
    reset
    return none

/-- Takes steps one after the other: after each its answer and the log as it is then. A step that
fails is followed by the next one. -/
def takeAll (cookie? : Nat → Nat → Except Failure (Option Nat)) (measure : Nat → Nat → Nat)
    (log : MeasureLog) : List WidthStep → List (Except Failure (Option Nat) × MeasureLog)
  | [] => []
  | step :: rest =>
    match (take cookie? measure step).run log with
    | .ok answer after => (.ok answer, after) :: takeAll cookie? measure after rest
    | .error failure after => (.error failure, after) :: takeAll cookie? measure after rest

end MeasureLog

end OutlineWiki
