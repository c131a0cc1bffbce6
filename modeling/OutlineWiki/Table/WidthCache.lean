/-!
# Column widths, remembered

Measuring a column means rendering each of its cells, so the widths found are remembered for the
table that was asked about last. Asking about another table starts over.

Measuring can itself ask for widths: a cell may hold a table. What is found is then stored for
whichever table the memory is about at that moment.
-/

namespace OutlineWiki

/-- The table that was asked about last and the widths found for it. -/
structure WidthCache where
  table : Option Nat := none
  widths : List (Nat × Nat) := []
deriving DecidableEq, Inhabited, Repr

namespace WidthCache

/-- The memory turned to a table. -/
def turnTo (cache : WidthCache) (table : Nat) : WidthCache :=
  if cache.table = some table then cache else { table := some table, widths := [] }

/-- How many widths turning to a table drops; none when the memory is about that table or no table. -/
def droppedBy? (cache : WidthCache) (table : Nat) : Option Nat :=
  if cache.table = some table then none else cache.table.map fun _ => cache.widths.length

/-- The memory with one more width. -/
def store (cache : WidthCache) (column width : Nat) : WidthCache :=
  { cache with widths := (column, width) :: cache.widths.filter fun entry => entry.1 != column }

/-- The width remembered for a column. -/
def stored? (cache : WidthCache) (column : Nat) : Option Nat :=
  cache.widths.lookup column

/-- A memory turned to a table is about that table. -/
@[simp] theorem table_turnTo (cache : WidthCache) (table : Nat) :
    (cache.turnTo table).table = some table := by
  by_cases same : cache.table = some table <;> simp [turnTo, same]

/-- Turning to the same table again changes nothing. -/
@[simp] theorem turnTo_turnTo (cache : WidthCache) (table : Nat) :
    (cache.turnTo table).turnTo table = cache.turnTo table := by
  rw [turnTo, if_pos (table_turnTo cache table)]

/-- Storing a width leaves the memory about the same table. -/
@[simp] theorem table_store (cache : WidthCache) (column width : Nat) :
    (cache.store column width).table = cache.table :=
  rfl

/-- A stored width is remembered. -/
@[simp] theorem stored?_store_self (cache : WidthCache) (column width : Nat) :
    (cache.store column width).stored? column = some width := by
  simp [stored?, store]

/-- Storing a width leaves those of all other columns alone. -/
theorem stored?_store_of_ne (cache : WidthCache) {column other : Nat} (width : Nat)
    (different : other ≠ column) :
    (cache.store column width).stored? other = cache.stored? other := by
  have beside : (other == column) = false := beq_eq_false_iff_ne.mpr different
  simp only [stored?, store, List.lookup_cons, beside]
  induction cache.widths with
  | nil => rfl
  | cons entry rest inductionHypothesis =>
    obtain ⟨stored, value⟩ := entry
    by_cases same : stored = column
    · subst same
      simp [List.lookup_cons, beside, inductionHypothesis]
    · simp [List.lookup_cons, same, inductionHypothesis]

/-- The width of a column: the one remembered, else the one its cookie sets, else the measured one,
which is remembered. `dropped` is told how many widths another table loses. -/
def width {m : Type → Type} [Monad m] [MonadStateOf WidthCache m] (dropped : Nat → m Unit)
    (cookie? : m (Option Nat)) (measure : m Nat) (table column : Nat) : m Nat := do
  let before ← getThe WidthCache
  set (before.turnTo table)
  match before.droppedBy? table with
  | some count => dropped count
  | none => pure ()
  match (before.turnTo table).stored? column with
  | some width => return width
  | none =>
    let width ←
      match ← cookie? with
      | some width => pure width
      | none => measure
    modifyThe WidthCache (·.store column width)
    return width

end WidthCache

end OutlineWiki
