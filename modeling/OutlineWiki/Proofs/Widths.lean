import OutlineWiki.Proofs.TableText

/-!
# Answers from the memory of widths

A question for a width is answered by the memory if it holds an answer, and else by the column's
cookie or its measure, which the memory then holds. What can be said of every answer follows from what
is known of the memory and kept by its two changes: turning to a table and storing a width.
-/

namespace OutlineWiki.Markup

/-- The state in which a question is put: the memory is turned to the table that asks. -/
def State.turned (state : State) (table : Nat) : State :=
  { state with
    widths := state.widths.turnTo table
    notices := state.notices ++ ((state.widths.droppedBy? table).map .widthsDropped).toList }

/-- The width of a column by its cookie or by its measure. -/
def cookieOrMeasure (cookie? : Option Nat) (measure : Render Nat) : Render Nat :=
  match cookie? with
  | some width => pure width
  | none => measure

/-- The steps that look at the memory and change it do nothing else. -/
theorem run_memory (state : State) (cache : WidthCache) (change : WidthCache → WidthCache)
    (notice : Notice) :
    (getThe WidthCache : Render WidthCache).run state = .ok state.widths state ∧
      (set cache : Render PUnit).run state = .ok ⟨⟩ { state with widths := cache } ∧
      (modifyThe WidthCache change : Render PUnit).run state =
        .ok ⟨⟩ { state with widths := change state.widths } ∧
      (note notice).run state = .ok () { state with notices := state.notices ++ [notice] } :=
  ⟨rfl, rfl, rfl, rfl⟩

/-- How a question is answered: from the memory turned to the table that asks, or else by the cookie
or the measure, after which the answer is stored in the memory as the measure left it. -/
theorem run_remembering (table column : Nat) (cookie? : Option Nat) (measure : Render Nat)
    (state : State) :
    (WidthFinder.remembering table cookie? column measure).run state =
      match (state.widths.turnTo table).stored? column with
      | some width => .ok width (state.turned table)
      | none =>
        match (cookieOrMeasure cookie? measure).run (state.turned table) with
        | .ok width after => .ok width { after with widths := after.widths.store column width }
        | .error failure after => .error failure after := by
  have answered : (match (state.widths.turnTo table).stored? column with
      | some width => (pure width : Render Nat)
      | none => do
        let width ← cookieOrMeasure cookie? measure
        modifyThe WidthCache (·.store column width)
        return width).run (state.turned table) =
          match (state.widths.turnTo table).stored? column with
          | some width => .ok width (state.turned table)
          | none =>
            match (cookieOrMeasure cookie? measure).run (state.turned table) with
            | .ok width after => .ok width { after with widths := after.widths.store column width }
            | .error failure after => .error failure after := by
    cases (state.widths.turnTo table).stored? column with
    | some width => rfl
    | none =>
      simp only [EStateM.run_bind]
      cases (cookieOrMeasure cookie? measure).run (state.turned table) <;> rfl
  rw [← answered]
  unfold WidthFinder.remembering WidthCache.width
  cases dropped : state.widths.droppedBy? table with
  | none =>
    have turned : state.turned table = { state with widths := state.widths.turnTo table } := by
      simp [State.turned, dropped]
    rw [turned]
    simp only [EStateM.run_bind, (run_memory _ default id default).1, dropped]
    cases (state.widths.turnTo table).stored? column <;> cases cookie? <;> rfl
  | some count =>
    have turned : state.turned table = { state with
        widths := state.widths.turnTo table
        notices := state.notices ++ [.widthsDropped count] } := by
      simp [State.turned, dropped]
    rw [turned]
    simp only [EStateM.run_bind, (run_memory _ default id default).1, dropped]
    cases (state.widths.turnTo table).stored? column <;> cases cookie? <;> rfl

/-- What is known of the memory settles the answers to a table's questions: a width that is remembered
for a column, or else the column's own width, is the given one, and what is known stays known when the
memory turns to the table and when it then stores an own width where it had none. -/
structure Answers (table : Nat) (own width : Nat → Nat) (known : WidthCache → Prop) : Prop where
  answer : ∀ cache, known cache → ∀ column,
    ((cache.turnTo table).stored? column).getD (own column) = width column
  turn : ∀ cache, known cache → known (cache.turnTo table)
  store : ∀ cache column, known cache → cache.table = some table → cache.stored? column = none →
    known (cache.store column (own column))

/-- A question is answered as the memory settles it, if measuring leaves the memory alone. -/
theorem agree_remembering {known : WidthCache → Prop} {table : Nat} {own width : Nat → Nat}
    (answers : Answers table own width known) {column : Nat} {cookie? : Option Nat}
    {measure : Render Nat}
    (measured : ∀ cache, Agree (Remembered (· = cache)) (Remembered (· = cache))
      (cookieOrMeasure cookie? measure) (pure (own column))) :
    Agree (Remembered known) (Remembered known)
      (WidthFinder.remembering table cookie? column measure) (pure (width column)) := by
  intro first second alike meets
  have answer := answers.answer first.widths meets column
  have turned : known (first.turned table).widths := answers.turn first.widths meets
  rw [run_remembering]
  cases stored : (first.widths.turnTo table).stored? column with
  | some found =>
    rw [stored, Option.getD_some] at answer
    subst answer
    exact .inl ⟨_, _, second, rfl, rfl, ⟨alike.1, alike.2⟩, turned⟩
  | none =>
    rw [stored, Option.getD_none] at answer
    have turnedAlike : (first.turned table).Alike second := ⟨alike.1, alike.2⟩
    rcases (measured (first.turned table).widths).outcome turnedAlike rfl with
      ⟨_, after, _, measureRun, ownRun, alike', unchanged⟩ | ⟨_, _, _, _, ownRun⟩
    · obtain ⟨rfl, rfl⟩ := EStateM.Result.ok.inj ownRun
      rw [measureRun]
      have sameMemory : after.widths = first.widths.turnTo table := unchanged
      refine .inl ⟨_, _, second, rfl, by rw [answer]; rfl, ⟨alike'.1, alike'.2⟩, ?_⟩
      show known (after.widths.store column (own column))
      rw [sameMemory]
      exact answers.store _ column turned (WidthCache.table_turnTo _ _) stored
    · cases ownRun

/-! ## Tables of inline cells -/

variable {layout : TableLayout} {rows : List Node} {options : Options}

/-- Without a memory a question is answered with the column's own width, when the cells have contents. -/
theorem agree_ownWidth {form : TableForm} {condition : Condition} {content : Node → String}
    (made : TableLayout.ofRows rows = .ok layout)
    (contents : ∀ row ∈ layout.rows, HaveContents form options condition content (layout.cells row))
    (column : Nat) (around : Option Surroundings) :
    Agree condition condition
      (cookieOrMeasure (layout.cookie? column) (measureColumn column around
        (layout.rows.map fun row => Node.writers form options (layout.cells row))))
      (pure (layout.ownWidth rows content column)) := by
  rw [TableLayout.ownWidth, ← TableLayout.cookie?_eq_firstCookie? made]
  cases layout.cookie? column with
  | some found => exact .pure found
  | none => exact agree_measureColumn contents column around

/-- The cells of rows with inline cells have their contents wherever they are written. -/
theorem haveContents_inline {form : TableForm} {condition : Condition} {row : Node}
    (inline : row.hasInlineCells = true) :
    HaveContents form options condition Node.cellContent (layout.cells row) := by
  intro cell inside around
  have isInline : cell.isInlineCell = true := by
    cases row with
    | tableRow => exact List.all_eq_true.mp inline cell (Node.columnCells_subset _ _ inside)
    | _ => cases inside
  rw [capture_inlineCell isInline]
  exact .pure _

/-- A content that is on one line wherever it stands. -/
theorem oneLine_cellContent (cell : Node) : Text.OneLine cell.cellContent := by
  cases cell with
  | tableCell attributes content => exact Text.oneLine_collapse _
  | _ => simp [Node.cellContent, Text.OneLine]

/-- A visit of a table of inline cells writes its text with the widths that the memory settles. -/
theorem agree_inlineTable {known : WidthCache → Prop} {attributes : Attributes} {key : Nat}
    {width : Nat → Nat} (made : TableLayout.ofRows rows = .ok layout)
    (inline : ∀ row ∈ rows, row.hasInlineCells = true)
    (answers : Answers key (layout.ownWidth rows Node.cellContent) width known)
    (around : Option Surroundings) :
    Agree (Remembered known) (Remembered known)
      ((Node.table attributes key rows).writer (tableWriter .remembering) options around)
      (pure (layout.tablePieces Node.cellContent width)) := by
  have exportedInline : ∀ row ∈ layout.rows, row.hasInlineCells = true := fun row inside =>
    inline row ((TableLayout.rows_sublist made).subset inside)
  obtain ⟨-, -, exported, -⟩ := TableLayout.of_ofRows made
  simp only [Node.writer]
  refine agree_tableWriter made (fun column => ?_)
    (fun row inside => haveContents_inline (exportedInline row inside)) oneLine_cellContent
  refine agree_remembering answers fun cache => ?_
  rw [exportedCells_eq exported]
  exact agree_ownWidth made (fun row inside => haveContents_inline (exportedInline row inside)) column _

end OutlineWiki.Markup
