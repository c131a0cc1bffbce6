import OutlineWiki.Proofs.LayoutsMade
import OutlineWiki.Proofs.Widths

/-!
# The lines of a table of inline cells

A table of inline cells always has a layout, so its visit succeeds in every state. When its rows are
different objects, a rule is drawn exactly where it is the second exported row.
-/

namespace OutlineWiki

open Markup

namespace Node

/-! ## Tables of inline cells have a layout -/

/-- The children of an inline node are inline. -/
theorem isInline_child {node child : Node} (inline : node.isInline = true) (inside : child ∈ node.children) :
    child.isInline = true := by
  cases node with
  | styled | link => exact allInline_iff.mp inline child inside
  | text | code | image | lineBreak => cases inside
  | _ => cases inline

/-- The texts of an inline node are strings. -/
theorem strings_of_isInline {node : Node} (inline : node.isInline = true) :
    node.Everywhere (·.hasStringText = true) := by
  induction node using inductionChildren with
  | step node inductionHypothesis =>
    refine everywhere_iff.mpr
      ⟨?_, fun child inside => inductionHypothesis child inside (isInline_child inline inside)⟩
    cases node with
    | text attributes content | code attributes content =>
      cases content with
      | string value => rfl
      | _ => cases inline
    | _ => rfl

/-- A cell of inline content has a plain text. -/
theorem hasText_of_isInlineCell {cell : Node} (inline : cell.isInlineCell = true) : cell.HasText := by
  cases cell with
  | tableCell attributes content =>
    exact ⟨_, cellText_strings (everywhere_iff.mpr
      ⟨rfl, fun child inside => strings_of_isInline (allInline_iff.mp inline child inside)⟩)⟩
  | _ => cases inline

/-- A row of a table of inline cells: a rule, or cells with inline content. -/
def isInlineRow (row : Node) : Bool :=
  row.rowKey?.isSome && row.hasInlineCells

/-- A row of inline cells can be read. -/
theorem isReadableRow_of_isInlineRow {row : Node} (inline : row.isInlineRow = true) :
    row.IsReadableRow := by
  obtain ⟨isRow, cellsInline⟩ := Bool.and_eq_true_iff.mp inline
  refine ⟨isRow, fun cell inside => ?_⟩
  cases row with
  | tableRow attributes key cells =>
    exact hasText_of_isInlineCell (List.all_eq_true.mp cellsInline cell inside)
  | ruleRow => cases inside
  | _ => cases isRow

end Node

namespace TableLayout

/-- A table of inline cells has a layout. -/
theorem ofRows_inline {rows : List Node} (inline : ∀ row ∈ rows, row.isInlineRow = true) :
    ∃ layout, ofRows rows = .ok layout :=
  ofRows_ok fun row inside => Node.isReadableRow_of_isInlineRow (inline row inside)

/-! ## Positions -/

/-- Rows that are different objects: no two have the same key. -/
def DifferentRows (rows : List Node) : Prop :=
  (rows.map Node.rowKey?).Nodup

instance (rows : List Node) : Decidable (DifferentRows rows) :=
  inferInstanceAs (Decidable (rows.map Node.rowKey?).Nodup)

/-- Among different rows, each exported row is found at its own position. -/
theorem rowIndex_getElem {rows : List Node} {layout : TableLayout} (made : ofRows rows = .ok layout)
    (different : DifferentRows rows) {index : Nat} (inside : index < layout.rows.length) :
    layout.rowIndex layout.rows[index] = .ok index := by
  have once : layout.rows.Pairwise fun first second => first.rowKey? ≠ second.rowKey? :=
    (List.pairwise_map.mp different).sublist (rows_sublist made)
  have position : layout.rows.findIdx? (fun other => other.rowKey? == layout.rows[index].rowKey?) =
      some index := by
    rw [List.findIdx?_eq_some_iff_getElem]
    refine ⟨inside, by simp, fun other before => ?_⟩
    have distinct := List.pairwise_iff_getElem.mp once other index (by omega) inside before
    simpa using distinct
  rw [rowIndex, position]

/-- The lines of a table, given which of its exported rows are drawn if they are rules. -/
def linesDrawing (layout : TableLayout) (content : Node → String) (width : Nat → Nat)
    (drawn : Node → Nat → Bool) : List String :=
  layout.headerLines width ++ layout.rows.zipIdx.flatMap fun entry =>
    layout.rowLines content width (drawn entry.1 entry.2) entry.1

/-- The lines of a table draw rules by their keys. -/
theorem tableLines_eq_linesDrawing (layout : TableLayout) (content : Node → String) (width : Nat → Nat) :
    layout.tableLines content width =
      layout.linesDrawing content width fun row _ => layout.isDrawn row := by
  have rows := List.flatMap_map Prod.fst
    (fun row => layout.rowLines content width (layout.isDrawn row) row) layout.rows.zipIdx
  rw [List.zipIdx_map_fst] at rows
  rw [tableLines, rows, linesDrawing]

/-- Lines are the same when the same rules are drawn. -/
theorem linesDrawing_congr {layout : TableLayout} (content : Node → String) (width : Nat → Nat)
    {drawn drawnToo : Node → Nat → Bool}
    (same : ∀ row index, layout.rows[index]? = some row → row.isRule = true →
      drawn row index = drawnToo row index) :
    layout.linesDrawing content width drawn = layout.linesDrawing content width drawnToo := by
  rw [linesDrawing, linesDrawing]
  congr 1
  refine List.flatMap_congr fun entry inside => ?_
  rw [rowLines_eq, rowLines_eq]
  by_cases isRule : entry.1.isRule = true
  · rw [same entry.1 entry.2 (List.mem_zipIdx_iff_getElem?.mp inside) isRule]
  · simp [isRule]

/-- The pieces of a table, given which of its exported rows are drawn if they are rules. -/
def drawnPieces (layout : TableLayout) (content : Node → String) (width : Nat → Nat)
    (drawn : Node → Nat → Bool) : List Json :=
  if layout.columnCount = 0 then []
  else [.string (String.join ((layout.linesDrawing content width drawn).map (· ++ "\n")))]

/-- The pieces of a table draw rules by their keys. -/
theorem tablePieces_eq_drawnPieces (layout : TableLayout) (content : Node → String) (width : Nat → Nat) :
    layout.tablePieces content width =
      layout.drawnPieces content width fun row _ => layout.isDrawn row := by
  rw [tablePieces, tableLines_eq_linesDrawing, drawnPieces]

/-- The lines of a table, with a rule drawn where it is the second exported row. -/
def positionedLines (layout : TableLayout) (content : Node → String) (width : Nat → Nat) :
    List String :=
  layout.headerLines width ++ layout.rows.zipIdx.flatMap fun entry =>
    layout.rowLines content width (entry.2 == 1) entry.1

/-- The lines of a table by position draw a rule where it is the second exported row. -/
theorem positionedLines_eq_linesDrawing (layout : TableLayout) (content : Node → String)
    (width : Nat → Nat) :
    layout.positionedLines content width = layout.linesDrawing content width fun _ index => index == 1 :=
  rfl

/-- Among different rows, a rule is drawn exactly where it is the second exported row. -/
theorem tableLines_eq_positionedLines {rows : List Node} {layout : TableLayout}
    (made : ofRows rows = .ok layout) (different : DifferentRows rows) (content : Node → String)
    (width : Nat → Nat) :
    layout.tableLines content width = layout.positionedLines content width := by
  rw [tableLines_eq_linesDrawing, positionedLines_eq_linesDrawing]
  refine linesDrawing_congr content width fun row index found _ => ?_
  obtain ⟨before, rfl⟩ := List.getElem?_eq_some_iff.mp found
  rw [isDrawn, rowIndex_getElem made different before]
  rfl

/-- Every line of a table shows something and stays on one line, whichever rules are drawn. -/
theorem linesDrawing_shape (layout : TableLayout) {content : Node → String} (width : Nat → Nat)
    (drawn : Node → Nat → Bool) (one : ∀ cell, Text.OneLine (content cell)) :
    ∀ line ∈ layout.linesDrawing content width drawn, line ≠ "" ∧ Text.OneLine line := by
  intro line inside
  rcases List.mem_append.mp inside with inHeader | inRows
  · obtain ⟨character, notNewline, rfl⟩ := headerLines_shape layout width line inHeader
    rw [← runLine_eq]
    exact ⟨Text.runLine_ne_empty _ _, Text.oneLine_runLine notNewline _⟩
  · obtain ⟨entry, _, inRow⟩ := List.mem_flatMap.mp inRows
    rcases rowLines_shape layout width (drawn entry.1 entry.2) entry.1 one with
      none | ⟨only, some, oneLine, shows⟩
    · rw [none] at inRow
      cases inRow
    · rw [some] at inRow
      obtain rfl := List.mem_singleton.mp inRow
      exact ⟨shows, oneLine⟩

/-- Every line of a table by position shows something and stays on one line. -/
theorem positionedLines_shape (layout : TableLayout) {content : Node → String} (width : Nat → Nat)
    (one : ∀ cell, Text.OneLine (content cell)) :
    ∀ line ∈ layout.positionedLines content width, line ≠ "" ∧ Text.OneLine line :=
  layout.linesDrawing_shape width (fun _ index => index == 1) one

end TableLayout

namespace Markup

/-- From any memory, the answers to a table's questions are what is remembered for its columns, and
their own widths where nothing is. -/
theorem answers_any (table : Nat) (own : Nat → Nat) (cache : WidthCache) :
    Answers table own (fun column => ((cache.turnTo table).stored? column).getD (own column))
      fun current => ∀ column, ((current.turnTo table).stored? column).getD (own column) =
        ((cache.turnTo table).stored? column).getD (own column) where
  answer := fun _ known => known
  turn := by
    intro current known column
    rw [WidthCache.turnTo_turnTo]
    exact known column
  store := by
    intro current column known about nothing other
    have here : current.turnTo table = current := by rw [WidthCache.turnTo, if_pos about]
    have stays : (current.store column (own column)).turnTo table = current.store column (own column) := by
      rw [WidthCache.turnTo, WidthCache.table_store, if_pos about]
    rw [stays, ← known other, here]
    by_cases same : other = column
    · subst same
      rw [WidthCache.stored?_store_self, nothing]
      rfl
    · rw [WidthCache.stored?_store_of_ne _ _ same]

/-- A visit of a table of inline cells writes its lines in every state, with some widths. -/
theorem run_inlineTable (options : Options) (attributes : Attributes) (key : Nat) {rows : List Node}
    {layout : TableLayout} (made : TableLayout.ofRows rows = .ok layout)
    (inline : ∀ row ∈ rows, row.hasInlineCells = true) (around : Option Surroundings) (state : State) :
    ∃ width after,
      ((Node.table attributes key rows).writer (tableWriter .remembering) options around).run state =
        .ok (layout.tablePieces Node.cellContent width) after := by
  have answers := answers_any key (layout.ownWidth rows Node.cellContent) state.widths
  have visited : Agree _ _
      ((Node.table attributes key rows).writer (tableWriter .remembering) options around) _ :=
    agree_inlineTable made inline answers around
  obtain ⟨after, run, -⟩ := visited.gives fun _ => rfl
  exact ⟨_, after, run⟩

end Markup

/-- A visit of a table of inline cells whose rows are different objects succeeds in every state. It
writes nothing for a table without columns; else it writes the table's lines, each with a line feed
after it: the two of a dummy header when there is at most one row of content, and then for each
exported row the rule if it is a rule and the second exported row, nothing if it is another rule or has
no cells, and else its cells padded to the widths that are remembered for their columns, or to their
own widths where none is. Every line shows something and has no line feed inside. -/
theorem visit_writes_lines (options : Options) (attributes : Attributes) (key : Nat) {rows : List Node}
    (inline : ∀ row ∈ rows, row.isInlineRow = true) (different : TableLayout.DifferentRows rows)
    (around : Option Surroundings) (state : State) :
    ∃ layout after, TableLayout.ofRows rows = .ok layout ∧
      ((Node.table attributes key rows).writer (tableWriter .remembering) options around).run state =
        .ok (if layout.columnCount = 0 then []
          else [.string (String.join ((layout.positionedLines Node.cellContent fun column =>
            ((state.widths.turnTo key).stored? column).getD
              (layout.ownWidth rows Node.cellContent column)).map (· ++ "\n")))]) after ∧
      ∀ line ∈ layout.positionedLines Node.cellContent fun column =>
          ((state.widths.turnTo key).stored? column).getD (layout.ownWidth rows Node.cellContent column),
        line ≠ "" ∧ Text.OneLine line := by
  obtain ⟨layout, made⟩ := TableLayout.ofRows_inline inline
  have cellsInline : ∀ row ∈ rows, row.hasInlineCells = true := fun row inside =>
    (Bool.and_eq_true_iff.mp (inline row inside)).2
  have answers := answers_any key (layout.ownWidth rows Node.cellContent) state.widths
  have visited : Agree _ _
      ((Node.table attributes key rows).writer (tableWriter .remembering) options around) _ :=
    agree_inlineTable made cellsInline answers around
  rcases visited.outcome (State.Alike.refl state) (fun _ => rfl) with
    ⟨pieces, after, _, run, pureRun, -, -⟩ | ⟨_, _, _, _, pureRun⟩
  · obtain ⟨rfl, -⟩ := EStateM.Result.ok.inj pureRun
    refine ⟨layout, after, made, ?_, layout.positionedLines_shape _ oneLine_cellContent⟩
    rw [run, TableLayout.tablePieces, TableLayout.tableLines_eq_positionedLines made different]
  · cases pureRun

/-- Of two rules that differ in nothing but their keys, only the second exported row is drawn. -/
theorem visit_writes_lines_equal_rules :
    let rows : List Node :=
      [.ruleRow {} 1, .ruleRow {} 2, .tableRow {} 3 [.tableCell {} [.code {} (.string "x")]]]
    ∃ layout after, TableLayout.ofRows rows = .ok layout ∧
      ((Node.table {} 0 rows).writer (tableWriter .remembering) {} none).run {} =
        .ok (if layout.columnCount = 0 then []
          else [.string (String.join ((layout.positionedLines Node.cellContent fun column =>
            (((({} : WidthCache).turnTo 0).stored? column).getD
              (layout.ownWidth rows Node.cellContent column))).map (· ++ "\n")))]) after ∧
      ∀ line ∈ layout.positionedLines Node.cellContent fun column =>
          ((({} : WidthCache).turnTo 0).stored? column).getD
            (layout.ownWidth rows Node.cellContent column),
        line ≠ "" ∧ Text.OneLine line := by
  intro rows
  exact visit_writes_lines {} {} 0 (by decide) (by decide) none {}

end OutlineWiki
