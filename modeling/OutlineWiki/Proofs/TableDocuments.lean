import OutlineWiki.Proofs.KeylessText
import OutlineWiki.Proofs.LineBlocks

/-!
# Documents of tables

The text of a document whose blocks are tables tells the lines of each table, since every table with
columns has lines and each of them ends with a border.
-/

namespace OutlineWiki

open Markup

namespace Text

/-- Texts that end in ink do so when they are joined. -/
theorem endsInInk_join {texts : List String} (some : texts ≠ [])
    (each : ∀ text ∈ texts, EndsInInk text) : EndsInInk (String.join texts) := by
  rw [← List.dropLast_concat_getLast some, String.join_append]
  refine EndsInInk.append _ ?_
  simpa using each _ (List.getLast_mem some)

end Text

namespace TableLayout

/-! ## The lines of a table as a block -/

/-- A line of runs ends with a border. -/
theorem endsInInk_alignedRuns (layout : TableLayout) (width : Nat → Nat) (character : Char) :
    Text.EndsInInk (layout.alignedRuns width character) :=
  Text.EndsInInk.append _ ⟨['|'], '|', rfl, by decide⟩

/-- The line of a row ends with a border. -/
theorem endsInInk_rowLines (layout : TableLayout) (content : Node → String) (width : Nat → Nat)
    (drawn : Bool) (row : Node) : ∀ line ∈ layout.rowLines content width drawn row, Text.EndsInInk line := by
  intro line inside
  rw [rowLines_eq] at inside
  split at inside
  · split at inside
    · obtain rfl := List.mem_singleton.mp inside
      exact layout.endsInInk_alignedRuns width '-'
    · cases inside
  · split at inside
    · cases inside
    case isFalse some =>
      obtain rfl := List.mem_singleton.mp inside
      refine Text.endsInInk_join (by simpa [List.mapIdx_eq_nil_iff] using some) fun text isCell => ?_
      obtain ⟨column, _, rfl⟩ := List.mem_mapIdx.mp isCell
      exact Text.EndsInInk.append _ ⟨[' ', '|'], '|', rfl, by decide⟩

/-- A table with columns that has no dummy header exports a row of content. -/
theorem exists_content_of_columns {rows : List Node} {layout : TableLayout}
    (made : ofRows rows = .ok layout) (columns : layout.columnCount ≠ 0) (headed : ¬ layout.rowCount ≤ 1) :
    ∃ row ∈ layout.rows, row.isRule = false ∧ layout.cells row ≠ [] := by
  rw [columnCount_eq made] at columns
  rw [rowCount_eq made] at headed
  cases content : layout.rows.filter fun row => !row.isRule with
  | nil => simp [content] at headed
  | cons shape others =>
    have isShape : shape ∈ layout.rows.filter fun row => !row.isRule := content ▸ List.mem_cons_self
    obtain ⟨exported, isContent⟩ := List.mem_filter.mp isShape
    refine ⟨shape, exported, by simpa using isContent, ?_⟩
    simpa [content] using columns

/-- The lines of a table with columns make a block, whichever rules are drawn. -/
theorem isBlock_linesDrawing {rows : List Node} {layout : TableLayout} (made : ofRows rows = .ok layout)
    (columns : layout.columnCount ≠ 0) (width : Nat → Nat) (drawn : Node → Nat → Bool) :
    Text.IsBlock (layout.linesDrawing Node.cellContent width drawn) where
  some := by
    by_cases headed : layout.rowCount ≤ 1
    · simp [linesDrawing, headerLines, headed]
    · obtain ⟨row, exported, isContent, hasCells⟩ := exists_content_of_columns made columns headed
      obtain ⟨index, found⟩ := List.mem_iff_getElem?.mp exported
      have entry : (row, index) ∈ layout.rows.zipIdx := List.mem_zipIdx_iff_getElem?.mpr found
      intro none
      rw [linesDrawing, List.append_eq_nil_iff, List.flatMap_eq_nil_iff] at none
      have noLine := none.2 _ entry
      rw [rowLines_eq] at noLine
      simp [isContent, hasCells] at noLine
  oneLine := fun line inside => (layout.linesDrawing_shape width drawn oneLine_cellContent line inside).2
  ends := by
    intro line inside
    rcases List.mem_append.mp inside with inHeader | inRows
    · obtain ⟨character, -, rfl⟩ := headerLines_shape layout width line inHeader
      exact layout.endsInInk_alignedRuns width character
    · obtain ⟨entry, _, inRow⟩ := List.mem_flatMap.mp inRows
      exact layout.endsInInk_rowLines Node.cellContent width (drawn entry.1 entry.2) entry.1 line inRow

end TableLayout

/-! ## The text of a document of tables -/

namespace Node

/-- A table of rows with inline cells. -/
def isInlineTable : Node → Bool
  | .table _ _ rows => rows.all isInlineRow
  | _ => false

/-- The lines that a table shows in a document, given how rules are told apart: none without columns. -/
def tableBlock (drawn : TableLayout → Node → Nat → Bool) : Node → List String
  | .table _ _ rows =>
    match TableLayout.ofRows rows with
    | .ok layout =>
      if layout.columnCount = 0 then []
      else layout.linesDrawing cellContent (layout.ownWidth rows cellContent) (drawn layout)
    | .error _ => []
  | _ => []

/-- A table shows nothing, or it has columns and shows its lines. -/
theorem tableBlock_cases (table : Node) :
    (∀ drawn, table.tableBlock drawn = []) ∨
      ∃ rows layout, TableLayout.ofRows rows = .ok layout ∧ layout.columnCount ≠ 0 ∧
        ∀ drawn, table.tableBlock drawn =
          layout.linesDrawing cellContent (layout.ownWidth rows cellContent) (drawn layout) := by
  cases table with
  | table attributes key rows =>
    cases made : TableLayout.ofRows rows with
    | error failure => exact .inl fun drawn => by simp only [tableBlock, made]
    | ok layout =>
      by_cases columns : layout.columnCount = 0
      · exact .inl fun drawn => by simp only [tableBlock, made, if_pos columns]
      · exact .inr ⟨rows, layout, made, columns, fun drawn => by simp only [tableBlock, made, if_neg columns]⟩
  | _ => exact .inl fun _ => rfl

/-- What a table shows is a block, if it shows anything. -/
theorem isBlock_tableBlock (drawn : TableLayout → Node → Nat → Bool) (table : Node)
    (some : table.tableBlock drawn ≠ []) : Text.IsBlock (table.tableBlock drawn) := by
  rcases table.tableBlock_cases with none | ⟨rows, layout, made, columns, shown⟩
  · exact absurd (none drawn) some
  · rw [shown]
    exact TableLayout.isBlock_linesDrawing made columns _ (drawn layout)

/-- Whether a table shows anything does not depend on which rules are drawn. -/
theorem tableBlock_eq_nil_iff (drawn drawnToo : TableLayout → Node → Nat → Bool) (table : Node) :
    table.tableBlock drawn = [] ↔ table.tableBlock drawnToo = [] := by
  rcases table.tableBlock_cases with none | ⟨rows, layout, made, columns, shown⟩
  · rw [none, none]
  · have isBlock := TableLayout.isBlock_linesDrawing made columns (layout.ownWidth rows cellContent)
    rw [shown, shown]
    exact iff_of_false (isBlock (drawn layout)).some (isBlock (drawnToo layout)).some

end Node

namespace Markup

/-- A writer of lines, with a line feed after each, makes a block of them. -/
theorem block_lines {writer : Writer} {around : Option Surroundings} {lines : List String}
    (written : writer around = pure [.string (String.join (lines.map (· ++ "\n")))])
    (isBlock : Text.IsBlock lines) : block writer around = pure ("\n".intercalate lines) := by
  have ends := Text.endsInInk_intercalate "\n" isBlock.some isBlock.ends
  have joined : settle (joinPieces [.string (String.join (lines.map (· ++ "\n")))]) =
      pure ("\n".intercalate lines ++ "\n") := by
    rw [Text.join_lines isBlock.some]
    simp [joinPieces, stringsOf, Except.map, settle]
  simp only [block, capture, inSequence, written, pure_bind, List.append_nil, joined,
    ends.stripNewlinesEnd]

/-- A writer of nothing makes an empty block. -/
theorem block_nothing {writer : Writer} {around : Option Surroundings} (written : writer around = pure []) :
    block writer around = pure "" := by
  simp only [block, capture, inSequence, written, pure_bind, List.append_nil]
  rfl

/-- A table that is written without any memory makes the block of its lines. -/
theorem block_drawingTable (options : Options) (drawn : TableLayout → Node → Nat → Bool) {table : Node}
    (inline : table.isInlineTable = true) :
    block (table.writer (drawingTable drawn) options) none =
      pure ("\n".intercalate (table.tableBlock drawn)) := by
  cases table with
  | table attributes key rows =>
    obtain ⟨layout, made⟩ := TableLayout.ofRows_inline (List.all_eq_true.mp inline)
    have written : (Node.table attributes key rows).writer (drawingTable drawn) options none =
        pure (layout.drawnPieces Node.cellContent (layout.ownWidth rows Node.cellContent)
          (drawn layout)) := by
      simp only [Node.writer, drawingTable, made, settle, pure_bind]
    rw [TableLayout.drawnPieces] at written
    by_cases columns : layout.columnCount = 0
    · rw [if_pos columns] at written
      simp only [Node.tableBlock, made, if_pos columns]
      exact block_nothing written
    · rw [if_neg columns] at written
      simp only [Node.tableBlock, made, if_neg columns]
      exact block_lines written (TableLayout.isBlock_linesDrawing made columns _ _)
  | _ => cases inline

end Markup

/-- A document of tables that are written without any memory is rendered as their blocks. -/
theorem renderedBy_drawingTable (options : Options) (drawn : TableLayout → Node → Nat → Bool)
    (attributes : Attributes) {tables : List Node} (inline : ∀ table ∈ tables, table.isInlineTable = true) :
    renderedBy (drawingTable drawn) options (.document attributes tables) =
      .ok (finishText (joinBlocks (tables.map fun table => "\n".intercalate (table.tableBlock drawn)))) := by
  have texts : blocks (Node.writers (drawingTable drawn) options tables) none =
      pure (tables.map fun table => "\n".intercalate (table.tableBlock drawn)) := by
    induction tables with
    | nil => rfl
    | cons table rest inductionHypothesis =>
      simp only [Node.writers, blocks, block_drawingTable options drawn (inline table List.mem_cons_self),
        pure_bind, inductionHypothesis fun later inside => inline later (List.mem_cons_of_mem table inside)]
      rfl
  have whole : renderTree (drawingTable drawn) options (.document attributes tables) =
      pure (finishText (joinBlocks (tables.map fun table => "\n".intercalate (table.tableBlock drawn)))) := by
    simp only [renderTree, Node.writer, documentWriter, capture, inSequence, texts, pure_bind]
    simp [joinPieces, stringsOf, Except.map, settle]
  rw [renderedBy, whole]
  rfl

/-- Two ways to draw rules give a document of tables the same text exactly when they give each table the
same lines. -/
theorem renderedBy_drawingTable_inj (options : Options) {drawn drawnToo : TableLayout → Node → Nat → Bool}
    (attributes : Attributes) {tables : List Node} (inline : ∀ table ∈ tables, table.isInlineTable = true) :
    renderedBy (drawingTable drawn) options (.document attributes tables) =
        renderedBy (drawingTable drawnToo) options (.document attributes tables) ↔
      ∀ table ∈ tables, table.tableBlock drawn = table.tableBlock drawnToo := by
  rw [renderedBy_drawingTable options drawn attributes inline,
    renderedBy_drawingTable options drawnToo attributes inline, Except.ok.injEq]
  constructor
  · intro same
    have asBlocks : ∀ drawn : TableLayout → Node → Nat → Bool,
        (tables.map fun table => "\n".intercalate (table.tableBlock drawn)) =
          (tables.map (Node.tableBlock drawn)).map fun lines => "\n".intercalate lines := by
      intro drawn
      rw [List.map_map]
      rfl
    have areBlocks : ∀ drawn : TableLayout → Node → Nat → Bool,
        ∀ block ∈ tables.map (Node.tableBlock drawn), block ≠ [] → Text.IsBlock block := by
      intro drawn block inside some
      obtain ⟨table, _, rfl⟩ := List.mem_map.mp inside
      exact table.isBlock_tableBlock drawn some
    rw [asBlocks, asBlocks] at same
    have shown := finishText_joinBlocks_inj (areBlocks drawn) (areBlocks drawnToo) same
    -- The same tables show something on both sides, so that each block meets its own.
    have sameTables : tables.filter ((fun block => decide (block ≠ [])) ∘ Node.tableBlock drawnToo) =
        tables.filter ((fun block => decide (block ≠ [])) ∘ Node.tableBlock drawn) := by
      refine List.filter_congr fun table _ => ?_
      simp [table.tableBlock_eq_nil_iff drawn drawnToo]
    rw [List.filter_map, List.filter_map, sameTables, List.map_inj_left] at shown
    intro table inside
    by_cases none : table.tableBlock drawn = []
    · rw [none, (table.tableBlock_eq_nil_iff drawn drawnToo).mp none]
    · exact shown table (List.mem_filter.mpr ⟨inside, by simpa using none⟩)
  · intro same
    rw [List.map_congr_left fun table inside => by rw [same table inside]]

end OutlineWiki
