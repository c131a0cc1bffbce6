import OutlineWiki.Proofs.LayoutsMade
import OutlineWiki.Proofs.StrayRows
import OutlineWiki.Proofs.Widths

/-!
# The ink that a rendering keeps

Every text and inline code of a well-formed tree is written, its characters in order, unless it stands
in a row or a column that its table does not export. Each mark keeps the ink of what it encloses, each
writer keeps that of its parts, and by induction a tree keeps that of its texts.
-/

namespace OutlineWiki

open Markup

namespace Node

mutual

/-- The ink of the texts and inline codes of a tree, of a table only those in cells that it exports. -/
def keptInk : Node → List Char
  | .text _ content | .code _ content => Text.ink content.shown
  | .table _ _ rows =>
    match TableLayout.ofRows rows with
    | .ok layout =>
      if layout.columnCount = 0 then [] else (exportedCells layout (cellInks rows)).flatten.flatten
    | .error _ => []
  | .document _ children | .blockQuote _ children | .listItem _ children => (keptInks children).flatten
  | .heading _ _ content | .paragraph _ content | .tableCell _ content | .styled _ _ content
  | .link _ _ content => (keptInks content).flatten
  | .list _ _ _ items => (keptInks items).flatten
  | .tableRow _ _ cells => (keptInks cells).flatten
  | .codeBlock .. | .ruleRow .. | .thematicBreak .. | .image .. | .lineBreak .. => []

/-- The ink of each of several trees. -/
def keptInks : List Node → List (List Char)
  | [] => []
  | node :: rest => keptInk node :: keptInks rest

/-- The ink of the cells of each row. -/
def cellInks : List Node → List (List (List Char))
  | [] => []
  | .tableRow _ _ cells :: rest => keptInks cells :: cellInks rest
  | _ :: rest => [] :: cellInks rest

end

/-- The ink of several trees, one after the other. -/
theorem keptInks_eq_map (nodes : List Node) : keptInks nodes = nodes.map keptInk := by
  induction nodes with
  | nil => rfl
  | cons node rest inductionHypothesis => rw [keptInks, inductionHypothesis, List.map_cons]

/-- The ink of the cells of each row, by cells. -/
theorem cellInks_eq_map (rows : List Node) :
    cellInks rows = rows.map fun row => (row.columnCells false).map keptInk := by
  induction rows with
  | nil => rfl
  | cons row rest inductionHypothesis =>
    rw [List.map_cons, ← inductionHypothesis]
    cases row <;> simp [cellInks, columnCells, keptInks_eq_map]

/-- A node that holds no text and is no table keeps the ink of its children. -/
theorem keptInk_of_children {node : Node} (noText : node.ownText? = none) (noTable : node.tableKey? = none) :
    node.keptInk = node.children.flatMap keptInk := by
  cases node with
  | text | code => cases noText
  | table => cases noTable
  | _ => simp [keptInk, keptInks_eq_map, children, List.flatMap_def]

/-- A table keeps the ink of the cells that it exports, row by row. -/
theorem keptInk_table {attributes : Attributes} {key : Nat} {rows : List Node} {layout : TableLayout}
    (made : TableLayout.ofRows rows = .ok layout) :
    (Node.table attributes key rows).keptInk =
      if layout.columnCount = 0 then []
      else layout.rows.flatMap fun row => (layout.cells row).flatMap keptInk := by
  obtain ⟨-, -, exported, -⟩ := TableLayout.of_ofRows made
  rw [keptInk, made]
  show (if layout.columnCount = 0 then [] else _) = _
  rw [cellInks_eq_map, exportedCells_map exported, List.flatten_flatten, List.map_map]
  rfl

/-- Declared values hold strings where plain text is read. -/
theorem hasStringText_of_declared {node : Node} (declared : node.hasDeclaredValues = true) :
    node.hasStringText = true := by
  cases node with
  | text attributes content | code attributes content =>
    cases content with
    | string value => rfl
    | _ => cases declared
  | _ => rfl

/-- The texts of a well-formed tree are strings. -/
theorem WellFormed.strings {node : Node} (wellFormed : node.WellFormed) :
    node.Everywhere (·.hasStringText = true) :=
  fun inner within => hasStringText_of_declared (wellFormed inner within).1

/-- The children of a row of a well-formed tree are cells. -/
theorem WellFormed.isCell_of_row {row : Node} (wellFormed : row.WellFormed) (isRow : row.rowKey?.isSome) :
    ∀ cell ∈ row.children, cell.isCell = true := by
  obtain ⟨-, holds, -⟩ := wellFormed row (.self row)
  cases row with
  | tableRow => exact List.all_eq_true.mp holds
  | ruleRow => exact fun cell inside => nomatch inside
  | _ => cases isRow

/-- The rows of a table of a well-formed tree can be read. -/
theorem WellFormed.isReadableRow {row : Node} (wellFormed : row.WellFormed) (isRow : row.rowKey?.isSome) :
    row.IsReadableRow := by
  refine ⟨isRow, fun cell inside => ?_⟩
  have isCell := wellFormed.isCell_of_row isRow cell inside
  have strings := (wellFormed.child inside).strings
  cases cell with
  | tableCell => exact ⟨_, cellText_strings strings⟩
  | _ => cases isCell

/-- A table of a well-formed tree has a layout. -/
theorem WellFormed.ofRows_ok {attributes : Attributes} {key : Nat} {rows : List Node}
    (wellFormed : (Node.table attributes key rows).WellFormed) :
    ∃ layout, TableLayout.ofRows rows = .ok layout := by
  obtain ⟨-, holds, -⟩ := wellFormed _ (.self _)
  exact TableLayout.ofRows_ok fun row inside =>
    (wellFormed.child inside).isReadableRow (List.all_eq_true.mp holds row inside)

end Node

namespace Markup

/-! ## Marks keep the ink of what they enclose -/

/-- What stands between other texts keeps its ink. -/
theorem ink_sublist_between (before text after : String) :
    (Text.ink text).Sublist (Text.ink (before ++ text ++ after)) := by
  rw [Text.ink_append, Text.ink_append]
  exact (List.sublist_append_right _ _).trans (List.sublist_append_left _ _)

/-- What stands behind another text keeps its ink. -/
theorem ink_sublist_behind (before text : String) :
    (Text.ink text).Sublist (Text.ink (before ++ text)) := by
  rw [Text.ink_append]
  exact List.sublist_append_right _ _

/-- A link shows its text, or an address that is its text. -/
theorem ink_linkText (url : Json) (content : String) :
    (Text.ink content).Sublist (Text.ink (linkText url content)) := by
  have whole : ∀ (text : String) (same : Bool), (same = true → text = url.shown) →
      (Text.ink text).Sublist (Text.ink
        (if text == "" || same then "[" ++ url.shown ++ "]" else "[" ++ url.shown ++ " " ++ text ++ "]")) := by
    intro text same isAddress
    split
    case isTrue short =>
      rcases Bool.or_eq_true_iff.mp short with empty | same
      · rw [eq_of_beq empty]
        exact List.nil_sublist _
      · rw [isAddress same]
        exact ink_sublist_between "[" url.shown "]"
    case isFalse => exact ink_sublist_between _ text "]"
  rw [← Text.ink_strip content]
  refine whole _ _ fun same => ?_
  cases url with
  | string address => exact eq_of_beq same
  | _ => cases same

/-- A paragraph shows its text, on one line or on several. -/
@[simp] theorem ink_reflow (options : Options) (content : String) :
    Text.ink (reflow options content) = Text.ink content := by
  unfold reflow
  split <;> simp

/-- A text that is escaped shows at least itself. -/
theorem ink_escapeHash (content : String) :
    (Text.ink content).Sublist (Text.ink (escapeHash content)) := by
  unfold escapeHash
  split
  · exact ink_sublist_behind "!" content
  · exact .refl _

/-- A finished text shows what the text shows. -/
theorem ink_finishText (text : String) : Text.ink (finishText text) = Text.ink text := by
  rw [finishText, Text.ink_append, Text.ink_stripEnd]
  exact List.append_nil _

/-- Blocks show what each of them shows. -/
theorem ink_joinBlocks (texts : List String) : Text.ink (joinBlocks texts) = texts.flatMap Text.ink := by
  rw [joinBlocks, Text.ink_intercalate (by decide)]
  exact Text.flatMap_ink_filter fun text _ inkless => Text.hasInk_eq_false_iff.mp inkless

/-- What is found in each item is found in all. -/
theorem flatMap_sublist {Item : Type} {items : List Item} {first second : Item → List Char}
    (each : ∀ item ∈ items, (first item).Sublist (second item)) :
    (items.flatMap first).Sublist (items.flatMap second) := by
  induction items with
  | nil => exact .refl _
  | cons item rest inductionHypothesis =>
    rw [List.flatMap_cons, List.flatMap_cons]
    exact (each item List.mem_cons_self).append
      (inductionHypothesis fun later inside => each later (List.mem_cons_of_mem item inside))

/-- Quoted lines show what the lines show. -/
theorem ink_quoteLines (text : String) : (Text.ink text).Sublist (Text.ink (quoteLines text)) := by
  rw [quoteLines, Text.ink_intercalate (by decide), List.flatMap_map, ← Text.ink_lines text]
  refine flatMap_sublist fun line _ => ?_
  split
  case isTrue => exact ink_sublist_behind "> " line
  case isFalse blank =>
    rw [Text.hasInk_eq_false_iff.mp (by simpa using blank)]
    exact List.nil_sublist _

/-- The line of an item shows the item's text. -/
theorem ink_itemLine (level : Nat) (number : Json) (text : String) :
    (Text.ink text).Sublist (Text.ink (itemLine level number text)) := by
  rw [itemLine, Text.ink_append, Text.ink_stripEnd]
  exact (ink_sublist_behind _ text).trans (List.sublist_append_left _ _)

/-- A box shows the content of its cell. -/
theorem ink_cellBox (opensGroup : Bool) (content : String) (width : Nat) :
    (Text.ink content).Sublist (Text.ink (cellBox opensGroup content width)) := by
  rw [cellBox, Text.padToWidth]
  refine List.Sublist.trans ?_ (ink_sublist_between _ _ " ||")
  rw [Text.ink_append]
  exact List.sublist_append_left _ _

/-! ## Tables -/

variable {form : TableForm} {options : Options} {around : Surroundings}

/-- A cell never fails and shows its texts, whatever stands around it. -/
def Settled (form : TableForm) (options : Options) (cell : Node) : Prop :=
  ∀ around, Gives (Shows cell.keptInk) (cell.writer form options around)

/-- Every question for a width is answered. -/
def Answered (around : Surroundings) : Prop :=
  ∀ column, Gives (fun _ => True) (around.width column)

/-- A column of settled cells can be measured. -/
theorem gives_measureColumn {rows : List (List Node)}
    (settled : ∀ cells ∈ rows, ∀ cell ∈ cells, Settled form options cell) (column : Nat)
    (around : Option Surroundings) :
    Gives (fun _ => True) (measureColumn column around (rows.map (Node.writers form options))) := by
  induction rows with
  | nil => exact Gives.pure trivial
  | cons cells rest inductionHypothesis =>
    have later := inductionHypothesis fun others inside => settled others (List.mem_cons_of_mem cells inside)
    rw [List.map_cons, measureColumn, writers_eq_map, List.getElem?_map]
    cases found : cells[column]? with
    | none =>
      simp only [Option.map_none, pure_bind]
      exact later.andThen fun _ _ => Gives.pure trivial
    | some cell =>
      have isCell := settled cells List.mem_cons_self cell (List.mem_of_getElem? found) around
      have measured : Gives (fun _ => True)
          (Text.displayWidth <$> capture [cell.writer form options] around) :=
        isCell.captureOne.map fun _ _ => trivial
      exact measured.andThen fun _ _ => later.andThen fun _ _ => Gives.pure trivial

/-- The memory answers a question, if the column can be measured. -/
theorem gives_remembering {measure : Render Nat} (measured : Gives (fun _ => True) measure) (table column : Nat)
    (cookie? : Option Nat) :
    Gives (fun _ => True) (WidthFinder.remembering table cookie? column measure) := by
  refine Gives.of_run fun state => ?_
  have found : ∃ width after,
      (cookieOrMeasure cookie? measure).run (state.turned table) = .ok width after := by
    cases cookie? with
    | some width => exact ⟨width, _, rfl⟩
    | none =>
      obtain ⟨width, after, run, -⟩ := measured.gives not_false (state.turned table)
      exact ⟨width, after, run⟩
  rw [run_remembering]
  split
  · exact ⟨_, _, rfl, trivial⟩
  · obtain ⟨width, after, run⟩ := found
    rw [run]
    exact ⟨_, _, rfl, trivial⟩

/-- Inside a table of settled cells every question is answered: no cell asks for the width of the column
that is being measured, so the bound on nested questions is not met. -/
theorem answered_surroundings {rows : List (List Node)}
    (settled : ∀ cells ∈ rows, ∀ cell ∈ cells, Settled form options cell) (key : Nat)
    (layout : TableLayout) (bound : Nat) :
    Answered (surroundings .remembering key layout (rows.map (Node.writers form options)) (bound + 1)) :=
  fun column => gives_remembering (gives_measureColumn settled column _) key column _

/-- The widths of columns are found. -/
theorem gives_columnWidthsFrom (answered : Answered around) (first count : Nat) :
    Gives (fun _ => True) (columnWidthsFrom around first count) := by
  induction count generalizing first with
  | zero => exact Gives.pure trivial
  | succ count inductionHypothesis =>
    exact (answered first).andThen fun _ _ =>
      (inductionHypothesis (first + 1)).andThen fun _ _ => Gives.pure trivial

/-- The dummy header is written. -/
theorem gives_dummyHeader (answered : Answered around) : Gives (fun _ => True) (dummyHeader around) := by
  unfold dummyHeader
  split
  · exact (gives_columnWidthsFrom answered 0 _).andThen fun _ _ => Gives.pure trivial
  · exact Gives.pure trivial

/-- Settled cells are written side by side, each in its box. -/
theorem gives_writeCells (answered : Answered around) {cells : List Node}
    (settled : ∀ cell ∈ cells, Settled form options cell) (column : Nat) :
    Gives (Shows (cells.flatMap Node.keptInk))
      (writeCells around column (Node.writers form options cells)) := by
  induction cells generalizing column with
  | nil =>
    rw [Node.writers]
    exact Gives.pure Shows.nil
  | cons cell rest inductionHypothesis =>
    have later := inductionHypothesis (fun other inside => settled other (List.mem_cons_of_mem cell inside))
      (column + 1)
    rw [Node.writers]
    refine (settled cell List.mem_cons_self (some around)).captureOne.andThen fun content shown =>
      (answered column).andThen fun width _ => later.andThen fun boxes restShown => Gives.pure ?_
    exact (Shows.single (shown.trans (ink_cellBox _ content width))).append restShown

/-- An exported row is written and shows its cells by column; a rule has a position and shows nothing. -/
theorem gives_exportedRow (answered : Answered around) {row : Node} (isRow : row.rowKey?.isSome)
    (inside : row ∈ around.layout.rows)
    (settled : ∀ cell ∈ around.layout.cells row, Settled form options cell) :
    Gives (Shows ((around.layout.cells row).flatMap Node.keptInk))
      (row.writer form options (some around)) := by
  cases row with
  | tableRow attributes key cells =>
    rw [writer_tableRow]
    exact gives_writeCells answered settled 0
  | ruleRow attributes key =>
    obtain ⟨index, position⟩ := TableLayout.rowIndex_of_mem inside
    simp only [Node.writer, ruleWriter, position, settle, pure_bind]
    show Gives (Shows []) _
    split
    · refine (gives_columnWidthsFrom answered 0 _).andThen fun widths _ => Gives.pure ?_
      exact Shows.single (List.nil_sublist _)
    · exact Gives.pure Shows.nil
  | _ => cases isRow

/-- A table of settled cells is written and shows the cells that it exports. -/
theorem gives_tableWriter {attributes : Attributes} {key : Nat} {rows : List Node} {layout : TableLayout}
    (made : TableLayout.ofRows rows = .ok layout)
    (settled : ∀ row ∈ rows, ∀ cell ∈ row.children, Settled (tableWriter .remembering) options cell)
    (around : Option Surroundings) :
    Gives (Shows (Node.table attributes key rows).keptInk)
      ((Node.table attributes key rows).writer (tableWriter .remembering) options around) := by
  obtain ⟨-, -, exported, -⟩ := TableLayout.of_ofRows made
  have cellsSettled : ∀ row ∈ layout.rows, ∀ cell ∈ layout.cells row,
      Settled (tableWriter .remembering) options cell := fun row inside cell isCell =>
    settled row ((TableLayout.rows_sublist made).subset inside) cell (Node.columnCells_subset _ row isCell)
  have grid : exportedCells layout (Node.cellWriters (tableWriter .remembering) options rows) =
      (layout.rows.map layout.cells).map (Node.writers (tableWriter .remembering) options) := by
    rw [exportedCells_eq exported, List.map_map]
    rfl
  simp only [Node.writer, tableWriter, made, settle, pure_bind, exported_writers _ options made, grid]
  refine (Gives.modify _).andThen fun _ _ => ?_
  rw [Node.keptInk_table made]
  split
  · exact Gives.pure Shows.nil
  · have gridSettled : ∀ cells ∈ layout.rows.map layout.cells, ∀ cell ∈ cells,
        Settled (tableWriter .remembering) options cell := by
      rintro cells inside
      obtain ⟨row, isRow, rfl⟩ := List.mem_map.mp inside
      exact cellsSettled row isRow
    have answered := answered_surroundings gridSettled key layout
      ((((layout.rows.map layout.cells).map
        (Node.writers (tableWriter .remembering) options)).map List.length).foldl max 0)
    have sameLayout : (surroundings .remembering key layout ((layout.rows.map layout.cells).map
        (Node.writers (tableWriter .remembering) options)) (questionBound
          ((layout.rows.map layout.cells).map (Node.writers (tableWriter .remembering) options)))).layout =
        layout := rfl
    rw [← questionBound] at answered
    generalize surroundings _ key layout _ _ = inside at answered sameLayout ⊢
    subst sameLayout
    have isRow := isRow_of_ofRows made
    have lines : FailsIff (∃ row ∈ inside.layout.rows, False) _
        (blocks (inside.layout.rows.map (Node.writer (tableWriter .remembering) options)) (some inside)) :=
      failsIff_blocks fun row inRows =>
        gives_exportedRow answered (isRow row inRows) inRows (cellsSettled row inRows)
    refine (gives_dummyHeader answered).andThen fun header _ =>
      (lines.weaken (by simp) fun _ shown => shown).andThen fun texts shown => Gives.pure (.single ?_)
    rw [Text.ink_dropEmptyLines, Text.ink_join, List.flatMap_append, List.flatMap_map]
    refine (shown.trans (flatMap_sublist fun line _ => ?_)).trans (List.sublist_append_right _ _)
    rw [Text.ink_append]
    exact List.sublist_append_left _ _

/-! ## Nodes -/

variable {outer : Option Surroundings}

/-- A node fails exactly when it holds a stray row, and else shows its texts. -/
def FailsAsStray (options : Options) (around : Option Surroundings) (node : Node) : Prop :=
  FailsIff (node.hasStrayRow = true) (Shows node.keptInk)
    (node.writer (tableWriter .remembering) options around)

/-- Nodes in sequence fail exactly when one of them holds a stray row. -/
theorem failsIff_writers {nodes : List Node} (each : ∀ node ∈ nodes, FailsAsStray options outer node) :
    FailsIff (Node.anyStrayRow nodes = true) (Shows (nodes.flatMap Node.keptInk))
      (inSequence (Node.writers (tableWriter .remembering) options nodes) outer) := by
  rw [writers_eq_map]
  exact (failsIff_inSequence each).weaken Node.anyStrayRow_iff.symm fun _ shown => shown

/-- The blocks of nodes fail exactly when one of them holds a stray row. -/
theorem failsIff_nodeBlocks {nodes : List Node} (each : ∀ node ∈ nodes, FailsAsStray options outer node) :
    FailsIff (Node.anyStrayRow nodes = true)
      (fun texts => (nodes.flatMap Node.keptInk).Sublist (texts.flatMap Text.ink))
      (blocks (Node.writers (tableWriter .remembering) options nodes) outer) := by
  rw [writers_eq_map]
  exact (failsIff_blocks each).weaken Node.anyStrayRow_iff.symm fun _ shown => shown

/-- A child on a line of its own fails and shows as it does otherwise. -/
theorem FailsIff.line {stray : Prop} {kept : List Char} {writer : Writer}
    (known : FailsIff stray (Shows kept) (writer outer)) :
    FailsIff stray (Shows kept) (lineWriter writer outer) := by
  refine known.block.andThen fun text shown => Gives.pure (.single ?_)
  rw [Text.ink_append]
  exact shown.trans (List.sublist_append_left _ _)

/-- The children of an item fail exactly when one of them holds a stray row. -/
theorem failsIff_itemWriters {nodes : List Node} (each : ∀ node ∈ nodes, FailsAsStray options outer node) :
    FailsIff (Node.anyStrayRow nodes = true) (Shows (nodes.flatMap Node.keptInk))
      (inSequence (Node.itemWriters (tableWriter .remembering) options nodes) outer) := by
  rw [itemWriters_eq_map]
  refine (failsIff_inSequence fun node inside => ?_).weaken Node.anyStrayRow_iff.symm fun _ shown => shown
  have known := each node inside
  cases node with
  | list => exact known
  | _ => exact FailsIff.line known

/-- A node that is no row, no table and no text fails and shows as its children do. -/
theorem failsAsStray_of_children {node : Node} (noRow : node.rowKey? = none)
    (noTable : node.tableKey? = none) (noText : node.ownText? = none)
    (children : FailsIff (Node.anyStrayRow node.children = true) (Shows (node.children.flatMap Node.keptInk))
      (node.writer (tableWriter .remembering) options outer)) : FailsAsStray options outer node := by
  unfold FailsAsStray
  rwa [Node.hasStrayRow_of_children noRow noTable, Node.keptInk_of_children noText noTable]

/-- A node that makes one text of what its children write fails and shows as they do, if no character of it
that is not blank is lost. -/
theorem failsAsStray_of_text {node : Node} (change : String → String) (noRow : node.rowKey? = none)
    (noTable : node.tableKey? = none) (noText : node.ownText? = none)
    (each : ∀ child ∈ node.children, FailsAsStray options outer child)
    (written : node.writer (tableWriter .remembering) options outer =
      capture (Node.writers (tableWriter .remembering) options node.children) outer >>= fun text =>
        pure [.string (change text)])
    (keeps : ∀ text, (Text.ink text).Sublist (Text.ink (change text))) : FailsAsStray options outer node := by
  refine failsAsStray_of_children noRow noTable noText ?_
  rw [written]
  exact (failsIff_writers each).capture.andThen fun text shown => Gives.pure (.single (shown.trans (keeps text)))

/-- A node without stray rows has to be written and to show its texts. -/
theorem failsAsStray_of_gives {node : Node} (clear : node.hasStrayRow = false)
    (known : Gives (Shows node.keptInk) (node.writer (tableWriter .remembering) options outer)) :
    FailsAsStray options outer node :=
  FailsIff.weaken known (by simp [clear]) fun _ shown => shown

/-- An item fails exactly when one of its children holds a stray row. The content of a leading paragraph
is written by the item. -/
theorem failsIff_listItem {attributes : Attributes} {children : List Node}
    (each : ∀ child ∈ children, FailsAsStray options outer child)
    (leading : ∀ attributes content, .paragraph attributes content ∈ children →
      ∀ inner ∈ content, FailsAsStray options outer inner) :
    FailsAsStray options outer (.listItem attributes children) := by
  have item : ∀ {stray strayLater : Prop} {kept more : List Char} {texts others : List Writer},
      FailsIff stray (Shows kept) (inSequence texts outer) →
      FailsIff strayLater (Shows more) (inSequence others outer) →
        FailsIff (stray ∨ strayLater) (Shows (kept ++ more)) (itemWriter options texts others outer) := by
    intro stray strayLater kept more texts others first rest
    have number : Gives (fun _ => True) takeNumber :=
      .of_run fun state => ⟨_, _, run_takeNumber state, trivial⟩
    unfold itemWriter
    refine Gives.look.andThen fun state _ => number.andThen fun taken _ =>
      first.capture.bind fun text shown => rest.andThen fun pieces restShown =>
        Gives.pure (Shows.append (.single ?_) restShown)
    rw [← ink_reflow options text] at shown
    exact shown.trans (ink_itemLine _ taken _)
  have whole : FailsIff (Node.anyStrayRow children = true) (Shows (children.flatMap Node.keptInk))
      (itemWriter options [] (Node.itemWriters (tableWriter .remembering) options children) outer) :=
    (item (Gives.pure Shows.nil) (failsIff_itemWriters each)).weaken (or_iff_right id) fun _ shown => shown
  refine failsAsStray_of_children rfl rfl rfl ?_
  cases children with
  | nil =>
    simp only [Node.writer]
    exact whole
  | cons first others =>
    cases first with
    | paragraph paragraphAttributes content =>
      have text := failsIff_writers (leading paragraphAttributes content List.mem_cons_self)
      have rest := failsIff_itemWriters fun child inside => each child (List.mem_cons_of_mem _ inside)
      have paragraphKept : (Node.paragraph paragraphAttributes content).keptInk =
          content.flatMap Node.keptInk := Node.keptInk_of_children rfl rfl
      simp only [Node.writer, Node.children, Node.anyStrayRow, Node.hasStrayRow, Bool.or_eq_true,
        List.flatMap_cons, paragraphKept]
      exact item text rest
    | _ =>
      simp only [Node.writer]
      exact whole

/-- A list fails and shows as its items do. -/
theorem failsIff_list {attributes : Attributes} {ordered start : Json} {items : List Node}
    (each : ∀ item ∈ items, FailsAsStray options outer item) :
    FailsAsStray options outer (.list attributes ordered start items) := by
  refine failsAsStray_of_children rfl rfl rfl ?_
  simp only [Node.writer, listWriter]
  exact (Gives.modify _).andThen fun _ _ => (failsIff_writers each).andThen fun pieces shown =>
    (Gives.modify _).andThen fun _ _ => Gives.pure shown

/-- A level of the declared type has a mark. -/
theorem headingMark_ok {attributes : Attributes} {level : Json} {content : List Node}
    (declared : (Node.heading attributes level content).hasDeclaredValues = true) :
    ∃ mark, headingMark level = .ok mark := by
  cases level with
  | int | bool => exact ⟨_, rfl⟩
  | _ => cases declared

/-- A code block whose values have the declared types is written between fences. -/
theorem codeBlockText_ok (options : Options) {attributes : Attributes} {content language : Json}
    (declared : (Node.codeBlock attributes content language).hasDeclaredValues = true) :
    ∃ text, codeBlockText options content language = .ok text := by
  have inside : ∀ code, ∃ lines, codeLines (.string code) = .ok lines := by
    intro code
    unfold codeLines
    split <;> exact ⟨_, rfl⟩
  have opening : ∀ name, ∃ line, fence options (.string name) = .ok line := by
    intro name
    unfold fence
    split <;> exact ⟨_, rfl⟩
  have closed : ∀ line lines, fence options language = .ok line → codeLines content = .ok lines →
      ∃ text, codeBlockText options content language = .ok text := by
    intro line lines opened code
    rw [codeBlockText, opened, code]
    exact ⟨_, rfl⟩
  cases content with
  | string code =>
    obtain ⟨lines, code_read⟩ := inside code
    cases language with
    | string name =>
      obtain ⟨line, opened⟩ := opening name
      exact closed line lines opened code_read
    | null => exact closed _ lines rfl code_read
    | _ => cases declared
  | _ => cases declared

/-- A node of a well-formed tree fails exactly when it holds a stray row, and else shows its texts. Only
a cell is written inside another table's surroundings, and it holds no stray row. -/
theorem failsAsStray (options : Options) {node : Node} (wellFormed : node.WellFormed)
    (outer : Option Surroundings) (outside : outer.isSome → node.hasStrayRow = false) :
    FailsAsStray options outer node := by
  induction node using Node.inductionInside generalizing outer with
  | step node inductionHypothesis =>
    obtain ⟨⟨declared, holds, -⟩, -⟩ := Node.everywhere_iff.mp wellFormed
    have each : node.rowKey? = none → node.tableKey? = none →
        ∀ child ∈ node.children, FailsAsStray options outer child := fun noRow noTable child isChild =>
      inductionHypothesis child isChild child (.self child) (wellFormed.child isChild) outer
        fun inTable => Node.hasStrayRow_child noRow noTable (outside inTable) isChild
    -- Outside of every table a row fails; inside one it is not written as a node of the tree.
    have row : node.hasStrayRow = true → node.writer (tableWriter .remembering) options none =
        throw .strayRow → FailsAsStray options outer node := by
      intro strays fails
      cases outer with
      | none =>
        unfold FailsAsStray
        rw [fails, strays]
        exact FailsIff.throw.weaken (by simp) fun _ known => known
      | some around => exact absurd (outside rfl) (by simp [strays])
    cases node with
    | document attributes children =>
      refine failsAsStray_of_children rfl rfl rfl ?_
      simp only [Node.writer]
      exact (failsIff_nodeBlocks (each rfl rfl)).andThen fun texts shown =>
        Gives.pure (.single (by rwa [ink_joinBlocks]))
    | heading attributes level content =>
      obtain ⟨mark, marked⟩ := headingMark_ok declared
      refine failsAsStray_of_text (fun text => mark ++ " " ++ Text.collapse text) rfl rfl rfl (each rfl rfl)
        ?_ fun text => ?_
      · simp only [Node.writer, headingWriter, marked, settle, pure_bind]
        rfl
      · rw [← Text.ink_collapse text]
        exact ink_sublist_behind _ _
    | paragraph attributes content =>
      refine failsAsStray_of_text (fun text => escapeHash (reflow options text)) rfl rfl rfl (each rfl rfl)
        (by simp only [Node.writer]; rfl) fun text => ?_
      rw [← ink_reflow options text]
      exact ink_escapeHash _
    | codeBlock attributes content language =>
      obtain ⟨text, written⟩ := codeBlockText_ok options declared
      refine failsAsStray_of_gives rfl ?_
      simp only [Node.writer, codeBlockWriter, written, settle, pure_bind]
      exact Gives.pure (.single (List.nil_sublist _))
    | blockQuote attributes children =>
      refine failsAsStray_of_children rfl rfl rfl ?_
      simp only [Node.writer]
      refine (failsIff_nodeBlocks (each rfl rfl)).andThen fun texts shown => Gives.pure (.single ?_)
      rw [← ink_joinBlocks] at shown
      exact shown.trans (ink_quoteLines _)
    | list => exact failsIff_list (each rfl rfl)
    | listItem attributes children =>
      refine failsIff_listItem (each rfl rfl) fun paragraphAttributes content isChild inner isInner => ?_
      have within : Node.Within inner (.paragraph paragraphAttributes content) := .child isInner (.self inner)
      refine inductionHypothesis _ isChild inner within ((wellFormed.child isChild).within within) outer
        fun inTable => ?_
      have clear := Node.hasStrayRow_child rfl rfl (outside inTable) isChild
      exact Node.hasStrayRow_child rfl rfl clear isInner
    | table attributes key rows =>
      obtain ⟨layout, made⟩ := wellFormed.ofRows_ok
      refine failsAsStray_of_gives rfl (gives_tableWriter made (fun row isRow cell isCell around => ?_) outer)
      have rowWellFormed := wellFormed.child isRow
      have cellWellFormed := rowWellFormed.child isCell
      have clear : cell.hasStrayRow = false := (cellWellFormed cell (.self cell)).2.2
        (rowWellFormed.isCell_of_row (List.all_eq_true.mp holds row isRow) cell isCell)
      have known := inductionHypothesis row isRow cell (.child isCell (.self cell)) cellWellFormed around
        fun _ => clear
      exact FailsIff.weaken known (by simp [clear]) fun _ shown => shown
    | tableRow => exact row rfl (by simp only [Node.writer]; rfl)
    | ruleRow => exact row rfl (by simp only [Node.writer]; rfl)
    | tableCell attributes content =>
      refine failsAsStray_of_text Text.collapse rfl rfl rfl (each rfl rfl) (by simp only [Node.writer]; rfl)
        fun text => ?_
      rw [Text.ink_collapse]
    | text attributes content =>
      refine failsAsStray_of_gives rfl ?_
      simp only [Node.writer]
      cases content with
      | string value => exact Gives.pure (.single (.refl _))
      | _ => cases declared
    | code attributes content =>
      refine failsAsStray_of_gives rfl ?_
      simp only [Node.writer]
      exact Gives.pure (.single (ink_sublist_between "\x60" content.shown "\x60"))
    | styled attributes style content =>
      exact failsAsStray_of_text (styledText style) rfl rfl rfl (each rfl rfl) (by simp only [Node.writer]; rfl)
        fun text => ink_sublist_between _ text _
    | link attributes url content =>
      exact failsAsStray_of_text (linkText url) rfl rfl rfl (each rfl rfl) (by simp only [Node.writer]; rfl)
        (ink_linkText url)
    | thematicBreak | image | lineBreak =>
      refine failsAsStray_of_gives rfl ?_
      simp only [Node.writer]
      exact Gives.pure (.single (List.nil_sublist _))

end Markup

end OutlineWiki
