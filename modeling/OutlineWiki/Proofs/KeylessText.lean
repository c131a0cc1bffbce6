import OutlineWiki.Proofs.ColumnAlignment
import OutlineWiki.Proofs.TableLines

/-!
# Text that does not depend on keys

The plain texts of cells, the layout of a table and the contents of its cells are settled by values
alone: they are the same for a tree without its keys. So is a rendering that tells rules apart by their
positions in place of their keys.
-/

namespace OutlineWiki

open Markup

namespace Node

/-- The children of a tree without keys are those of the tree, without keys. -/
theorem children_unkeyed (node : Node) : node.unkeyed.children = node.children.map unkeyed := by
  cases node <;> simp [unkeyed, children, unkeyedAll_eq_map]

/-- What does not depend on keys holds everywhere in a tree without its keys exactly when it holds
everywhere in the tree. -/
theorem everywhere_unkeyed {Holds : Node → Prop} (keyless : ∀ node, Holds (unkeyed node) ↔ Holds node)
    (node : Node) : node.unkeyed.Everywhere Holds ↔ node.Everywhere Holds := by
  induction node using inductionChildren with
  | step node inductionHypothesis =>
    rw [everywhere_iff, everywhere_iff, keyless, children_unkeyed, List.forall_mem_map]
    exact and_congr_right fun _ => forall₂_congr inductionHypothesis

/-! ## Plain texts -/

/-- Texts have no keys to forget. -/
theorem ownText?_unkeyed (node : Node) : node.unkeyed.ownText? = node.ownText? := by
  cases node <;> rfl

/-- Trees with the same plain texts one by one have the same plain texts. -/
theorem plainTexts_unkeyed {joiner : String} {nodes : List Node}
    (each : ∀ node ∈ nodes, plainText joiner node.unkeyed = plainText joiner node) :
    plainTexts joiner (nodes.map unkeyed) = plainTexts joiner nodes := by
  induction nodes with
  | nil => rfl
  | cons node rest inductionHypothesis =>
    rw [List.map_cons, plainTexts, plainTexts, each node List.mem_cons_self,
      inductionHypothesis fun later inside => each later (List.mem_cons_of_mem node inside)]

/-- The plain text of a tree does not depend on keys. -/
theorem plainText_unkeyed (joiner : String) (node : Node) :
    plainText joiner node.unkeyed = plainText joiner node := by
  induction node using inductionChildren with
  | step node inductionHypothesis =>
    have keyless := ownText?_unkeyed node
    cases own : node.ownText? with
    | some content => rw [plainText_of_ownText own, plainText_of_ownText (keyless.trans own)]
    | none =>
      rw [plainText_of_children own, plainText_of_children (keyless.trans own), children_unkeyed,
        plainTexts_unkeyed inductionHypothesis]

/-- The text of a cell does not depend on keys. -/
theorem cellText_unkeyed (cell : Node) : cell.unkeyed.cellText = cell.cellText := by
  have joined : ∀ nodes, joinedText "" (nodes.map unkeyed) = joinedText "" nodes := by
    intro nodes
    rw [joinedText, joinedText, plainTexts_unkeyed fun node _ => plainText_unkeyed "" node]
  cases cell <;> simp [unkeyed, cellText, unkeyedAll_eq_map, joined]

/-- What is told of each node and does not depend on keys is told of nodes without keys. -/
theorem mapM_unkeyed {Value : Type} {tell : Node → Except Failure Value}
    (keyless : ∀ node, tell node.unkeyed = tell node) (nodes : List Node) :
    (nodes.map unkeyed).mapM tell = nodes.mapM tell := by
  induction nodes with
  | nil => rfl
  | cons node rest inductionHypothesis =>
    rw [List.map_cons, List.mapM_cons, List.mapM_cons, keyless, inductionHypothesis]

/-- The text of the first cell does not depend on keys. -/
theorem firstText_unkeyed (cells : List Node) : firstText (cells.map unkeyed) = firstText cells := by
  cases cells with
  | nil => rfl
  | cons cell rest => exact cellText_unkeyed cell

/-! ## Layouts -/

/-- Whether a table has a special column does not depend on keys. -/
theorem markerColumn_unkeyed (found : Bool) (rows : List Node) :
    markerColumn found (rows.map unkeyed) = markerColumn found rows := by
  induction rows generalizing found with
  | nil => rfl
  | cons row rest inductionHypothesis =>
    rw [List.map_cons]
    cases row with
    | ruleRow => exact inductionHypothesis found
    | tableRow attributes key cells =>
      simp only [unkeyed, markerColumn, unkeyedAll_eq_map, firstText_unkeyed, inductionHypothesis]
    | _ => simp only [unkeyed, markerColumn]

/-- Whether cells are cookies does not depend on keys. -/
theorem cookieCells_unkeyed (found : Bool) (cells : List Node) :
    cookieCells found (cells.map unkeyed) = cookieCells found cells := by
  induction cells generalizing found with
  | nil => rfl
  | cons cell rest inductionHypothesis =>
    simp only [List.map_cons, cookieCells, cellText_unkeyed, inductionHypothesis]

/-- Whether a row is special does not depend on keys. -/
theorem isSpecialRow_unkeyed (specialColumn : Bool) (row : Node) :
    isSpecialRow specialColumn row.unkeyed = isSpecialRow specialColumn row := by
  cases row with
  | tableRow attributes key cells =>
    simp only [unkeyed, isSpecialRow, unkeyedAll_eq_map, firstText_unkeyed, cookieCells_unkeyed]
  | _ => rfl

/-- The cells of a row by column are the same without keys. -/
theorem columnCells_unkeyed (specialColumn : Bool) (row : Node) :
    row.unkeyed.columnCells specialColumn = (row.columnCells specialColumn).map unkeyed := by
  cases row <;> cases specialColumn <;> simp [unkeyed, columnCells, unkeyedAll_eq_map]

/-- A rule is a rule without keys. -/
theorem isRule_unkeyed (row : Node) : row.unkeyed.isRule = row.isRule := by
  cases row <;> rfl

end Node

namespace TableLayout

/-- A layout of rows without their keys. -/
def unkeyed (layout : TableLayout) : TableLayout :=
  { layout with rows := layout.rows.map Node.unkeyed }

/-- The cookies of cells do not depend on keys. -/
theorem addCookies_unkeyed (cookies : List (Nat × Nat)) (column : Nat) (cells : List Node) :
    addCookies cookies column (cells.map Node.unkeyed) = addCookies cookies column cells := by
  induction cells generalizing cookies column with
  | nil => rfl
  | cons cell rest inductionHypothesis =>
    simp only [List.map_cons, addCookies, Node.cellText_unkeyed, inductionHypothesis]

/-- What special rows say does not depend on keys. -/
theorem readSpecialRows_unkeyed (specialColumn : Bool) (cookies : List (Nat × Nat))
    (markers : List String) (rows : List Node) :
    readSpecialRows specialColumn cookies markers (rows.map Node.unkeyed) =
      readSpecialRows specialColumn cookies markers rows := by
  induction rows generalizing cookies markers with
  | nil => rfl
  | cons row rest inductionHypothesis =>
    simp only [List.map_cons, readSpecialRows, Node.columnCells_unkeyed, Node.children_unkeyed,
      Node.firstText_unkeyed, Node.mapM_unkeyed Node.cellText_unkeyed, addCookies_unkeyed,
      inductionHypothesis]

/-- The layout of rows without keys is that of the rows, without keys. -/
theorem ofRows_unkeyed (rows : List Node) :
    ofRows (rows.map Node.unkeyed) = (ofRows rows).map unkeyed := by
  unfold ofRows
  rw [Node.hasSpecialColumn, Node.hasSpecialColumn, Node.markerColumn_unkeyed]
  cases Node.markerColumn false rows with
  | error failure => rfl
  | ok specialColumn =>
    simp only [bind, Except.bind, Node.mapM_unkeyed (Node.isSpecialRow_unkeyed specialColumn)]
    cases rows.mapM (Node.isSpecialRow specialColumn) with
    | error failure => rfl
    | ok special =>
      simp only [select_map, readSpecialRows_unkeyed]
      cases readSpecialRows specialColumn [] [] (select true special rows) with
      | error failure => rfl
      | ok read =>
        simp only [pure, Except.pure, Except.map, unkeyed, List.filter_map, Function.comp_def,
          Node.isRule_unkeyed, List.length_map, ← List.map_append]
        cases (select false special rows).filter (fun row => !row.isRule) ++ select true special rows with
        | nil => rfl
        | cons shape others => simp only [List.map_cons, Node.columnCells_unkeyed, List.length_map]

end TableLayout

/-! ## Lines -/

mutual

/-- The text of an inline node does not depend on keys. -/
theorem Node.inlineText_unkeyed : (node : Node) → node.unkeyed.inlineText = node.inlineText
  | .styled _ _ content => by simp [Node.unkeyed, Node.inlineText, Node.inlineTexts_unkeyed content]
  | .link _ _ content => by simp [Node.unkeyed, Node.inlineText, Node.inlineTexts_unkeyed content]
  | .document .. | .heading .. | .paragraph .. | .codeBlock .. | .blockQuote .. | .list .. | .listItem ..
  | .table .. | .tableRow .. | .ruleRow .. | .tableCell .. | .thematicBreak .. | .text .. | .code ..
  | .image .. | .lineBreak .. => rfl

/-- The texts of inline nodes do not depend on keys. -/
theorem Node.inlineTexts_unkeyed :
    (nodes : List Node) → Node.inlineTexts (Node.unkeyedAll nodes) = Node.inlineTexts nodes
  | [] => rfl
  | node :: rest => by
    simp [Node.unkeyedAll, Node.inlineTexts, Node.inlineText_unkeyed node, Node.inlineTexts_unkeyed rest]

end

mutual

/-- Whether a node is inline does not depend on keys. -/
theorem Node.isInline_unkeyed : (node : Node) → node.unkeyed.isInline = node.isInline
  | .styled _ _ content => by simp [Node.unkeyed, Node.isInline, Node.allInline_unkeyed content]
  | .link _ _ content => by simp [Node.unkeyed, Node.isInline, Node.allInline_unkeyed content]
  | .document .. | .heading .. | .paragraph .. | .codeBlock .. | .blockQuote .. | .list .. | .listItem ..
  | .table .. | .tableRow .. | .ruleRow .. | .tableCell .. | .thematicBreak .. | .text .. | .code ..
  | .image .. | .lineBreak .. => rfl

/-- Whether nodes are inline does not depend on keys. -/
theorem Node.allInline_unkeyed :
    (nodes : List Node) → Node.allInline (Node.unkeyedAll nodes) = Node.allInline nodes
  | [] => rfl
  | node :: rest => by
    simp [Node.unkeyedAll, Node.allInline, Node.isInline_unkeyed node, Node.allInline_unkeyed rest]

end

/-- Whether the cells of a row are inline does not depend on keys. -/
theorem Node.hasInlineCells_unkeyed (row : Node) : row.unkeyed.hasInlineCells = row.hasInlineCells := by
  have cell : ∀ cell : Node, cell.unkeyed.isInlineCell = cell.isInlineCell := by
    intro cell
    cases cell with
    | tableCell attributes content => exact Node.allInline_unkeyed content
    | _ => rfl
  cases row with
  | tableRow attributes key cells =>
    simp [Node.unkeyed, Node.hasInlineCells, Node.unkeyedAll_eq_map, List.all_map, Function.comp_def, cell]
  | _ => rfl

/-- The content of a cell does not depend on keys. -/
theorem Node.cellContent_unkeyed (cell : Node) : cell.unkeyed.cellContent = cell.cellContent := by
  cases cell <;> simp [Node.unkeyed, Node.cellContent, Node.inlineTexts_unkeyed]

namespace TableLayout

/-- The lines of a row do not depend on keys, once it is settled whether it is drawn. -/
theorem rowLines_unkeyed (layout : TableLayout) (width : Nat → Nat) (drawn : Bool) (row : Node) :
    layout.unkeyed.rowLines Node.cellContent width drawn row.unkeyed =
      layout.rowLines Node.cellContent width drawn row := by
  have box : ∀ column cell, layout.unkeyed.alignedCell Node.cellContent width column cell.unkeyed =
      layout.alignedCell Node.cellContent width column cell := by
    intro column cell
    have starts : layout.unkeyed.startsGroup column = layout.startsGroup column := rfl
    rw [alignedCell, alignedCell, Node.cellContent_unkeyed, starts]
  have boxes : ∀ cells : List Node,
      (cells.map Node.unkeyed).mapIdx (layout.unkeyed.alignedCell Node.cellContent width) =
        cells.mapIdx (layout.alignedCell Node.cellContent width) := by
    intro cells
    apply List.ext_getElem?
    intro column
    simp [Function.comp_def, box]
  have cells : layout.unkeyed.cells row.unkeyed = (layout.cells row).map Node.unkeyed :=
    Node.columnCells_unkeyed layout.specialColumn row
  have runs : layout.unkeyed.alignedRuns width '-' = layout.alignedRuns width '-' := rfl
  rw [rowLines_eq, rowLines_eq, cells, boxes, runs, Node.isRule_unkeyed, List.isEmpty_map]

/-- The width of a column does not depend on keys. -/
theorem ownWidth_unkeyed (layout : TableLayout) (rows : List Node) :
    layout.unkeyed.ownWidth (rows.map Node.unkeyed) Node.cellContent =
      layout.ownWidth rows Node.cellContent := by
  funext column
  have cells : ∀ row : Node, layout.unkeyed.cells row.unkeyed = (layout.cells row).map Node.unkeyed :=
    Node.columnCells_unkeyed layout.specialColumn
  have cookieWidth : ∀ cell : Node, cookieWidth? cell.unkeyed = cookieWidth? cell := by
    intro cell
    rw [cookieWidth?, Node.cellText_unkeyed, cookieWidth?]
  have special : layout.unkeyed.specialRows (rows.map Node.unkeyed) =
      (layout.specialRows rows).map Node.unkeyed := select_map true layout.special rows Node.unkeyed
  have cookie : layout.unkeyed.firstCookie? (rows.map Node.unkeyed) column =
      layout.firstCookie? rows column := by
    rw [firstCookie?, special, List.findSome?_map, firstCookie?]
    congr 1
    funext row
    rw [Function.comp_apply, cells, List.getElem?_map, Option.bind_map]
    exact congrArg _ (funext cookieWidth)
  have contents : layout.unkeyed.columnContents Node.cellContent column =
      layout.columnContents Node.cellContent column := by
    have sameRows : layout.unkeyed.rows = layout.rows.map Node.unkeyed := rfl
    rw [columnContents, sameRows, List.filterMap_map, columnContents]
    congr 1
    funext row
    rw [Function.comp_apply, cells, List.getElem?_map, Option.map_map]
    exact congrArg (Option.map · _) (funext Node.cellContent_unkeyed)
  rw [ownWidth, cookie, contents, ownWidth]

/-- The pieces of a table do not depend on keys, once it is settled at which positions rules are drawn. -/
theorem drawnPieces_unkeyed (layout : TableLayout) (rows : List Node) (drawn : Nat → Bool) :
    layout.unkeyed.drawnPieces Node.cellContent
        (layout.unkeyed.ownWidth (rows.map Node.unkeyed) Node.cellContent) (fun _ index => drawn index) =
      layout.drawnPieces Node.cellContent (layout.ownWidth rows Node.cellContent)
        fun _ index => drawn index := by
  rw [ownWidth_unkeyed]
  generalize layout.ownWidth rows Node.cellContent = width
  have lines : layout.unkeyed.linesDrawing Node.cellContent width (fun _ index => drawn index) =
      layout.linesDrawing Node.cellContent width fun _ index => drawn index := by
    have header : layout.unkeyed.headerLines width = layout.headerLines width := rfl
    have sameRows : layout.unkeyed.rows = layout.rows.map Node.unkeyed := rfl
    rw [linesDrawing, header, sameRows, List.zipIdx_map, List.flatMap_map, linesDrawing]
    congr 1
    exact List.flatMap_congr fun entry _ => layout.rowLines_unkeyed width _ entry.1
  rw [drawnPieces, lines, drawnPieces]
  rfl

end TableLayout

/-! ## Renderings -/

namespace Markup

/-- Writers that write the same write the same in sequence. -/
theorem inSequence_congr {Item : Type} {items : List Item} {first second : Item → Writer}
    {around : Option Surroundings} (same : ∀ item ∈ items, first item around = second item around) :
    inSequence (items.map first) around = inSequence (items.map second) around := by
  induction items with
  | nil => rfl
  | cons item rest inductionHypothesis =>
    simp only [List.map_cons, inSequence, same item List.mem_cons_self,
      inductionHypothesis fun later inside => same later (List.mem_cons_of_mem item inside)]

/-- Writers that write the same make the same block. -/
theorem block_congr {first second : Writer} {around : Option Surroundings}
    (same : first around = second around) : block first around = block second around := by
  simp only [block, capture, inSequence, same]

/-- Writers that write the same make the same blocks. -/
theorem blocks_congr {Item : Type} {items : List Item} {first second : Item → Writer}
    {around : Option Surroundings} (same : ∀ item ∈ items, first item around = second item around) :
    blocks (items.map first) around = blocks (items.map second) around := by
  induction items with
  | nil => rfl
  | cons item rest inductionHypothesis =>
    simp only [List.map_cons, blocks, block_congr (same item List.mem_cons_self),
      inductionHypothesis fun later inside => same later (List.mem_cons_of_mem item inside)]

/-- A table written by its layout, its cells and its own widths, given which of its exported rows are drawn
if they are rules. -/
def drawingTable (drawn : TableLayout → Node → Nat → Bool) : TableForm := fun _ rows _ _ _ => do
  let layout ← settle (TableLayout.ofRows rows)
  return layout.drawnPieces Node.cellContent (layout.ownWidth rows Node.cellContent) (drawn layout)

/-- A table in which rules are told apart by their keys. -/
def keyedTable : TableForm :=
  drawingTable fun layout row _ => layout.isDrawn row

/-- A table in which a rule is drawn where it is the second exported row. -/
def positionedTable : TableForm :=
  drawingTable fun _ _ index => index == 1

/-- A node is written the same without its keys. -/
def Keyless (options : Options) (node : Node) : Prop :=
  node.unkeyed.writer positionedTable options none = node.writer positionedTable options none

/-- Nodes that are written the same without their keys are so in sequence. -/
theorem inSequence_unkeyed {options : Options} (nodes : List Node)
    (each : ∀ node ∈ nodes, Keyless options node) :
    inSequence (Node.writers positionedTable options (Node.unkeyedAll nodes)) none =
      inSequence (Node.writers positionedTable options nodes) none := by
  rw [Node.unkeyedAll_eq_map, writers_eq_map, writers_eq_map, List.map_map]
  exact inSequence_congr each

/-- Nodes that are written the same without their keys make the same blocks. -/
theorem blocks_unkeyed {options : Options} (nodes : List Node)
    (each : ∀ node ∈ nodes, Keyless options node) :
    blocks (Node.writers positionedTable options (Node.unkeyedAll nodes)) none =
      blocks (Node.writers positionedTable options nodes) none := by
  rw [Node.unkeyedAll_eq_map, writers_eq_map, writers_eq_map, List.map_map]
  exact blocks_congr each

/-- The children of an item that are written the same without their keys are so in the item. -/
theorem itemWriters_unkeyed {options : Options} (nodes : List Node)
    (each : ∀ node ∈ nodes, Keyless options node) :
    inSequence (Node.itemWriters positionedTable options (Node.unkeyedAll nodes)) none =
      inSequence (Node.itemWriters positionedTable options nodes) none := by
  rw [Node.unkeyedAll_eq_map, itemWriters_eq_map, itemWriters_eq_map, List.map_map]
  refine inSequence_congr fun node inside => ?_
  have same := each node inside
  have line : lineWriter (node.unkeyed.writer positionedTable options) none =
      lineWriter (node.writer positionedTable options) none := by
    rw [lineWriter, lineWriter, block_congr same]
  cases node with
  | list => exact same
  | _ => exact line

/-- A tree whose rules are drawn by their positions is written the same without its keys. -/
theorem keyless (options : Options) (node : Node) : Keyless options node := by
  induction node using Node.inductionInside with
  | step node inductionHypothesis =>
    have children : ∀ child ∈ node.children, Keyless options child := fun child inside =>
      inductionHypothesis child inside child (.self child)
    unfold Keyless
    cases node with
    | document attributes nodes =>
      simp only [Node.unkeyed, Node.writer, documentWriter, blocks_unkeyed nodes children]
    | blockQuote attributes nodes =>
      simp only [Node.unkeyed, Node.writer, blockQuoteWriter, blocks_unkeyed nodes children]
    | heading attributes level content =>
      simp only [Node.unkeyed, Node.writer, headingWriter, capture, inSequence_unkeyed content children]
    | paragraph attributes content =>
      simp only [Node.unkeyed, Node.writer, paragraphWriter, capture, inSequence_unkeyed content children]
    | tableCell attributes content =>
      simp only [Node.unkeyed, Node.writer, cellWriter, capture, inSequence_unkeyed content children]
    | styled attributes style content =>
      simp only [Node.unkeyed, Node.writer, styledWriter, capture, inSequence_unkeyed content children]
    | link attributes url content =>
      simp only [Node.unkeyed, Node.writer, linkWriter, capture, inSequence_unkeyed content children]
    | list attributes ordered start items =>
      simp only [Node.unkeyed, Node.writer, listWriter, inSequence_unkeyed items children]
    | listItem attributes nodes =>
      have whole : itemWriter options [] (Node.itemWriters positionedTable options (Node.unkeyedAll nodes)) none =
          itemWriter options [] (Node.itemWriters positionedTable options nodes) none := by
        simp only [itemWriter, itemWriters_unkeyed nodes children]
      cases nodes with
      | nil => rfl
      | cons first others =>
        cases first with
        | paragraph paragraphAttributes content =>
          have text : ∀ inner ∈ content, Keyless options inner := fun inner inside =>
            inductionHypothesis _ List.mem_cons_self inner (.child inside (.self inner))
          have rest : ∀ child ∈ others, Keyless options child := fun child inside =>
            children child (List.mem_cons_of_mem _ inside)
          simp only [Node.unkeyed, Node.unkeyedAll, Node.writer, itemWriter, capture,
            inSequence_unkeyed content text, itemWriters_unkeyed others rest]
        | _ => simpa only [Node.unkeyed, Node.unkeyedAll, Node.writer] using whole
    | table attributes key rows =>
      simp only [Node.unkeyed, Node.writer, positionedTable, drawingTable, Node.unkeyedAll_eq_map,
        TableLayout.ofRows_unkeyed]
      cases TableLayout.ofRows rows with
      | error failure => rfl
      | ok layout => simp only [Except.map, settle, pure_bind, TableLayout.drawnPieces_unkeyed]
    | tableRow | ruleRow => simp only [Node.unkeyed, Node.writer, rowWriter, ruleWriter]
    | _ => rfl

end Markup

end OutlineWiki
