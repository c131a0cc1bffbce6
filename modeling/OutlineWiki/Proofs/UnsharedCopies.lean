import OutlineWiki.Proofs.FreshKeys
import OutlineWiki.Proofs.SharedRows
import OutlineWiki.Proofs.TableDocuments
import OutlineWiki.Proofs.TreeSources

/-!
# Copies that share nothing

A tree that is written as an object and read back comes back with the same value, and every table and
every row of the copy is an object of its own. The copy is rendered by positions, so it is rendered like
the tree exactly when no second rule stands in its table once more.
-/

namespace OutlineWiki

open Markup

namespace Node

/-- Rows of a tree with the same key are the same object and have the same value. -/
def RowKeysIdentify (node : Node) : Prop :=
  ∀ row other, Within row node → Within other node → row.rowKey?.isSome →
    row.rowKey? = other.rowKey? → row = other

/-- In each table with columns, the rule that is the second exported row stands nowhere else. -/
def SecondRulesOnce (node : Node) : Prop :=
  ∀ attributes key rows layout, Within (.table attributes key rows) node →
    TableLayout.ofRows rows = .ok layout → layout.columnCount ≠ 0 → layout.SecondRuleOnce

/-- Rows of which no two have the same key are identified by their keys, however often they stand in a
tree. -/
theorem rowKeysIdentify_of_rows {node : Node} (rows : List Node)
    (isRow : ∀ inner ∈ node.nodes, inner.rowKey?.isSome → inner ∈ rows)
    (once : (rows.map rowKey?).Nodup) : node.RowKeysIdentify := by
  intro row other within withinToo isKeyed same
  have inRows := isRow row (mem_nodes_iff.mpr within) isKeyed
  have otherInRows := isRow other (mem_nodes_iff.mpr withinToo) (same ▸ isKeyed)
  exact List.inj_on_of_nodup_map once inRows otherInRows same

/-- The exported rows of a table in a tree are identified by their keys. -/
theorem RowKeysIdentify.rows {node : Node} (identified : node.RowKeysIdentify) {attributes : Attributes}
    {key : Nat} {rows : List Node} {layout : TableLayout}
    (within : Within (.table attributes key rows) node) (made : TableLayout.ofRows rows = .ok layout) :
    TableLayout.RowsIdentify layout.rows := by
  have inTree : ∀ row ∈ layout.rows, Within row node := fun row inside =>
    Within.trans (.child ((TableLayout.rows_sublist made).subset inside) (.self row)) within
  intro row inside other isOther same
  exact identified row other (inTree row inside) (inTree other isOther) (isRow_of_ofRows made row inside) same

/-- A tree in which no two keys are equal has its rows once. -/
theorem differentRows_of_fresh {node : Node} (fresh : node.keys.Nodup) {attributes : Attributes} {key : Nat}
    {rows : List Node} {layout : TableLayout} (within : Within (.table attributes key rows) node)
    (made : TableLayout.ofRows rows = .ok layout) : TableLayout.DifferentRows rows :=
  differentRows_of_nodup_keys fresh within (areRows_of_ofRows made)

/-- What stands inside an inline node is inline. -/
theorem isInline_within {inner node : Node} (within : Within inner node) (inline : node.isInline = true) :
    inner.isInline = true := by
  induction within with
  | self => exact inline
  | child inside _ inductionHypothesis => exact inductionHypothesis (isInline_child inline inside)

/-- No table stands inside a table of inline cells. -/
theorem eq_of_within_inlineTable {table : Node} (inline : table.isInlineTable = true)
    {attributes : Attributes} {key : Nat} {rows : List Node}
    (within : Within (.table attributes key rows) table) : .table attributes key rows = table := by
  cases table with
  | table attributes' key' rows' =>
    cases within with
    | self => rfl
    | @child row _ isRow inRow =>
      have rowInline : row.isInlineRow = true := List.all_eq_true.mp inline row isRow
      obtain ⟨isKeyed, cellsInline⟩ := Bool.and_eq_true_iff.mp rowInline
      cases row with
      | tableRow rowAttributes rowKey cells =>
        cases inRow with
        | @child cell _ isCell inCell =>
          have cellInline : cell.isInlineCell = true := List.all_eq_true.mp cellsInline cell isCell
          cases cell with
          | tableCell cellAttributes content =>
            cases inCell with
            | child isContent inContent =>
              exact absurd (isInline_within inContent (allInline_iff.mp cellInline _ isContent)) (by simp [isInline])
          | _ => cases cellInline
      | ruleRow rowAttributes rowKey =>
        cases inRow with
        | child isCell => cases isCell
      | _ => cases isKeyed
  | _ => cases inline

end Node

/-! ## By keys and by positions -/

/-- Where table cells hold nothing but inline nodes, a document is rendered as if rules were told apart by
their keys and nothing was remembered. -/
theorem render_eq_keyedTable (options : Options) {document : Node}
    (inline : document.Everywhere (·.hasInlineCells = true)) (identified : document.KeysIdentify) :
    render options document = renderedBy keyedTable options document := by
  have aligned : alignedTable = keyedTable := by
    funext key rows cells grid around
    simp only [alignedTable, keyedTable, drawingTable, TableLayout.tablePieces_eq_drawnPieces]
  have start : State.Meets {} (Remembered (Faithful document)) := faithful_empty document {} rfl
  rw [render_eq_renderedBy, ← aligned]
  exact renderedBy_congr start (agree_aligned options inline identified (.self document))

/-- A document is rendered the same by keys and by positions if its tables with columns are. -/
theorem renderedBy_positionedTable (options : Options) {document : Node}
    (same : ∀ attributes key rows layout, Node.Within (.table attributes key rows) document →
      TableLayout.ofRows rows = .ok layout → layout.columnCount ≠ 0 → ∀ width,
        layout.tableLines Node.cellContent width = layout.positionedLines Node.cellContent width) :
    renderedBy keyedTable options document = renderedBy positionedTable options document := by
  have start : State.Meets {} (Remembered fun _ => True) := trivial
  refine renderedBy_congr start (agree_writer_of_tables fun attributes key rows within => ?_)
  simp only [Node.writer, keyedTable, positionedTable, drawingTable]
  cases made : TableLayout.ofRows rows with
  | error failure => exact .throw failure
  | ok layout =>
    have pieces : ∀ width, layout.drawnPieces Node.cellContent width (fun row _ => layout.isDrawn row) =
        layout.drawnPieces Node.cellContent width fun _ index => index == 1 := by
      intro width
      rw [TableLayout.drawnPieces, TableLayout.drawnPieces, ← TableLayout.tableLines_eq_linesDrawing,
        ← TableLayout.positionedLines_eq_linesDrawing]
      by_cases columns : layout.columnCount = 0
      · rw [if_pos columns, if_pos columns]
      · rw [same attributes key rows layout within made columns width]
    simp only [settle, pure_bind, pieces]
    exact .pure _

/-- By positions a document and its copies are rendered the same. -/
theorem renderedBy_positionedTable_unkeyed (options : Options) {document copy : Node}
    (sameValue : copy.unkeyed = document.unkeyed) :
    renderedBy positionedTable options copy = renderedBy positionedTable options document := by
  have written : copy.writer positionedTable options none = document.writer positionedTable options none := by
    rw [← keyless options copy, sameValue, keyless options document]
  simp only [renderedBy, renderTree, capture, inSequence, written]

/-- A copy in which no two keys are equal is rendered like the document by positions. -/
theorem render_of_fresh (options : Options) {document copy : Node}
    (inline : document.Everywhere (·.hasInlineCells = true)) (sameValue : copy.unkeyed = document.unkeyed)
    (fresh : copy.keys.Nodup) : render options copy = renderedBy positionedTable options document := by
  have keyless : ∀ node : Node, node.unkeyed.hasInlineCells = true ↔ node.hasInlineCells = true :=
    fun node => by rw [node.hasInlineCells_unkeyed]
  have copyInline : copy.Everywhere (·.hasInlineCells = true) := by
    rw [← Node.everywhere_unkeyed keyless, sameValue, Node.everywhere_unkeyed keyless]
    exact inline
  calc render options copy
      = renderedBy keyedTable options copy :=
        render_eq_keyedTable options copyInline (Node.keysIdentify_of_nodup_keys fresh)
    _ = renderedBy positionedTable options copy :=
        renderedBy_positionedTable options fun _ _ _ _ within made _ width =>
          TableLayout.tableLines_eq_positionedLines made (Node.differentRows_of_fresh fresh within made) _ width
    _ = renderedBy positionedTable options document :=
        renderedBy_positionedTable_unkeyed options sameValue

/-! ## Documents with shared rows -/

/-- A document with inline cells is rendered by keys as by positions if its second rules stand once. -/
theorem renderedBy_positionedTable_of_once (options : Options) {document : Node}
    (rowsIdentified : document.RowKeysIdentify) (once : document.SecondRulesOnce) :
    renderedBy keyedTable options document = renderedBy positionedTable options document :=
  renderedBy_positionedTable options fun attributes key rows layout within made columns width =>
    (TableLayout.tableLines_eq_iff (rowsIdentified.rows within made) Node.cellContent width).mpr
      (once attributes key rows layout within made columns)

/-- A document of tables is rendered by keys as by positions only if its second rules stand once. -/
theorem secondRulesOnce_of_renderedBy {options : Options} {attributes : Attributes} {tables : List Node}
    (areTables : ∀ table ∈ tables, table.isInlineTable = true)
    (rowsIdentified : (Node.document attributes tables).RowKeysIdentify)
    (same : renderedBy keyedTable options (.document attributes tables) =
      renderedBy positionedTable options (.document attributes tables)) :
    (Node.document attributes tables).SecondRulesOnce := by
  have blocks := (renderedBy_drawingTable_inj options attributes areTables).mp same
  intro tableAttributes key rows layout within made columns
  have isTable : Node.table tableAttributes key rows ∈ tables := by
    cases within with
    | child inside within =>
      rwa [Node.eq_of_within_inlineTable (areTables _ inside) within]
  have lines := blocks _ isTable
  simp only [Node.tableBlock, made, if_neg columns] at lines
  rw [← TableLayout.tableLines_eq_linesDrawing, ← TableLayout.positionedLines_eq_linesDrawing] at lines
  exact (TableLayout.tableLines_eq_iff (rowsIdentified.rows within made) Node.cellContent _).mp lines

/-- A document is rendered like its copy exactly when its second rules stand once. The copy is what its
object, and its text if it can be stored, are read back as: what was one row at several places are several
rows. Where table cells hold nothing but inline nodes, the copy is rendered with each rule drawn where it is
the second exported row of its table. The document has the same text if in every table with columns a rule
that is the second exported row stands nowhere else, whatever other rows are shared; a document of tables
has the same text only then. -/
theorem rendering_of_copy (options : Options) {document : Node}
    (inline : document.Everywhere (·.hasInlineCells = true)) (levels : document.Everywhere Node.LevelFits)
    (identified : document.KeysIdentify) (rowsIdentified : document.RowKeysIdentify) :
    ∃ copy : Node,
      (∀ strictness, Node.ofJson strictness document.toJson = .ok copy) ∧
      (document.Storable → ∀ layout : Json.Layout, layout.Blank → ∀ strictness,
        Node.parse strictness (document.source layout) = .ok copy) ∧
      render options copy = renderedBy positionedTable options document ∧
      (document.SecondRulesOnce → render options document = render options copy) ∧
      ∀ attributes tables, document = .document attributes tables →
        (∀ table ∈ tables, table.isInlineTable = true) →
          ∃ text copyText, render options document = .ok text ∧ render options copy = .ok copyText ∧
            (text = copyText ↔ document.SecondRulesOnce) := by
  have sameValue : document.unkeyed.numbered.unkeyed = document.unkeyed := by
    rw [Node.unkeyed_numbered, Node.unkeyed_unkeyed]
  have byPosition := render_of_fresh options inline sameValue (Node.nodup_keys_numbered document.unkeyed)
  have byKey := render_eq_keyedTable options inline identified
  have alike : document.SecondRulesOnce → render options document = render options document.unkeyed.numbered := by
    intro once
    rw [byKey, byPosition, renderedBy_positionedTable_of_once options rowsIdentified once]
  refine ⟨document.unkeyed.numbered, fun strictness => ?_, ?_, byPosition, alike, ?_⟩
  · rw [Node.ofJson, Node.toJson, Node.decode_members strictness levels]
    rfl
  · intro storable layout blank strictness
    exact storable.parse_source blank strictness
  · rintro attributes tables rfl areTables
    have text := byKey.trans (renderedBy_drawingTable options _ attributes areTables)
    have copyText := byPosition.trans (renderedBy_drawingTable options _ attributes areTables)
    refine ⟨_, _, text, copyText, fun same => ?_, fun once => ?_⟩
    · have sameText : renderedBy keyedTable options (.document attributes tables) =
          renderedBy positionedTable options (.document attributes tables) := by
        rw [← byKey, ← byPosition, text, copyText, same]
      exact secondRulesOnce_of_renderedBy areTables rowsIdentified sameText
    · have sameText := alike once
      rw [text, copyText] at sameText
      exact Except.ok.inj sameText

/-- Two tables that share a row and a rule are rendered like their copies: the rule stands twice only in the
second table, where it is not the second row. -/
theorem rendering_of_copy_shared_between_tables :
    let row : Node := .tableRow {} 1 [.tableCell {} [.text {} (.string "a")]]
    let rule : Node := .ruleRow {} 2
    let document : Node := .document {} [.table {} 0 [row, rule, row], .table {} 3 [row, row, rule, rule]]
    ∃ copy : Node, (∀ strictness, Node.ofJson strictness document.toJson = .ok copy) ∧
      ∃ text, render {} document = .ok text ∧ render {} copy = .ok text := by
  intro row rule document
  have inline : document.Everywhere (·.hasInlineCells = true) := Node.everywhere_iff_nodes.mpr (by decide)
  have levels : document.Everywhere Node.LevelFits :=
    Node.everywhere_iff_nodes.mpr (by simp [document, row, rule, Node.nodes, Node.nodesAll, Node.LevelFits])
  have identified : document.KeysIdentify := Node.keysIdentify_of_nodup (by decide)
  have rowsIdentified : document.RowKeysIdentify :=
    Node.rowKeysIdentify_of_rows [row, rule]
      (by simp [document, row, rule, Node.nodes, Node.nodesAll, Node.rowKey?]) (by decide)
  have once : document.SecondRulesOnce := by
    intro attributes key rows layout within made columns
    have inside := Node.mem_nodes_iff.mpr within
    simp only [document, row, rule, Node.nodes, Node.nodesAll, List.mem_cons, List.mem_append,
      List.not_mem_nil, Node.table.injEq, or_false, false_or, reduceCtorEq] at inside
    rcases inside with ⟨-, -, rfl⟩ | ⟨-, -, rfl⟩
    · obtain rfl := Except.ok.inj made
      decide
    · obtain rfl := Except.ok.inj made
      decide
  obtain ⟨copy, isRead, -, -, -, texts⟩ := rendering_of_copy {} inline levels identified rowsIdentified
  obtain ⟨text, copyText, rendered, copyRendered, same⟩ := texts {} _ rfl (by decide)
  exact ⟨copy, isRead, text, rendered, same.mpr once ▸ copyRendered⟩

/-- A rule that is the second row and stands below once more is drawn twice; read back, it is drawn once. -/
theorem shared_rule_drawn_twice :
    let row : Nat → String → Node := fun key text => .tableRow {} key [.tableCell {} [.text {} (.string text)]]
    let rule : Node := .ruleRow {} 2
    let document : Node := .document {} [.table {} 0 [row 1 "a", rule, rule, row 3 "b"]]
    ∃ copy : Node, Node.parse .strict (document.source .compact) = .ok copy ∧
      render {} document = .ok "|| a ||\n||---||\n||---||\n|| b ||\n" ∧
        render {} copy = .ok "|| a ||\n||---||\n|| b ||\n" := by
  intro row rule document
  have storable : document.Storable := Node.everywhere_iff_nodes.mpr (by
    simp [document, row, rule, Node.nodes, Node.nodesAll, Node.LevelFits, Node.attributes, Node.values,
      Attributes.Exact, Json.Exact, Json.Everywhere, Json.EverywhereMembers, Json.NotFloat, Json.KeysOnce])
  have blank : Json.Layout.compact.Blank := trivial
  refine ⟨document.unkeyed.numbered, storable.parse_source blank .strict, ?_⟩
  decide +kernel

end OutlineWiki
