import OutlineWiki.Proofs.TotalRendering

/-!
# The text that a rendering keeps

Plain text is gathered by one walk over the tree and markup is written by another, which trims,
collapses, shortens and leaves out. Where no table carries layout instructions both show the same
characters in the same order.
-/

namespace OutlineWiki

open Markup

namespace Node

/-- Whether a table exports everything: it has no special column and no special row, and its first row
of content, if there is one, has a cell. -/
def exportsAll : Node → Bool
  | .table _ _ rows =>
    hasSpecialColumn rows == .ok false && rows.all (fun row => isSpecialRow false row == .ok false) &&
      (rows.filter fun row => !row.isRule).head?.all fun row => !row.children.isEmpty
  | _ => true

/-- A table that exports everything keeps the ink of all its rows. -/
theorem keptInk_of_exportsAll {attributes : Attributes} {key : Nat} {rows : List Node}
    (wellFormed : (Node.table attributes key rows).WellFormed)
    (exportsAll : (Node.table attributes key rows).exportsAll = true) :
    (Node.table attributes key rows).keptInk = rows.flatMap keptInk := by
  obtain ⟨layout, made⟩ := wellFormed.ofRows_ok
  obtain ⟨column_read, special_read, exported, -⟩ := TableLayout.of_ofRows made
  simp only [Node.exportsAll, Bool.and_eq_true, beq_iff_eq, List.all_eq_true] at exportsAll
  obtain ⟨⟨noColumn, noSpecial⟩, hasCell⟩ := exportsAll
  have special : layout.specialColumn = false := Except.ok.inj (column_read.symm.trans noColumn)
  have allRows : layout.rows = rows := by
    rw [exported]
    exact TableLayout.select_all special_read fun row inside => by rw [special, noSpecial row inside]
  have isRow := isRow_of_ofRows made
  have cells : ∀ row ∈ rows, layout.cells row = row.children := by
    intro row inside
    have isRow := isRow row (allRows ▸ inside)
    cases row with
    | tableRow => simp [TableLayout.cells, special, columnCells, children]
    | ruleRow => rfl
    | _ => cases isRow
  have rowKept : ∀ row ∈ rows, (layout.cells row).flatMap keptInk = row.keptInk := by
    intro row inside
    have isRow := isRow row (allRows ▸ inside)
    rw [cells row inside, keptInk_of_children] <;> cases row <;> first | rfl | cases isRow
  rw [keptInk_table made, allRows, List.flatMap_congr rowKept]
  split
  case isFalse => rfl
  case isTrue noColumns =>
    -- Without columns there is no row of content, so that no row keeps anything.
    have noContent : rows.filter (fun row => !row.isRule) = [] := by
      rw [TableLayout.columnCount_eq made, allRows] at noColumns
      cases content : rows.filter fun row => !row.isRule with
      | nil => rfl
      | cons shape others =>
        have inside : shape ∈ rows := by
          have isContent : shape ∈ rows.filter fun row => !row.isRule := content ▸ List.mem_cons_self
          exact (List.mem_filter.mp isContent).1
        rw [content] at noColumns hasCell
        simp [cells shape inside] at noColumns hasCell
        exact absurd noColumns hasCell
    symm
    rw [List.flatMap_eq_nil_iff]
    intro row inside
    have isRule := List.filter_eq_nil_iff.mp noContent row inside
    cases row with
    | ruleRow => rfl
    | _ => exact absurd rfl isRule

/-- The ink of a well-formed tree's plain text is what a rendering keeps, if its tables export
everything. -/
theorem ink_plainString {node : Node} (wellFormed : node.WellFormed)
    (exportsAll : node.Everywhere (·.exportsAll = true)) :
    Text.ink (node.plainString "") = node.keptInk := by
  induction node using inductionChildren with
  | step node inductionHypothesis =>
    obtain ⟨rootExports, childrenExport⟩ := everywhere_iff.mp exportsAll
    have each := fun child inside =>
      inductionHypothesis child inside (wellFormed.child inside) (childrenExport child inside)
    have strings := wellFormed.strings
    cases own : node.ownText? with
    | some content =>
      rw [plainString_of_ownText (strings node (.self node)) own]
      cases node with
      | text | code =>
        obtain rfl := Option.some.inj own
        rw [keptInk]
      | _ => cases own
    | none =>
      have joined : Text.ink (node.plainString "") = node.children.flatMap keptInk := by
        rw [plainString_of_children "" strings own, Text.ink_intercalate Text.ink_empty,
          Text.flatMap_ink_filter, List.flatMap_map, List.flatMap_congr each]
        intro text _ empty
        obtain rfl : text = "" := by simpa using empty
        rfl
      rw [joined]
      cases node with
      | table attributes key rows => rw [keptInk_of_exportsAll wellFormed rootExports]; rfl
      | _ => exact (keptInk_of_children own rfl).symm

end Node

/-- No text is lost or reordered. A well-formed document without stray rows whose tables export
everything is rendered, and the characters of its plain text that are not blank appear in the output in
the same order. -/
theorem plainText_kept (options : Options) {document : Node} (wellFormed : document.WellFormed)
    (clear : document.hasStrayRow = false) (exportsAll : document.Everywhere (·.exportsAll = true)) :
    ∃ text output, document.plainText "" = .ok (.string text) ∧ render options document = .ok output ∧
      (Text.ink text).Sublist (Text.ink output) := by
  obtain ⟨written, rendered, kept⟩ := (renderToString_wellFormed { options } wellFormed).2 clear
  refine ⟨document.plainString "", finishText written,
    Node.plainText_strings "" wellFormed.strings, rendered, ?_⟩
  have finished : Text.ink (finishText written) = Text.ink written := by
    rw [finishText, Text.ink_append, Text.ink_stripEnd]
    exact List.append_nil _
  rwa [Node.ink_plainString wellFormed exportsAll, finished]

/-- A numbered item and a link that is shortened to its address keep their texts. -/
theorem plainText_kept_item_and_link :
    let document : Node := .document {}
      [.list {} (.bool true) (.int 3) [.listItem {} [.paragraph {} [.text {} (.string " first\nitem ")]]],
        .table {} 0 [.tableRow {} 1
          [.tableCell {} [.link {} (.string "address") [.text {} (.string "address")]]], .ruleRow {} 2]]
    ∃ text output, document.plainText "" = .ok (.string text) ∧ render {} document = .ok output ∧
      (Text.ink text).Sublist (Text.ink output) := by
  intro document
  have wellFormed : document.WellFormed := Node.everywhere_iff_nodes.mpr (by decide)
  have exportsAll : document.Everywhere (·.exportsAll = true) := Node.everywhere_iff_nodes.mpr (by decide)
  exact plainText_kept {} wellFormed rfl exportsAll

end OutlineWiki
