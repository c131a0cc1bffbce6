import OutlineWiki.Proofs.TableLines

/-!
# Cells that are not written

A table leaves out its special column and its special rows. Which these are is decided on the plain
texts of cells, so of the cells that have a plain text only layout instructions are left out: markers,
the rows that some of them introduce, and rows of cookies.
-/

namespace OutlineWiki

open Markup

namespace Node

/-- In a table with a special column every row of cells starts with an empty cell or a marker. -/
theorem firstText_of_markerColumn {found : Bool} {rows : List Node}
    (isColumn : markerColumn found rows = .ok true) {attributes : Attributes} {key : Nat}
    {cells : List Node} (inside : .tableRow attributes key cells ∈ rows) :
    ∃ text, firstText cells = .ok text ∧ (text = "" ∨ text ∈ columnMarkers) := by
  induction rows generalizing found with
  | nil => cases inside
  | cons row rest inductionHypothesis =>
    cases row with
    | ruleRow =>
      rcases List.mem_cons.mp inside with same | later
      · cases same
      · exact inductionHypothesis isColumn later
    | tableRow =>
      obtain ⟨text, first, isColumn⟩ := bind_eq_ok.mp isColumn
      split at isColumn
      case isTrue isMarker =>
        rcases List.mem_cons.mp inside with same | later
        · cases same
          exact ⟨text, first, .inr (List.contains_iff_mem.mp isMarker)⟩
        · exact inductionHypothesis isColumn later
      case isFalse =>
        split at isColumn
        case isTrue empty =>
          rcases List.mem_cons.mp inside with same | later
          · cases same
            exact ⟨text, first, .inl empty⟩
          · exact inductionHypothesis isColumn later
        case isFalse => cases isColumn
    | _ => cases isColumn

/-- The cells of a row of cookies are empty or cookies. -/
theorem cellText_of_cookieCells {found : Bool} {cells : List Node}
    (areCookies : cookieCells found cells = .ok true) {cell : Node} (inside : cell ∈ cells) :
    ∃ text, cell.cellText = .ok text ∧ (text = "" ∨ (Cookie.ofText? text).isSome) := by
  induction cells generalizing found with
  | nil => cases inside
  | cons first rest inductionHypothesis =>
    obtain ⟨text, first_read, areCookies⟩ := bind_eq_ok.mp areCookies
    split at areCookies
    case isTrue isCookie =>
      rcases List.mem_cons.mp inside with rfl | later
      · exact ⟨text, first_read, .inr isCookie⟩
      · exact inductionHypothesis areCookies later
    case isFalse =>
      split at areCookies
      case isTrue empty =>
        rcases List.mem_cons.mp inside with rfl | later
        · exact ⟨text, first_read, .inl empty⟩
        · exact inductionHypothesis areCookies later
      case isFalse => cases areCookies

/-- A special row starts with one of the markers that make it special, in a table with a special column,
or is a row of cookies. -/
theorem of_isSpecialRow {specialColumn : Bool} {attributes : Attributes} {key : Nat} {cells : List Node}
    (special : isSpecialRow specialColumn (.tableRow attributes key cells) = .ok true) :
    (specialColumn = true ∧ ∃ text, firstText cells = .ok text ∧ text ∈ rowMarkers) ∨
      cookieCells false cells = .ok true := by
  cases specialColumn with
  | false => exact .inr special
  | true =>
    obtain ⟨marked, marked_read, special⟩ := bind_eq_ok.mp special
    obtain ⟨text, first, contains⟩ := map_eq_ok.mp marked_read
    cases marked with
    | true => exact .inl ⟨rfl, text, first, List.contains_iff_mem.mp contains⟩
    | false => exact .inr special

end Node

/-- Why a cell with a given place in a row and a given plain text is a layout instruction of its
table. -/
inductive IsInstruction (rows cells : List Node) (index : Nat) (text : String) : Prop where
  /-- The first cell of a row of a table with a special column is a marker. -/
  | marker : Node.hasSpecialColumn rows = .ok true → index = 0 → text ∈ columnMarkers →
      IsInstruction rows cells index text
  /-- In such a table a row that starts with some of the markers is special as a whole. -/
  | markedRow (first : String) : Node.hasSpecialColumn rows = .ok true → Node.firstText cells = .ok first →
      first ∈ rowMarkers → IsInstruction rows cells index text
  /-- A cookie stands in a row whose cells are all empty or cookies. -/
  | cookie : (Cookie.ofText? text).isSome →
      (∀ other ∈ cells, ∃ value, other.cellText = .ok value ∧ (value = "" ∨ (Cookie.ofText? value).isSome)) →
      IsInstruction rows cells index text

/-- A place in a row where a cell without plain text counts as empty: the first one under a special
column, and every one in a row of cookies. -/
def CountsAsEmpty (rows cells : List Node) (index : Nat) : Prop :=
  (Node.hasSpecialColumn rows = .ok true ∧ index = 0) ∨ Node.cookieCells false cells = .ok true

/-- A cell at a place in its row is written: the row has a line among those of the table, and the line
is made of boxes of which the one at the cell's column is the cell's. -/
def IsWritten (layout : TableLayout) (width : Nat → Nat) (row : Node) (index : Nat) (cell : Node) : Prop :=
  ∃ line ∈ layout.tableLines Node.cellContent width,
    layout.rowLines Node.cellContent width (layout.isDrawn row) row = [line] ∧
      ∃ column, index = column + (if layout.specialColumn then 1 else 0) ∧
        (layout.cells row)[column]? = some cell ∧
          ∃ before after : List String, before.length = column ∧
            line = String.join (before ++ layout.alignedCell Node.cellContent width column cell :: after)

/-- A cell that its layout keeps is written in the line of its row. -/
theorem isWritten_of_cells {layout : TableLayout} (width : Nat → Nat) {attributes : Attributes} {key : Nat}
    {cells : List Node} {column : Nat} {cell : Node} (exported : .tableRow attributes key cells ∈ layout.rows)
    (found : (layout.cells (.tableRow attributes key cells))[column]? = some cell) :
    IsWritten layout width (.tableRow attributes key cells)
      (column + if layout.specialColumn then 1 else 0) cell := by
  obtain ⟨inside, isCell⟩ := List.getElem?_eq_some_iff.mp found
  let boxes := (layout.cells (.tableRow attributes key cells)).mapIdx
    (layout.alignedCell Node.cellContent width)
  have line : layout.rowLines Node.cellContent width (layout.isDrawn (.tableRow attributes key cells))
      (.tableRow attributes key cells) = [String.join boxes] :=
    layout.rowLines_of_cells _ _ _ rfl (List.ne_nil_of_length_pos (Nat.zero_lt_of_lt inside))
  have short : column < boxes.length := by simpa [boxes] using inside
  have box : boxes[column] = layout.alignedCell Node.cellContent width column cell := by
    simp [boxes, isCell]
  refine ⟨_, TableLayout.mem_tableLines exported line, line, column, rfl, found, boxes.take column, boxes.drop (column + 1), ?_, ?_⟩
  · simp [Nat.le_of_lt short]
  · rw [← box, List.getElem_cons_drop, List.take_append_drop]

/-- A cell of a row of content is written, or it is a layout instruction, or it counts as empty. -/
theorem written_or_instruction {rows : List Node} {layout : TableLayout} (width : Nat → Nat)
    (made : TableLayout.ofRows rows = .ok layout) (inline : ∀ row ∈ rows, row.isInlineRow = true)
    {attributes : Attributes} {key : Nat} {cells : List Node}
    (isRow : .tableRow attributes key cells ∈ rows) {index : Nat} {cell : Node}
    (isCell : cells[index]? = some cell) {text : String} (text_read : cell.cellText = .ok text) :
    IsWritten layout width (.tableRow attributes key cells) index cell ∨
      IsInstruction rows cells index text ∨ (text = "" ∧ CountsAsEmpty rows cells index) := by
  obtain ⟨column_read, -, -, -⟩ := TableLayout.of_ofRows made
  obtain ⟨special, special_read⟩ := Node.isSpecialRow_ok
    (Node.isReadableRow_of_isInlineRow (inline _ isRow)) layout.specialColumn
  cases special with
  | false =>
    have exported := (TableLayout.mem_rows_iff made).mpr ⟨isRow, special_read⟩
    cases hasColumn : layout.specialColumn with
    | false =>
      have found : (layout.cells (.tableRow attributes key cells))[index]? = some cell := by
        simpa [TableLayout.cells, hasColumn, Node.columnCells] using isCell
      have written := isWritten_of_cells width exported found
      rw [hasColumn] at written
      exact .inl written
    | true =>
      rw [hasColumn] at column_read
      cases index with
      | zero =>
        -- The first cell stands in the special column, which holds nothing but markers.
        obtain ⟨first, first_read, isMarker⟩ := Node.firstText_of_markerColumn column_read isRow
        have sameText : first = text := by
          cases cells with
          | nil => cases isCell
          | cons head rest =>
            obtain rfl := Option.some.inj isCell
            exact Except.ok.inj (first_read.symm.trans text_read)
        subst sameText
        rcases isMarker with empty | isMarker
        · exact .inr (.inr ⟨empty, .inl ⟨column_read, rfl⟩⟩)
        · exact .inr (.inl (.marker column_read rfl isMarker))
      | succ column =>
        have found : (layout.cells (.tableRow attributes key cells))[column]? = some cell := by
          simpa [TableLayout.cells, hasColumn, Node.columnCells, Nat.add_comm 1 column] using isCell
        have written := isWritten_of_cells width exported found
        rw [hasColumn] at written
        exact .inl written
  | true =>
    rcases Node.of_isSpecialRow special_read with ⟨hasColumn, first, first_read, isMarker⟩ | cookies
    · rw [hasColumn] at column_read
      exact .inr (.inl (.markedRow first column_read first_read isMarker))
    · have each : ∀ other ∈ cells, _ := fun other inside => Node.cellText_of_cookieCells cookies inside
      obtain ⟨value, value_read, emptyOrCookie⟩ := each cell (List.mem_of_getElem? isCell)
      obtain rfl := Except.ok.inj (value_read.symm.trans text_read)
      rcases emptyOrCookie with empty | isCookie
      · exact .inr (.inr ⟨empty, .inr cookies⟩)
      · exact .inr (.inl (.cookie isCookie each))

/-- Only layout instructions are left out of a table. A visit of a table of inline cells with columns
writes its lines, in every state, and a cell of a row of content is written in the line of its row, or it
is a marker under a special column, or its row is marked as special, or it is a cookie in a row of empty
cells and cookies. Of a cell without plain text nothing is said where such a cell counts as empty. -/
theorem only_instructions_left_out (options : Options) (attributes : Attributes) (key : Nat)
    {rows : List Node} (inline : ∀ row ∈ rows, row.isInlineRow = true) (around : Option Surroundings)
    (state : State) :
    ∃ layout width, TableLayout.ofRows rows = .ok layout ∧
      (layout.columnCount ≠ 0 →
        (∃ after, ((Node.table attributes key rows).writer (tableWriter .remembering) options around).run
          state = .ok [.string (String.join
            ((layout.tableLines Node.cellContent width).map (· ++ "\n")))] after) ∧
        ∀ rowAttributes rowKey cells, .tableRow rowAttributes rowKey cells ∈ rows →
          ∀ index cell, cells[index]? = some cell → ∃ text, cell.cellText = .ok text ∧
            (IsWritten layout width (.tableRow rowAttributes rowKey cells) index cell ∨
              IsInstruction rows cells index text ∨ (text = "" ∧ CountsAsEmpty rows cells index))) := by
  obtain ⟨layout, made⟩ := TableLayout.ofRows_inline inline
  obtain ⟨width, after, run⟩ := run_inlineTable options attributes key made
    (fun row inside => (Bool.and_eq_true_iff.mp (inline row inside)).2) around state
  refine ⟨layout, width, made, fun columns => ⟨⟨after, ?_⟩, ?_⟩⟩
  · rw [run, TableLayout.tablePieces, if_neg columns]
  · intro rowAttributes rowKey cells isRow index cell isCell
    obtain ⟨text, text_read⟩ :=
      (Node.isReadableRow_of_isInlineRow (inline _ isRow)).2 cell (List.mem_of_getElem? isCell)
    exact ⟨text, text_read, written_or_instruction width made inline isRow isCell text_read⟩

/-- Under a special column the markers and the row of cookies are left out, and the content is written. -/
theorem only_instructions_left_out_marked :
    let cell : String → Node := fun text => .tableCell {} [.text {} (.string text)]
    let rows : List Node :=
      [.tableRow {} 1 [cell "#", cell "a"], .tableRow {} 2 [cell "", cell "<5>"],
        .tableRow {} 3 [cell "!", cell "b"]]
    ∃ layout width, TableLayout.ofRows rows = .ok layout ∧
      (layout.columnCount ≠ 0 →
        (∃ after, ((Node.table {} 0 rows).writer (tableWriter .remembering) {} none).run {} =
          .ok [.string (String.join
            ((layout.tableLines Node.cellContent width).map (· ++ "\n")))] after) ∧
        ∀ rowAttributes rowKey cells, .tableRow rowAttributes rowKey cells ∈ rows →
          ∀ index cell, cells[index]? = some cell → ∃ text, cell.cellText = .ok text ∧
            (IsWritten layout width (.tableRow rowAttributes rowKey cells) index cell ∨
              IsInstruction rows cells index text ∨ (text = "" ∧ CountsAsEmpty rows cells index))) := by
  intro cell rows
  exact only_instructions_left_out {} {} 0 (by decide) none {}

/-- What a cell shows is not what it is judged by. Under a special column a marker in strong type and an
image are left out, and in a row of cookies an image is, although neither shows a marker or a cookie. -/
theorem shown_cells_left_out :
    let cell : String → Node := fun text => .tableCell {} [.text {} (.string text)]
    let strong : Node := .tableCell {} [.styled {} .strong [.text {} (.string "#")]]
    let image : Node := .tableCell {} [.image {} (.string "p.png") (.string "")]
    let rows : List Node :=
      [.tableRow {} 1 [strong, cell "a", cell "b"], .tableRow {} 2 [image, cell "c", cell "d"],
        .tableRow {} 3 [cell "", image, cell "<5>"]]
    strong.cellContent = "'''#'''" ∧ image.cellContent = "[[Image(p.png)]]" ∧
      (∀ shown ∈ [strong.cellContent, image.cellContent],
        shown ∉ columnMarkers ∧ shown ∉ rowMarkers ∧ Cookie.ofText? shown = none) ∧
      (∀ row ∈ rows, row.isInlineRow = true) ∧
        render {} (.document {} [.table {} 0 rows]) = .ok "|| a || b     ||\n|| c || d     ||\n" := by
  decide +kernel

end OutlineWiki
