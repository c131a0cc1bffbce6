import OutlineWiki.Proofs.InlineText
import OutlineWiki.Proofs.NodeAgreement
import OutlineWiki.Proofs.OneLine
import OutlineWiki.Proofs.Outcomes

/-!
# The text of a table

What a table writes is given here by its layout alone: the contents of its cells and a width for each
column. A visit of the table writes this text whenever its cells have these contents and its questions
are answered with these widths, however the answers are found.
-/

namespace OutlineWiki

open Markup

/-- The cells of a row by column are cells of the row. -/
theorem Node.columnCells_subset (special : Bool) (row : Node) : row.columnCells special ⊆ row.children := by
  intro cell inside
  cases row with
  | tableRow attributes key cells =>
    simp only [columnCells] at inside
    split at inside
    · exact List.mem_of_mem_drop inside
    · exact inside
  | _ => cases inside

namespace TableLayout

/-! ## Own widths -/

/-- The width that a cell sets as a numeric cookie. -/
def cookieWidth? (cell : Node) : Option Nat :=
  match cell.cellText with
  | .ok text => (Cookie.ofText? text).bind (·.width)
  | .error _ => none

/-- The rows of a table that only carry layout instructions. -/
def specialRows (layout : TableLayout) (rows : List Node) : List Node :=
  select true layout.special rows

/-- The number of the first numeric cookie in a column of the special rows. -/
def firstCookie? (layout : TableLayout) (rows : List Node) (column : Nat) : Option Nat :=
  (layout.specialRows rows).findSome? fun row => (layout.cells row)[column]?.bind cookieWidth?

/-- The contents of a column, from the exported rows that have a cell there. A rule has none. -/
def columnContents (layout : TableLayout) (content : Node → String) (column : Nat) : List String :=
  layout.rows.filterMap fun row => (layout.cells row)[column]?.map content

/-- The display width of the widest text, zero without any. -/
def widest (texts : List String) : Nat :=
  (texts.map Text.displayWidth).foldr max 0

/-- The width of a column by itself: its first cookie's, or else that of its widest content. -/
def ownWidth (layout : TableLayout) (rows : List Node) (content : Node → String) (column : Nat) : Nat :=
  (layout.firstCookie? rows column).getD (widest (layout.columnContents content column))

/-- A column keeps the width it has, or else takes the one that a cell sets. -/
theorem lookup_addCookie (cookies : List (Nat × Nat)) (width? : Option Nat) (first column : Nat) :
    (match width?, cookies.lookup first with
      | some width, none => cookies ++ [(first, width)]
      | _, _ => cookies).lookup column =
        (cookies.lookup column).or (if column = first then width? else none) := by
  by_cases same : column = first
  · subst same
    cases known : cookies.lookup column with
    | some width => cases width? <;> simp [known]
    | none => cases width? <;> simp [known, List.lookup_append]
  · have beside : (column == first) = false := beq_eq_false_iff_ne.mpr same
    cases width? with
    | none => simp [same]
    | some width => cases cookies.lookup first <;> simp [List.lookup_append, List.lookup_cons, beside, same]

/-- Reading the cookies of a row adds the width of a column's cell where none was known. -/
theorem lookup_addCookies {cells : List Node} {cookies result : List (Nat × Nat)} {first : Nat}
    (isRead : addCookies cookies first cells = .ok result) (column : Nat) :
    result.lookup column = (cookies.lookup column).or
      (if column < first then none else cells[column - first]?.bind cookieWidth?) := by
  induction cells generalizing cookies first with
  | nil =>
    obtain rfl := Except.ok.inj isRead
    simp
  | cons cell rest inductionHypothesis =>
    obtain ⟨text, text_read, isRead⟩ := bind_eq_ok.mp isRead
    have own : (Cookie.ofText? text).bind (·.width) = cookieWidth? cell := by
      rw [cookieWidth?, text_read]
    have added := lookup_addCookie cookies ((Cookie.ofText? text).bind (·.width)) first column
    rw [inductionHypothesis isRead]
    refine (congrArg (fun known => Option.or known _) added).trans ?_
    rw [own, Option.or_assoc]
    congr 1
    rcases Nat.lt_trichotomy column first with before | rfl | after
    · simp [before, Nat.lt_succ_of_lt before, Nat.ne_of_lt before]
    · simp
    · obtain ⟨distance, rfl⟩ := Nat.exists_eq_add_of_lt after
      have there : first + distance + 1 - first = distance + 1 := by omega
      have next : first + distance + 1 - (first + 1) = distance := by omega
      have notBefore : ¬ first + distance + 1 < first := by omega
      have notNext : ¬ first + distance + 1 < first + 1 := by omega
      have notHere : ¬ first + distance + 1 = first := by omega
      simp [there, next, notBefore, notNext, notHere]

/-- Reading the special rows adds the width of a column's first cookie where none was known. -/
theorem lookup_readSpecialRows {special : Bool} {rows : List Node} {cookies : List (Nat × Nat)}
    {markers : List String} {result : List (Nat × Nat) × List String}
    (isRead : readSpecialRows special cookies markers rows = .ok result) (column : Nat) :
    result.1.lookup column = (cookies.lookup column).or
      (rows.findSome? fun row => (row.columnCells special)[column]?.bind cookieWidth?) := by
  induction rows generalizing cookies markers with
  | nil =>
    obtain rfl := Except.ok.inj isRead
    simp
  | cons row rest inductionHypothesis =>
    have rest_read : ∀ markers, (do
        let cookies ← addCookies cookies 0 (row.columnCells special)
        readSpecialRows special cookies markers rest) = Except.ok result →
          result.1.lookup column = (cookies.lookup column).or
            ((row :: rest).findSome? fun row => (row.columnCells special)[column]?.bind cookieWidth?) := by
      intro markers isRead
      obtain ⟨added, cookies_read, isRead⟩ := bind_eq_ok.mp isRead
      rw [inductionHypothesis isRead, lookup_addCookies cookies_read, Option.or_assoc,
        List.findSome?_cons]
      congr 1
      cases (row.columnCells special)[column]?.bind cookieWidth? <;> simp
    unfold readSpecialRows at isRead
    -- Whichever way the markers are found, the cookies are read after them.
    split at isRead
    · obtain ⟨text, _, isRead⟩ := bind_eq_ok.mp isRead
      split at isRead
      · obtain ⟨texts, _, isRead⟩ := bind_eq_ok.mp isRead
        exact rest_read texts isRead
      · exact rest_read markers isRead
    · exact rest_read markers isRead

/-- What the parts of a layout are, for rows that have one. -/
theorem of_ofRows {rows : List Node} {layout : TableLayout} (made : ofRows rows = .ok layout) :
    Node.hasSpecialColumn rows = .ok layout.specialColumn ∧
      rows.mapM (Node.isSpecialRow layout.specialColumn) = .ok layout.special ∧
      layout.rows = select false layout.special rows ∧
      readSpecialRows layout.specialColumn [] [] (layout.specialRows rows) =
        .ok (layout.cookies, layout.markers) := by
  obtain ⟨specialColumn, column_read, made⟩ := bind_eq_ok.mp made
  obtain ⟨special, special_read, made⟩ := bind_eq_ok.mp made
  obtain ⟨read, rows_read, made⟩ := bind_eq_ok.mp made
  obtain rfl := pure_eq_ok.mp made
  exact ⟨column_read, special_read, rfl, rows_read⟩

/-- What is selected from a list keeps its order. -/
theorem select_sublist {Item : Type} (status : Bool) (special : List Bool) (items : List Item) :
    (select status special items).Sublist items := by
  have entries : ((special.zip items).map (·.2)).Sublist items := by
    induction special generalizing items with
    | nil => exact List.nil_sublist items
    | cons flag rest inductionHypothesis =>
      cases items with
      | nil => exact List.nil_sublist []
      | cons item others => exact (inductionHypothesis others).cons_cons item
  exact (List.filter_sublist.map _).trans entries

/-- The exported rows are rows of the table, in their order. -/
theorem rows_sublist {rows : List Node} {layout : TableLayout} (made : ofRows rows = .ok layout) :
    layout.rows.Sublist rows := by
  obtain ⟨-, -, exported, -⟩ := of_ofRows made
  rw [exported]
  exact select_sublist false layout.special rows

/-- An item with the given status is selected, before what is selected from the others. -/
theorem select_cons {Item : Type} (status flag : Bool) (flags : List Bool) (item : Item)
    (rest : List Item) :
    select status (flag :: flags) (item :: rest) =
      if flag = status then item :: select status flags rest else select status flags rest := by
  by_cases same : flag = status <;> simp [select, same]

/-- What is selected from a list are the items told to have the given status, in their order. -/
theorem select_eq_filter {Item : Type} {tell : Item → Except Failure Bool} {test : Item → Bool}
    {items : List Item} {special : List Bool} (told : items.mapM tell = .ok special) (status : Bool)
    (tests : ∀ item ∈ items, test item = true ↔ tell item = .ok status) :
    select status special items = items.filter test := by
  induction items generalizing special with
  | nil => cases special <;> rfl
  | cons first rest inductionHypothesis =>
    rw [List.mapM_cons] at told
    obtain ⟨flag, first_told, told⟩ := bind_eq_ok.mp told
    obtain ⟨flags, rest_told, told⟩ := bind_eq_ok.mp told
    obtain rfl := pure_eq_ok.mp told
    have later := inductionHypothesis rest_told fun item inside => tests item (List.mem_cons_of_mem first inside)
    have isFirst : test first = true ↔ flag = status := by
      rw [tests first List.mem_cons_self, first_told, Except.ok.injEq]
    rw [select_cons, List.filter_cons, later]
    simp only [isFirst]

/-- What is selected from a list are the items that were told to have the given status. -/
theorem mem_select_iff {Item : Type} {tell : Item → Except Failure Bool} {items : List Item}
    {special : List Bool} (told : items.mapM tell = .ok special) (status : Bool) {item : Item} :
    item ∈ select status special items ↔ item ∈ items ∧ tell item = .ok status := by
  classical
  rw [select_eq_filter told status fun item _ => decide_eq_true_iff, List.mem_filter, decide_eq_true_iff]

/-- When all items have the given status, all of them are selected. -/
theorem select_all {Item : Type} {tell : Item → Except Failure Bool} {items : List Item}
    {special : List Bool} (told : items.mapM tell = .ok special) {status : Bool}
    (same : ∀ item ∈ items, tell item = .ok status) : select status special items = items := by
  classical
  rw [select_eq_filter told status fun item _ => decide_eq_true_iff, List.filter_eq_self]
  exact fun item inside => decide_eq_true (same item inside)

/-- The exported rows of a table are those that are not special. -/
theorem mem_rows_iff {rows : List Node} {layout : TableLayout} (made : ofRows rows = .ok layout)
    {row : Node} :
    row ∈ layout.rows ↔ row ∈ rows ∧ Node.isSpecialRow layout.specialColumn row = .ok false := by
  obtain ⟨-, special_read, exported, -⟩ := of_ofRows made
  rw [exported]
  exact mem_select_iff special_read false

/-- A table has as many rows as it exports rows of content. -/
theorem rowCount_eq {rows : List Node} {layout : TableLayout} (made : ofRows rows = .ok layout) :
    layout.rowCount = (layout.rows.filter fun row => !row.isRule).length := by
  obtain ⟨_, _, made⟩ := bind_eq_ok.mp made
  obtain ⟨_, _, made⟩ := bind_eq_ok.mp made
  obtain ⟨_, _, made⟩ := bind_eq_ok.mp made
  obtain rfl := pure_eq_ok.mp made
  rfl

/-- A table has as many columns as its first row of content, or without one its first special row. -/
theorem columnCount_eq {rows : List Node} {layout : TableLayout} (made : ofRows rows = .ok layout) :
    layout.columnCount =
      (((layout.rows.filter fun row => !row.isRule) ++ layout.specialRows rows).head?.map fun shape =>
        (layout.cells shape).length).getD 0 := by
  obtain ⟨specialColumn, _, made⟩ := bind_eq_ok.mp made
  obtain ⟨special, _, made⟩ := bind_eq_ok.mp made
  obtain ⟨read, _, made⟩ := bind_eq_ok.mp made
  obtain rfl := pure_eq_ok.mp made
  simp only [specialRows, cells]
  cases (select false special rows).filter (fun row => !row.isRule) ++ select true special rows <;> rfl

/-- The width that a layout's cookies set for a column is that of the column's first cookie. -/
theorem cookie?_eq_firstCookie? {rows : List Node} {layout : TableLayout}
    (made : ofRows rows = .ok layout) (column : Nat) :
    layout.cookie? column = layout.firstCookie? rows column := by
  obtain ⟨-, -, -, cookies_read⟩ := of_ofRows made
  have found := lookup_readSpecialRows cookies_read column
  rw [List.lookup_nil, Option.none_or] at found
  exact found

/-! ## Lines -/

variable (layout : TableLayout) (content : Node → String) (width : Nat → Nat)

/-- A cell: its border, its content, the spaces up to the width of its column, its other border. -/
def alignedCell (column : Nat) (cell : Node) : String :=
  (if layout.startsGroup column then "|| " else " ") ++ content cell ++
    Text.replicate (width column - Text.displayWidth (content cell)) ' ' ++ " ||"

/-- A line with a run of a character for each column. -/
def alignedRuns (character : Char) : String :=
  "||" ++ "||".intercalate ((List.range layout.columnCount).map fun column =>
    Text.replicate (max 3 (width column)) character) ++ "||"

/-- The lines of a row: one with its cells if it has any, one for a rule that is drawn, else none. -/
def rowLines (drawn : Bool) : Node → List String
  | .ruleRow .. => if drawn then [layout.alignedRuns width '-'] else []
  | row =>
    match layout.cells row with
    | [] => []
    | cells => [String.join (cells.mapIdx (layout.alignedCell content width))]

/-- A rule has its line if it is drawn, and any other row that has cells has one line of them. -/
theorem rowLines_eq (drawn : Bool) (row : Node) :
    layout.rowLines content width drawn row =
      if row.isRule then (if drawn then [layout.alignedRuns width '-'] else [])
      else if (layout.cells row).isEmpty then []
      else [String.join ((layout.cells row).mapIdx (layout.alignedCell content width))] := by
  cases row with
  | ruleRow => rfl
  | _ =>
    simp only [rowLines, Node.isRule, Bool.false_eq_true, if_false]
    generalize layout.cells _ = cells
    cases cells <;> rfl

/-- A row of cells that is no rule has one line, of its cells in their boxes. -/
theorem rowLines_of_cells (drawn : Bool) {row : Node} (noRule : row.isRule = false)
    (some : layout.cells row ≠ []) :
    layout.rowLines content width drawn row =
      [String.join ((layout.cells row).mapIdx (layout.alignedCell content width))] := by
  rw [rowLines_eq, noRule, List.isEmpty_eq_false_iff.mpr some]
  rfl

/-- The lines of a dummy header, for a table with at most one row of content. -/
def headerLines : List String :=
  if layout.rowCount ≤ 1 then [layout.alignedRuns width ' ', layout.alignedRuns width '-'] else []

/-- Whether a row is drawn as a line if it is a rule: the second exported row is, by its key. -/
def isDrawn (row : Node) : Bool :=
  match layout.rowIndex row with
  | .ok index => index == drawnRuleIndex
  | .error _ => false

/-- An exported row has a position. -/
theorem rowIndex_of_mem {layout : TableLayout} {row : Node} (inside : row ∈ layout.rows) :
    ∃ index, layout.rowIndex row = .ok index := by
  rw [rowIndex]
  cases position : layout.rows.findIdx? fun other => other.rowKey? == row.rowKey? with
  | some index => exact ⟨index, rfl⟩
  | none =>
    have nowhere := List.findIdx?_eq_none_iff.mp position row inside
    rw [beq_self_eq_true] at nowhere
    cases nowhere

/-- The lines of a table. -/
def tableLines : List String :=
  layout.headerLines width ++
    layout.rows.flatMap fun row => layout.rowLines content width (layout.isDrawn row) row

/-- The line of an exported row is a line of the table. -/
theorem mem_tableLines {layout : TableLayout} {content : Node → String} {width : Nat → Nat} {row : Node}
    {line : String} (exported : row ∈ layout.rows)
    (isLine : layout.rowLines content width (layout.isDrawn row) row = [line]) :
    line ∈ layout.tableLines content width :=
  List.mem_append_right _ (List.mem_flatMap.mpr ⟨row, exported, isLine ▸ List.mem_cons_self⟩)

/-- The pieces of a table: its lines with a line feed after each, or nothing without columns. -/
def tablePieces : List Json :=
  if layout.columnCount = 0 then []
  else [.string (String.join ((layout.tableLines content width).map (· ++ "\n")))]

end TableLayout

namespace Markup

open TableLayout

variable {form : TableForm} {options : Options} {condition : Condition} {content : Node → String}
  {layout : TableLayout} {rows : List Node} {width : Nat → Nat} {around : Surroundings}

/-! ## Measuring -/

/-- Cells have given contents, whatever stands around them and wherever the condition is met. -/
def HaveContents (form : TableForm) (options : Options) (condition : Condition)
    (content : Node → String) (cells : List Node) : Prop :=
  ∀ cell ∈ cells, ∀ around,
    Agree condition condition (capture [cell.writer form options] around) (pure (content cell))

/-- The writers of nodes, one for each. -/
theorem writers_eq_map (nodes : List Node) :
    Node.writers form options nodes = nodes.map (Node.writer form options) := by
  induction nodes with
  | nil => simp only [Node.writers, List.map_nil]
  | cons node rest inductionHypothesis => simp only [Node.writers, inductionHypothesis, List.map_cons]

/-- The writers of an item's children: those of lists as they are, all others on lines. -/
theorem itemWriters_eq_map (nodes : List Node) :
    Node.itemWriters form options nodes = nodes.map fun node =>
      match node with
      | .list .. => node.writer form options
      | _ => lineWriter (node.writer form options) := by
  induction nodes with
  | nil => rw [Node.itemWriters, List.map_nil]
  | cons node rest inductionHypothesis =>
    cases node with
    | list => simp only [Node.itemWriters, List.map_cons, inductionHypothesis, Node.writer]
    | _ => simp only [Node.itemWriters, List.map_cons, inductionHypothesis]

/-- The cells of a row, by their writers. -/
theorem cellWriters_eq_map (rows : List Node) :
    Node.cellWriters form options rows =
      rows.map fun row => Node.writers form options (row.columnCells false) := by
  induction rows with
  | nil => simp only [Node.cellWriters, List.map_nil]
  | cons row rest inductionHypothesis =>
    rw [List.map_cons, ← inductionHypothesis]
    cases row <;> simp [Node.cellWriters, Node.columnCells, Node.writers]

/-- Selecting from changed items is changing the selected ones. -/
theorem select_map {Item Changed : Type} (status : Bool) (special : List Bool) (items : List Item)
    (change : Item → Changed) :
    select status special (items.map change) = (select status special items).map change := by
  simp only [select, List.zip_map_right, List.filter_map, List.map_map]
  rfl

/-- What stands for the cells of the exported rows stands for the cells by column. -/
theorem exportedCells_map {Cell : Type} (exported : layout.rows = select false layout.special rows)
    (change : Node → Cell) :
    exportedCells layout (rows.map fun row => (row.columnCells false).map change) =
      layout.rows.map fun row => (layout.cells row).map change := by
  rw [exportedCells, TableLayout.exported, select_map, List.map_map, exported]
  refine List.map_congr_left fun row _ => ?_
  cases special : layout.specialColumn <;> cases row <;> simp [TableLayout.cells, special, Node.columnCells]

/-- Exported rows hold cells of the rows. -/
theorem mem_of_mem_exportedCells {Cell : Type} {cells : List (List Cell)} {row : List Cell} {cell : Cell}
    (isExported : row ∈ exportedCells layout cells) (isCell : cell ∈ row) :
    ∃ whole ∈ cells, cell ∈ whole := by
  obtain ⟨whole, inside, rfl⟩ := List.mem_map.mp isExported
  refine ⟨whole, (TableLayout.select_sublist false layout.special cells).subset inside, ?_⟩
  split at isCell
  · exact List.mem_of_mem_drop isCell
  · exact isCell

/-- The writers of the exported rows' cells are those of the cells by column. -/
theorem exportedCells_eq (exported : layout.rows = select false layout.special rows) :
    exportedCells layout (Node.cellWriters form options rows) =
      layout.rows.map fun row => Node.writers form options (layout.cells row) := by
  simp only [cellWriters_eq_map, writers_eq_map, exportedCells_map exported]

/-- The measure of a column is the width of its widest content. -/
theorem agree_measureColumn {rows : List Node}
    (contents : ∀ row ∈ rows, HaveContents form options condition content (layout.cells row))
    (column : Nat) (around : Option Surroundings) :
    Agree condition condition
      (measureColumn column around (rows.map fun row => Node.writers form options (layout.cells row)))
      (pure (widest (rows.filterMap fun row => (layout.cells row)[column]?.map content))) := by
  induction rows with
  | nil => exact .pure 0
  | cons row rest inductionHypothesis =>
    have later := inductionHypothesis fun other inside => contents other (List.mem_cons_of_mem row inside)
    have cell_written : (Node.writers form options (layout.cells row))[column]? =
        (layout.cells row)[column]?.map (Node.writer form options) := by
      rw [writers_eq_map, List.getElem?_map]
    simp only [List.map_cons, measureColumn, cell_written]
    cases found : (layout.cells row)[column]? with
    | none =>
      rw [List.filterMap_cons_none (by rw [found, Option.map_none]), pure_bind]
      refine later.bind_pure ?_
      rw [Nat.zero_max]
      exact .pure _
    | some cell =>
      have inside : cell ∈ layout.cells row := List.mem_of_getElem? found
      have cell_captured := contents row List.mem_cons_self cell inside around
      rw [List.filterMap_cons_some (by rw [found, Option.map_some])]
      refine (cell_captured.map Text.displayWidth).bind_pure ?_
      exact later.bind_pure (.pure _)

/-! ## Questions -/

/-- When each question is answered with a width, a row of questions is. -/
theorem agree_columnWidthsFrom
    (asks : ∀ column, Agree condition condition (around.width column) (pure (width column)))
    (first count : Nat) :
    Agree condition condition (columnWidthsFrom around first count)
      (pure ((List.range' first count).map width)) := by
  induction count generalizing first with
  | zero => exact .pure []
  | succ count inductionHypothesis =>
    simp only [columnWidthsFrom, List.range'_succ, List.map_cons]
    exact (asks first).bind_pure ((inductionHypothesis (first + 1)).bind_pure (.pure _))

/-- A synthesized line has the runs of the columns' widths. -/
theorem runLine_eq (layout : TableLayout) (width : Nat → Nat) (character : Char) :
    runLine character ((List.range layout.columnCount).map width) =
      layout.alignedRuns width character := by
  rw [runLine, List.map_map]
  rfl

/-- A box is its border, its content, the spaces up to a width and its other border. -/
theorem cellBox_eq (layout : TableLayout) (content : Node → String) (width : Nat → Nat) (column : Nat)
    (cell : Node) :
    cellBox (layout.startsGroup column) (content cell) (width column) =
      layout.alignedCell content width column cell := by
  rw [cellBox, Text.padToWidth, alignedCell, ← String.append_assoc]

/-- A cell is written with the spaces up to the width of its column. -/
theorem agree_writeCells
    (asks : ∀ column, Agree condition condition (around.width column) (pure (width column)))
    {cells : List Node} (contents : HaveContents form options condition content cells) (first : Nat) :
    Agree condition condition (writeCells around first (Node.writers form options cells))
      (pure ((cells.mapIdx fun column => around.layout.alignedCell content width (first + column)).map
        .string)) := by
  induction cells generalizing first with
  | nil =>
    simp only [Node.writers, writeCells]
    exact .pure []
  | cons cell rest inductionHypothesis =>
    have cell_captured := contents cell List.mem_cons_self (some around)
    have later := inductionHypothesis (fun other inside => contents other (List.mem_cons_of_mem cell inside))
      (first + 1)
    simp only [Node.writers, writeCells, List.mapIdx_cons, List.map_cons, Nat.add_zero]
    refine cell_captured.bind_pure ((asks first).bind_pure (later.bind_pure ?_))
    have shifted : (fun column => around.layout.alignedCell content width (first + 1 + column)) =
        fun column => around.layout.alignedCell content width (first + (column + 1)) := by
      funext column
      rw [Nat.add_assoc, Nat.add_comm 1 column]
    rw [shifted, cellBox_eq]
    exact .pure _

/-! ## Rows -/

/-- A writer of texts on one line makes one block of them. -/
theorem agree_block_texts {writer : Writer} {around : Option Surroundings} {texts : List String}
    (written : Agree condition condition (writer around) (pure (texts.map .string)))
    (one : ∀ text ∈ texts, Text.OneLine text) :
    Agree condition condition (block writer around) (pure (String.join texts)) := by
  have joined : settle (joinPieces (texts.map .string ++ [])) = pure (String.join texts) := by
    rw [List.append_nil, joinPieces, stringsOf_map_string]
    rfl
  have captured : Agree condition condition (capture [writer] around) (pure (String.join texts)) := by
    simp only [capture, inSequence, pure_bind, bind_assoc]
    refine written.bind_pure ?_
    rw [joined]
    exact .pure _
  refine captured.bind_pure ?_
  rw [Text.stripNewlinesEnd_oneLine (Text.oneLine_join one)]
  exact .pure _

/-- A cell with content on one line is on one line. -/
theorem oneLine_alignedCell (layout : TableLayout) (width : Nat → Nat) (column : Nat) {cell : Node}
    (one : Text.OneLine (content cell)) :
    Text.OneLine (layout.alignedCell content width column cell) := by
  refine ((Text.OneLine.append ?_ one).append (Text.oneLine_replicate _ (by decide))).append ?_
  · split <;> simp [Text.OneLine]
  · simp [Text.OneLine]

/-- A line of runs for the columns is on one line. -/
theorem oneLine_alignedRuns (layout : TableLayout) (width : Nat → Nat) {character : Char}
    (other : character ≠ '\n') : Text.OneLine (layout.alignedRuns width character) := by
  rw [← runLine_eq]
  exact Text.oneLine_runLine other _

/-- The lines of a dummy header are lines of runs. -/
theorem headerLines_shape (layout : TableLayout) (width : Nat → Nat) :
    ∀ line ∈ layout.headerLines width,
      ∃ character, character ≠ '\n' ∧ line = layout.alignedRuns width character := by
  intro line inside
  unfold headerLines at inside
  split at inside
  · simp only [List.mem_cons, List.not_mem_nil, or_false] at inside
    rcases inside with isBlank | isRule
    · exact ⟨' ', by decide, isBlank⟩
    · exact ⟨'-', by decide, isRule⟩
  · cases inside

/-- A row has one line at most, and what it has is on one line and shows something. -/
theorem rowLines_shape (layout : TableLayout) (width : Nat → Nat) (drawn : Bool) (row : Node)
    (one : ∀ cell, Text.OneLine (content cell)) :
    layout.rowLines content width drawn row = [] ∨
      ∃ line, layout.rowLines content width drawn row = [line] ∧ Text.OneLine line ∧ line ≠ "" := by
  rw [rowLines_eq]
  split
  · split
    · refine .inr ⟨_, rfl, oneLine_alignedRuns layout width (by decide), ?_⟩
      rw [← runLine_eq]
      exact Text.runLine_ne_empty _ _
    · exact .inl rfl
  · cases layout.cells row with
    | nil => exact .inl rfl
    | cons cell rest =>
      refine .inr ⟨_, rfl, Text.oneLine_join ?_, ?_⟩
      · intro text inside
        obtain ⟨column, _, rfl⟩ := List.mem_mapIdx.mp inside
        exact oneLine_alignedCell layout width column (one _)
      · intro empty
        have nothing := congrArg String.toList empty
        simp [List.mapIdx_cons, alignedCell] at nothing

/-- A row of cells in a table writes its cells by column. -/
theorem writer_tableRow (form : TableForm) (options : Options) (around : Surroundings)
    (attributes : Attributes) (key : Nat) (cells : List Node) :
    (Node.tableRow attributes key cells).writer form options (some around) =
      writeCells around 0
        (Node.writers form options (around.layout.cells (.tableRow attributes key cells))) := by
  have byColumn : (if around.layout.specialColumn then (Node.writers form options cells).drop 1
      else Node.writers form options cells) =
        Node.writers form options (around.layout.cells (.tableRow attributes key cells)) := by
    cases special : around.layout.specialColumn <;>
      simp [TableLayout.cells, special, Node.columnCells, writers_eq_map]
  simp only [Node.writer, rowWriter, byColumn]

/-- A row of cells writes its line, if it has one. -/
theorem agree_cellRow
    (asks : ∀ column, Agree condition condition (around.width column) (pure (width column)))
    {attributes : Attributes} {key : Nat} {cells : List Node} (drawn : Bool)
    (contents : HaveContents form options condition content
      (around.layout.cells (.tableRow attributes key cells)))
    (one : ∀ cell, Text.OneLine (content cell)) :
    Agree condition condition
      (block ((Node.tableRow attributes key cells).writer form options) (some around))
      (pure (String.join (around.layout.rowLines content width drawn (.tableRow attributes key cells)))) := by
  have boxes := agree_writeCells asks contents 0
  rw [← writer_tableRow] at boxes
  have joined : String.join (around.layout.rowLines content width drawn (.tableRow attributes key cells)) =
      String.join ((around.layout.cells (.tableRow attributes key cells)).mapIdx
        fun column => around.layout.alignedCell content width (0 + column)) := by
    simp only [rowLines, Nat.zero_add]
    cases around.layout.cells (.tableRow attributes key cells) <;> simp
  rw [joined]
  refine agree_block_texts boxes fun text inside => ?_
  obtain ⟨column, _, rfl⟩ := List.mem_mapIdx.mp inside
  exact oneLine_alignedCell _ _ _ (one _)

/-- A rule among the exported rows writes a line if it is drawn. -/
theorem agree_ruleRow
    (asks : ∀ column, Agree condition condition (around.width column) (pure (width column)))
    {attributes : Attributes} {key : Nat} (inside : .ruleRow attributes key ∈ around.layout.rows) :
    Agree condition condition (block ((Node.ruleRow attributes key).writer form options) (some around))
      (pure (String.join (around.layout.rowLines content width
        (around.layout.isDrawn (.ruleRow attributes key)) (.ruleRow attributes key)))) := by
  obtain ⟨index, position⟩ := rowIndex_of_mem inside
  have whole := agree_columnWidthsFrom asks 0 around.layout.columnCount
  rw [← List.range_eq_range'] at whole
  have line : ruleLine ((List.range around.layout.columnCount).map width) =
      around.layout.alignedRuns width '-' := runLine_eq _ _ _
  by_cases drawn : index = drawnRuleIndex
  · have isDrawn : around.layout.isDrawn (.ruleRow attributes key) = true := by
      simp [TableLayout.isDrawn, position, drawn]
    have written : Agree condition condition ((Node.ruleRow attributes key).writer form options (some around))
        (pure ([around.layout.alignedRuns width '-'].map .string)) := by
      simp only [Node.writer, ruleWriter, position, settle, pure_bind, if_pos drawn]
      refine whole.bind_pure ?_
      rw [line]
      exact .pure _
    rw [isDrawn]
    refine agree_block_texts written fun text isLine => ?_
    obtain rfl := List.mem_singleton.mp isLine
    exact oneLine_alignedRuns _ _ (by decide)
  · have notDrawn : around.layout.isDrawn (.ruleRow attributes key) = false := by
      simp [TableLayout.isDrawn, position, drawn]
    have written : Agree condition condition ((Node.ruleRow attributes key).writer form options (some around))
        (pure (([] : List String).map .string)) := by
      simp only [Node.writer, ruleWriter, position, settle, pure_bind, if_neg drawn]
      exact .pure _
    have nothing : ∀ text ∈ ([] : List String), Text.OneLine text := by simp
    rw [notDrawn]
    exact agree_block_texts written nothing

/-- The exported rows write their lines one after the other. -/
theorem agree_rowBlocks
    (asks : ∀ column, Agree condition condition (around.width column) (pure (width column)))
    {exported : List Node} (rows : ∀ row ∈ exported, row.rowKey?.isSome ∧ row ∈ around.layout.rows)
    (contents : ∀ row ∈ exported, HaveContents form options condition content (around.layout.cells row))
    (one : ∀ cell, Text.OneLine (content cell)) :
    Agree condition condition (blocks (exported.map (Node.writer form options)) (some around))
      (pure (exported.map fun row => String.join
        (around.layout.rowLines content width (around.layout.isDrawn row) row))) := by
  induction exported with
  | nil => exact .pure []
  | cons row rest inductionHypothesis =>
    have later := inductionHypothesis (fun other inside => rows other (List.mem_cons_of_mem row inside))
      fun other inside => contents other (List.mem_cons_of_mem row inside)
    obtain ⟨isRow, inside⟩ := rows row List.mem_cons_self
    have first : Agree condition condition (block (row.writer form options) (some around))
        (pure (String.join (around.layout.rowLines content width (around.layout.isDrawn row) row))) := by
      cases row with
      | tableRow attributes key cells => exact agree_cellRow asks _ (contents _ List.mem_cons_self) one
      | ruleRow attributes key => exact agree_ruleRow asks inside
      | _ => cases isRow
    simp only [List.map_cons, blocks]
    exact first.bind_pure (later.bind_pure (.pure _))

/-! ## Tables -/

/-- Every row of a table that has a layout is a row. -/
theorem areRows_of_ofRows (made : TableLayout.ofRows rows = .ok layout) :
    ∀ row ∈ rows, row.rowKey?.isSome := by
  obtain ⟨-, special_read, -, -⟩ := of_ofRows made
  clear made
  generalize layout.special = special at special_read
  induction rows generalizing special with
  | nil => simp
  | cons row rest inductionHypothesis =>
    rw [List.mapM_cons] at special_read
    obtain ⟨status, status_read, special_read⟩ := bind_eq_ok.mp special_read
    obtain ⟨others, others_read, -⟩ := bind_eq_ok.mp special_read
    intro other inside
    rcases List.mem_cons.mp inside with rfl | later
    · cases other with
      | tableRow | ruleRow => rfl
      | _ => cases status_read
    · exact inductionHypothesis others others_read other later

/-- Every exported row is a row. -/
theorem isRow_of_ofRows (made : TableLayout.ofRows rows = .ok layout) :
    ∀ row ∈ layout.rows, row.rowKey?.isSome :=
  fun row inside => areRows_of_ofRows made row ((rows_sublist made).subset inside)

/-- The writers of the rows that a table exports are those of its exported rows. -/
theorem exported_writers (form : TableForm) (options : Options)
    (made : TableLayout.ofRows rows = .ok layout) :
    layout.exported (Node.writers form options rows) = layout.rows.map (Node.writer form options) := by
  obtain ⟨-, -, exported, -⟩ := of_ofRows made
  rw [TableLayout.exported, writers_eq_map, select_map, exported]

/-- The lines of a table on which something is written. -/
theorem filter_lines (layout : TableLayout) (width : Nat → Nat)
    (one : ∀ cell, Text.OneLine (content cell)) :
    (layout.headerLines width ++ layout.rows.map fun row =>
      String.join (layout.rowLines content width (layout.isDrawn row) row)).filter (· != "") =
        layout.tableLines content width := by
  have header : (layout.headerLines width).filter (· != "") = layout.headerLines width := by
    rw [List.filter_eq_self]
    intro line inside
    obtain ⟨character, -, rfl⟩ := headerLines_shape layout width line inside
    rw [← runLine_eq]
    simpa using Text.runLine_ne_empty _ _
  rw [List.filter_append, header, tableLines]
  congr 1
  induction layout.rows with
  | nil => rfl
  | cons row rest inductionHypothesis =>
    rw [List.map_cons, List.flatMap_cons, List.filter_cons, inductionHypothesis]
    rcases rowLines_shape layout width (layout.isDrawn row) row one with none | ⟨line, some, -, shows⟩
    · simp [none]
    · simp [some, shows]

/-- Every line of a table is on one line, also those on which nothing is written. -/
theorem oneLine_lines (layout : TableLayout) (width : Nat → Nat)
    (one : ∀ cell, Text.OneLine (content cell)) :
    ∀ line ∈ layout.headerLines width ++ layout.rows.map fun row =>
      String.join (layout.rowLines content width (layout.isDrawn row) row), Text.OneLine line := by
  intro line inside
  rcases List.mem_append.mp inside with inHeader | inRows
  · obtain ⟨character, notNewline, rfl⟩ := headerLines_shape layout width line inHeader
    exact oneLine_alignedRuns layout width notNewline
  · obtain ⟨row, _, rfl⟩ := List.mem_map.mp inRows
    rcases rowLines_shape layout width (layout.isDrawn row) row one with none | ⟨line, some, one, -⟩
    · simp [none, Text.OneLine]
    · simpa [some] using one

/-- The dummy header of a table, with a line feed after each of its lines. -/
theorem agree_dummyHeader
    (asks : ∀ column, Agree condition condition (around.width column) (pure (width column))) :
    Agree condition condition (dummyHeader around)
      (pure ((around.layout.headerLines width).map (· ++ "\n"))) := by
  have whole := agree_columnWidthsFrom asks 0 around.layout.columnCount
  rw [← List.range_eq_range'] at whole
  have blank : blankLine ((List.range around.layout.columnCount).map width) =
      around.layout.alignedRuns width ' ' := runLine_eq _ _ _
  have rule : ruleLine ((List.range around.layout.columnCount).map width) =
      around.layout.alignedRuns width '-' := runLine_eq _ _ _
  unfold dummyHeader headerLines
  split
  · refine whole.bind_pure ?_
    rw [blank, rule]
    exact .pure _
  · exact .pure _

/-- A visit of a table writes the table's text: the lines that its layout, the contents of its cells
and the answers to its questions make. -/
theorem agree_tableWriter {find : WidthFinder} {table : Nat} {visitAround : Option Surroundings}
    (made : TableLayout.ofRows rows = .ok layout)
    (asks : ∀ column, Agree condition condition
      ((surroundings find table layout (exportedCells layout (Node.cellWriters form options rows))
        (questionBound (exportedCells layout (Node.cellWriters form options rows)))).width column)
      (pure (width column)))
    (contents : ∀ row ∈ layout.rows, HaveContents form options condition content (layout.cells row))
    (one : ∀ cell, Text.OneLine (content cell)) :
    Agree condition condition
      (tableWriter find table rows (Node.writers form options rows)
        (Node.cellWriters form options rows) visitAround)
      (pure (layout.tablePieces content width)) := by
  have layout_settled : settle (TableLayout.ofRows rows) = pure layout := by
    rw [made]
    rfl
  unfold tableWriter tablePieces
  simp only [layout_settled, pure_bind]
  refine AgreeOr.note_left ?_
  split
  · exact .pure []
  · rw [exported_writers form options made]
    have sameLayout : (surroundings find table layout
        (exportedCells layout (Node.cellWriters form options rows))
        (questionBound (exportedCells layout (Node.cellWriters form options rows)))).layout = layout := rfl
    generalize surroundings find table layout _ _ = inside at asks sameLayout ⊢
    subst sameLayout
    have isRow := isRow_of_ofRows made
    have lines := agree_rowBlocks asks (fun row inRows => ⟨isRow row inRows, inRows⟩) contents one
    refine (agree_dummyHeader asks).bind_pure (lines.bind_pure ?_)
    rw [← List.map_append, Text.dropEmptyLines_lines (oneLine_lines inside.layout width one),
      filter_lines inside.layout width one]
    exact .pure _

end Markup

end OutlineWiki
