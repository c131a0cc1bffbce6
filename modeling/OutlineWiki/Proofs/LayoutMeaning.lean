import OutlineWiki.Proofs.FirstOf
import OutlineWiki.Proofs.TableLines

/-!
# What a layout says of its table

A layout is made in one walk over the rows of a table. Here its parts are described one by one by what
stands in the table: which column and which rows carry only instructions, which widths the first cookies of
the columns set, which columns open groups by the first row of group markers, and at which position each
exported row stands. Each part is also what the question for it alone is answered.
-/

namespace OutlineWiki

namespace Node

/-! ## Special columns and special rows -/

/-- A cell whose text is a width cookie. -/
def IsCookie (cell : Node) : Prop :=
  ∃ text, cell.cellText = .ok text ∧ (Cookie.ofText? text).isSome = true

/-- A row that starts with one of some markers. -/
def StartsWith (markers : List String) (row : Node) : Prop :=
  row.isRule = false ∧ ∃ marker ∈ markers, firstText row.children = .ok marker

/-- The first column of a table holds markers: every row that is not a rule starts with an empty cell or a
marker, and at least one starts with a marker. -/
def HaveMarkerColumn (rows : List Node) : Prop :=
  (∀ row ∈ rows, row.isRule = true ∨ firstText row.children = .ok "" ∨ row.StartsWith columnMarkers) ∧
    ∃ row ∈ rows, row.StartsWith columnMarkers

/-- A row only carries instructions: in a table with a special column it starts with a marker that makes it
special, or its cells are empty or cookies, and at least one is a cookie. -/
def IsInstructionRow (specialColumn : Bool) (row : Node) : Prop :=
  (specialColumn = true ∧ row.StartsWith rowMarkers) ∨
    (row.isRule = false ∧ (∀ cell ∈ row.children, cell.cellText = .ok "" ∨ cell.IsCookie) ∧
      ∃ cell ∈ row.children, cell.IsCookie)

/-- Cells are cookies among empty cells when each is one or the other and there is a cookie. -/
theorem cookieCells_iff {found : Bool} {cells : List Node} :
    cookieCells found cells = .ok true ↔
      (∀ cell ∈ cells, cell.cellText = .ok "" ∨ cell.IsCookie) ∧
        (found = true ∨ ∃ cell ∈ cells, cell.IsCookie) := by
  induction cells generalizing found with
  | nil => simp [cookieCells]
  | cons cell rest inductionHypothesis =>
    rw [cookieCells]
    cases read : cell.cellText with
    | error failure => simp [bind, Except.bind, IsCookie, read]
    | ok text =>
      have isCookie : cell.IsCookie ↔ (Cookie.ofText? text).isSome = true := by simp [IsCookie, read]
      show (if (Cookie.ofText? text).isSome then cookieCells true rest
        else if text = "" then cookieCells found rest else pure false) = .ok true ↔ _
      split
      case isTrue cookie => simp [inductionHypothesis, isCookie, cookie, read]
      case isFalse noCookie =>
        split
        case isTrue empty =>
          subst empty
          simp [inductionHypothesis, isCookie, noCookie, read]
        case isFalse filled => simp [isCookie, noCookie, read, filled, pure, Except.pure]

/-- A rule starts with no marker. -/
theorem ruleRow_startsWith (attributes : Attributes) (key : Nat) (markers : List String) :
    ¬ (ruleRow attributes key).StartsWith markers :=
  fun starts => Bool.noConfusion starts.1

/-- A row of cells starts with a marker when the text of its first cell is one. -/
theorem tableRow_startsWith {attributes : Attributes} {key : Nat} {cells : List Node}
    {markers : List String} :
    (tableRow attributes key cells).StartsWith markers ↔ ∃ marker ∈ markers, firstText cells = .ok marker :=
  and_iff_right rfl

/-- Rows have a special column exactly when their first cells hold markers. -/
theorem markerColumn_iff {found : Bool} {rows : List Node} (areRows : ∀ row ∈ rows, row.rowKey?.isSome) :
    markerColumn found rows = .ok true ↔
      (∀ row ∈ rows, row.isRule = true ∨ firstText row.children = .ok "" ∨ row.StartsWith columnMarkers) ∧
        (found = true ∨ ∃ row ∈ rows, row.StartsWith columnMarkers) := by
  induction rows generalizing found with
  | nil => simp [markerColumn]
  | cons row rest inductionHypothesis =>
    have later := fun found => @inductionHypothesis found fun other inside =>
      areRows other (List.mem_cons_of_mem row inside)
    cases row with
    | ruleRow attributes key =>
      have isRule : (ruleRow attributes key).isRule = true := rfl
      simp [markerColumn, later, ruleRow_startsWith, isRule]
    | tableRow attributes key cells =>
      have noRule : (tableRow attributes key cells).isRule = false := rfl
      have ownCells : (tableRow attributes key cells).children = cells := rfl
      rw [markerColumn]
      cases read : firstText cells with
      | error failure => simp [bind, Except.bind, tableRow_startsWith, noRule, ownCells, read]
      | ok text =>
        show (if columnMarkers.contains text then markerColumn true rest
          else if text = "" then markerColumn found rest else pure false) = .ok true ↔ _
        have starts : (tableRow attributes key cells).StartsWith columnMarkers ↔ text ∈ columnMarkers := by
          simp [tableRow_startsWith, read]
        simp only [List.forall_mem_cons, List.exists_mem_cons_iff, starts, noRule, ownCells, read]
        split
        case isTrue marker =>
          have isMarker := List.contains_iff_mem.mp marker
          simp [later, isMarker]
        case isFalse noMarker =>
          have notMarker : text ∉ columnMarkers := fun inside => noMarker (List.contains_iff_mem.mpr inside)
          split
          case isTrue empty =>
            subst empty
            simp [later, notMarker]
          case isFalse filled => simp [notMarker, filled, pure, Except.pure]
    | _ => exact absurd (areRows _ List.mem_cons_self) (by simp [rowKey?])

/-- Whether a row is special tells whether it only carries instructions. -/
theorem isSpecialRow_iff {specialColumn flag : Bool} {row : Node}
    (told : isSpecialRow specialColumn row = .ok flag) :
    flag = true ↔ row.IsInstructionRow specialColumn := by
  cases row with
  | ruleRow attributes key =>
    obtain rfl := Except.ok.inj told
    have isRule : (ruleRow attributes key).isRule = true := rfl
    simp [IsInstructionRow, ruleRow_startsWith, isRule]
  | tableRow attributes key cells =>
    have cookies : (tableRow attributes key cells).isRule = false ∧
        (∀ cell ∈ cells, cell.cellText = .ok "" ∨ cell.IsCookie) ∧ (∃ cell ∈ cells, cell.IsCookie) ↔
          cookieCells false cells = .ok true := by
      simp [cookieCells_iff, isRule]
    have ownCells : (tableRow attributes key cells).children = cells := rfl
    rw [IsInstructionRow, ownCells, cookies, tableRow_startsWith]
    have unmarked {marked : Bool} (told : (if marked then pure true else cookieCells false cells) = .ok flag) :
        flag = true ↔ marked = true ∨ cookieCells false cells = .ok true := by
      cases marked with
      | true =>
        obtain rfl := pure_eq_ok.mp told
        simp
      | false =>
        rw [show cookieCells false cells = .ok flag from told]
        simp
    cases specialColumn with
    | false => simpa using @unmarked false told
    | true =>
      obtain ⟨marked, marked_told, told⟩ := bind_eq_ok.mp told
      obtain ⟨text, read, rfl⟩ := map_eq_ok.mp marked_told
      simpa [read] using unmarked told
  | _ => cases told

/-- A row of group markers: it starts with their marker and has a cell beside it. -/
def MarksGroups (row : Node) : Prop :=
  firstText row.children = .ok groupMarker ∧ row.columnCells true ≠ []

/-- In a table with a special column a row of group markers only carries instructions. -/
theorem MarksGroups.isInstructionRow {row : Node} (marks : row.MarksGroups) : row.IsInstructionRow true := by
  cases row with
  | tableRow attributes key cells =>
    exact .inl ⟨rfl, tableRow_startsWith.mpr ⟨groupMarker, by decide, marks.1⟩⟩
  | _ => exact absurd rfl marks.2

end Node

namespace TableLayout

variable {rows : List Node} {layout : TableLayout}

/-! ## Selected rows -/

/-- Every row of a table with a layout is told to be special or not, by its instructions. -/
theorem isSpecialRow_of_ofRows (made : ofRows rows = .ok layout) {row : Node} (inside : row ∈ rows) :
    ∃ flag, Node.isSpecialRow layout.specialColumn row = .ok flag ∧
      (flag = true ↔ row.IsInstructionRow layout.specialColumn) := by
  obtain ⟨-, special_read, -, -⟩ := of_ofRows made
  obtain ⟨flag, told⟩ := ok_of_mapM special_read row inside
  exact ⟨flag, told, Node.isSpecialRow_iff told⟩

/-! ## Group markers -/

/-- What reading a special row does: its cookies are added, and its markers are taken where none are known
and it marks groups. -/
theorem readSpecialRows_cons {special : Bool} {cookies : List (Nat × Nat)} {markers : List String} {row : Node}
    {result : List (Nat × Nat) × List String}
    (isRead : readSpecialRows special cookies markers (row :: rows) = .ok result) :
    ∃ added taken, addCookies cookies 0 (row.columnCells special) = .ok added ∧
      readSpecialRows special added taken rows = .ok result ∧
      ((special = true ∧ markers = [] ∧ row.MarksGroups ∧
          (row.columnCells true).mapM Node.cellText = .ok taken) ∨
        ((special = true → markers = [] → ¬ row.MarksGroups) ∧ taken = markers)) := by
  rw [readSpecialRows] at isRead
  split at isRead
  case isTrue open_ =>
    obtain ⟨rfl, noMarkers⟩ := Bool.and_eq_true_iff.mp open_
    obtain rfl := List.isEmpty_iff.mp noMarkers
    obtain ⟨text, text_read, isRead⟩ := bind_eq_ok.mp isRead
    split at isRead
    case isTrue isMarker =>
      subst isMarker
      obtain ⟨taken, taken_read, isRead⟩ := bind_eq_ok.mp isRead
      obtain ⟨added, added_read, isRead⟩ := bind_eq_ok.mp isRead
      refine ⟨added, taken, added_read, isRead, ?_⟩
      by_cases alone : row.columnCells true = []
      · rw [alone] at taken_read
        exact .inr ⟨fun _ _ marks => marks.2 alone, (pure_eq_ok.mp taken_read).symm⟩
      · exact .inl ⟨rfl, rfl, ⟨text_read, alone⟩, taken_read⟩
    case isFalse other =>
      obtain ⟨taken, kept, isRead⟩ := bind_eq_ok.mp isRead
      obtain rfl := pure_eq_ok.mp kept
      obtain ⟨added, added_read, isRead⟩ := bind_eq_ok.mp isRead
      refine ⟨added, [], added_read, isRead, .inr ⟨fun _ _ marks => other ?_, rfl⟩⟩
      exact Except.ok.inj (text_read.symm.trans marks.1)
  case isFalse closed =>
    obtain ⟨taken, kept, isRead⟩ := bind_eq_ok.mp isRead
    obtain rfl := pure_eq_ok.mp kept
    obtain ⟨added, added_read, isRead⟩ := bind_eq_ok.mp isRead
    refine ⟨added, markers, added_read, isRead, .inr ⟨fun isSpecial noMarkers => ?_, rfl⟩⟩
    subst isSpecial noMarkers
    exact absurd rfl closed

/-- Markers that are known stay, and so does having none where no row marks groups. -/
theorem markers_kept {special : Bool} {cookies : List (Nat × Nat)} {markers : List String}
    {result : List (Nat × Nat) × List String}
    (isRead : readSpecialRows special cookies markers rows = .ok result)
    (settled : ∀ row ∈ rows, special = true → markers = [] → ¬ row.MarksGroups) : result.2 = markers := by
  induction rows generalizing cookies with
  | nil =>
    obtain rfl := pure_eq_ok.mp isRead
    rfl
  | cons row rest inductionHypothesis =>
    obtain ⟨added, taken, -, rest_read, ⟨isSpecial, noMarkers, marks, -⟩ | ⟨-, rfl⟩⟩ :=
      readSpecialRows_cons isRead
    · exact absurd marks (settled row List.mem_cons_self isSpecial noMarkers)
    · exact inductionHypothesis rest_read fun other inside =>
        settled other (List.mem_cons_of_mem row inside)

/-- Where none are known, the markers are the texts of the first row that marks groups. -/
theorem markers_of_first {cookies : List (Nat × Nat)} {result : List (Nat × Nat) × List String} {row : Node}
    (isRead : readSpecialRows true cookies [] rows = .ok result)
    (isFirst : FirstOf Node.MarksGroups rows row) :
    (row.columnCells true).mapM Node.cellText = .ok result.2 := by
  obtain ⟨before, after, rfl, marks, none⟩ := isFirst
  induction before generalizing cookies with
  | nil =>
    obtain ⟨added, taken, -, rest_read, ⟨-, -, -, taken_read⟩ | ⟨noMarks, -⟩⟩ := readSpecialRows_cons isRead
    · have filled : taken ≠ [] := by
        rintro rfl
        exact marks.2 (List.map_eq_nil_iff.mp (map_of_mapM taken_read))
      rw [markers_kept rest_read fun _ _ _ empty => absurd empty filled]
      exact taken_read
    · exact absurd marks (noMarks rfl rfl)
  | cons other rest inductionHypothesis =>
    obtain ⟨added, taken, -, rest_read, ⟨-, -, otherMarks, -⟩ | ⟨-, rfl⟩⟩ := readSpecialRows_cons isRead
    · exact absurd otherMarks (none other List.mem_cons_self)
    · exact inductionHypothesis rest_read fun earlier inside => none earlier (List.mem_cons_of_mem other inside)

/-! ## Cookies and positions -/

/-- A row sets the width of a column: its cell there is a cookie with that number. -/
def SetsWidth (layout : TableLayout) (column width : Nat) (row : Node) : Prop :=
  ∃ cell text cookie, (layout.cells row)[column]? = some cell ∧ cell.cellText = .ok text ∧
    Cookie.ofText? text = some cookie ∧ cookie.width = some width

/-- The width that the cell of a row sets is the one that the row sets. -/
theorem cookieWidth?_eq_some_iff {column width : Nat} {row : Node} :
    (layout.cells row)[column]?.bind cookieWidth? = some width ↔ layout.SetsWidth column width row := by
  simp only [Option.bind_eq_some_iff, SetsWidth, cookieWidth?]
  constructor
  · rintro ⟨cell, isCell, sets⟩
    cases read : cell.cellText with
    | error failure => simp [read] at sets
    | ok text =>
      rw [read] at sets
      obtain ⟨cookie, isCookie, isWidth⟩ := Option.bind_eq_some_iff.mp sets
      exact ⟨cell, text, cookie, isCell, read, isCookie, isWidth⟩
  · rintro ⟨cell, text, cookie, isCell, read, isCookie, isWidth⟩
    exact ⟨cell, isCell, by simp [read, isCookie, isWidth]⟩

/-- The first value found in a list is that of the first item that has one. -/
theorem findSome?_iff_firstOf {Item Value : Type} {value? : Item → Option Value} {items : List Item}
    {value : Value} :
    items.findSome? value? = some value ↔
      ∃ item, FirstOf (fun item => ∃ value, value? item = some value) items item ∧
        value? item = some value := by
  constructor
  · intro searched
    obtain ⟨before, item, after, rfl, found, none⟩ := List.findSome?_eq_some_iff.mp searched
    refine ⟨item, ⟨before, after, rfl, ⟨value, found⟩, ?_⟩, found⟩
    rintro earlier inside ⟨other, isOther⟩
    rw [none earlier inside] at isOther
    cases isOther
  · rintro ⟨item, ⟨before, after, rfl, -, none⟩, found⟩
    refine List.findSome?_eq_some_iff.mpr ⟨before, item, after, rfl, found, fun earlier inside => ?_⟩
    exact Option.eq_none_iff_forall_ne_some.mpr fun other isOther => none earlier inside ⟨other, isOther⟩

/-- A row has the position of the first exported row with its key. -/
theorem rowIndex_eq_ok_iff {row : Node} {index : Nat} :
    layout.rowIndex row = .ok index ↔
      ∃ inside : index < layout.rows.length, layout.rows[index].rowKey? = row.rowKey? ∧
        ∀ earlier, (before : earlier < index) → layout.rows[earlier].rowKey? ≠ row.rowKey? := by
  have found : layout.rowIndex row = .ok index ↔
      layout.rows.findIdx? (fun other => other.rowKey? == row.rowKey?) = some index := by
    rw [rowIndex]
    split <;> simp [*]
  rw [found, List.findIdx?_eq_some_iff_getElem]
  simp

/-- A row has no position when no exported row has its key. -/
theorem rowIndex_eq_error_iff {row : Node} :
    layout.rowIndex row = .error .unexportedRow ↔ ∀ other ∈ layout.rows, other.rowKey? ≠ row.rowKey? := by
  have missed : layout.rowIndex row = .error .unexportedRow ↔
      layout.rows.findIdx? (fun other => other.rowKey? == row.rowKey?) = none := by
    rw [rowIndex]
    split <;> simp [*]
  rw [missed, List.findIdx?_eq_none_iff]
  simp

/-! ## The whole layout -/

/-- Whether a row of a table is exported: the question whether it is special is answered with no. -/
def isExportedFrom (rows : List Node) (row : Node) : Bool :=
  match isSpecialRowOf rows row with
  | .ok special => !special
  | .error _ => false

/-- A layout says of a table what stands in the table, and the questions for single parts of it are answered
with these parts. -/
structure Describes (layout : TableLayout) (rows : List Node) : Prop where
  specialColumn : layout.specialColumn = true ↔ Node.HaveMarkerColumn rows
  special : ∀ row ∈ rows, ∃ special, isSpecialRowOf rows row = .ok special ∧
    (special = true ↔ row.IsInstructionRow layout.specialColumn)
  exported : layout.rows = rows.filter (isExportedFrom rows)
  rules : ∀ row ∈ rows, row.isRule = true → row ∈ layout.rows
  rowCount : layout.rowCount = (layout.rows.filter fun row => !row.isRule).length
  columnCount : layout.columnCount =
    (((layout.rows.filter fun row => !row.isRule) ++ rows.filter fun row => !isExportedFrom rows row).head?.map
      fun shape => (layout.cells shape).length).getD 0
  cookies : ∀ column width, layout.cookie? column = some width ↔
    ∃ row, FirstOf (fun row => row.IsInstructionRow layout.specialColumn ∧
      ∃ width, layout.SetsWidth column width row) rows row ∧ layout.SetsWidth column width row
  markers : layout.specialColumn = true → ∀ row, FirstOf Node.MarksGroups rows row →
    (layout.cells row).map Node.cellText = layout.markers.map .ok
  noMarkers : layout.specialColumn = false ∨ (∀ row ∈ rows, ¬ row.MarksGroups) → layout.markers = []
  groups : ∀ column, layout.startsGroup column = true ↔ column = 0 ∨
    (∃ marker ∈ ["<", "<>"], layout.markers[column]? = some marker) ∨
      ∃ marker ∈ [">", "<>"], layout.markers[column - 1]? = some marker
  position : ∀ row index, layout.rowIndex row = .ok index ↔
    ∃ inside : index < layout.rows.length, layout.rows[index].rowKey? = row.rowKey? ∧
      ∀ earlier, (before : earlier < index) → layout.rows[earlier].rowKey? ≠ row.rowKey?
  noPosition : ∀ row, layout.rowIndex row = .error .unexportedRow ↔
    ∀ other ∈ layout.rows, other.rowKey? ≠ row.rowKey?
  exportedRows : exportedRows rows = .ok layout.rows
  tableDimensions : tableDimensions rows = .ok (layout.rowCount, layout.columnCount)
  exportedPosition : ∀ row, exportedPosition rows row = layout.rowIndex row
  columnCookie : ∀ column, columnCookie rows column = .ok (layout.cookie? column)
  columnStartsGroup : ∀ column, columnStartsGroup rows column = .ok (layout.startsGroup column)

/-- The question whether a row is special is answered as in the layout of its table. -/
theorem isSpecialRowOf_eq (made : ofRows rows = .ok layout) (row : Node) :
    isSpecialRowOf rows row = Node.isSpecialRow layout.specialColumn row := by
  obtain ⟨column_read, -⟩ := of_ofRows made
  rw [isSpecialRowOf, column_read]
  rfl

/-- The rows of a table that are exported, or not, are those that are told not to be special, or to be. -/
theorem select_special (made : ofRows rows = .ok layout) (status : Bool) :
    select status layout.special rows = rows.filter fun row => isExportedFrom rows row == !status := by
  obtain ⟨-, special_read, -, -⟩ := of_ofRows made
  refine select_eq_filter special_read status fun row inside => ?_
  obtain ⟨flag, told, -⟩ := isSpecialRow_of_ofRows made inside
  rw [isExportedFrom, isSpecialRowOf_eq made, told]
  cases flag <;> cases status <;> simp

/-- The rows that only carry instructions are those that the layout leaves out. -/
theorem specialRows_eq (made : ofRows rows = .ok layout) :
    layout.specialRows rows = rows.filter fun row => !isExportedFrom rows row := by
  rw [specialRows, select_special made true]
  congr
  funext row
  cases isExportedFrom rows row <;> rfl

/-- A row of a table is left out exactly when it only carries instructions. -/
theorem isExportedFrom_eq_false_iff (made : ofRows rows = .ok layout) {row : Node} (inside : row ∈ rows) :
    (!isExportedFrom rows row) = true ↔ row.IsInstructionRow layout.specialColumn := by
  obtain ⟨flag, told, special⟩ := isSpecialRow_of_ofRows made inside
  rw [isExportedFrom, isSpecialRowOf_eq made, told, ← special]
  simp

/-- What comes first of the special rows is the first of the rows that carry instructions. -/
theorem firstOf_specialRows (made : ofRows rows = .ok layout) {holds : Node → Prop} {row : Node} :
    FirstOf holds (layout.specialRows rows) row ↔
      FirstOf (fun row => row.IsInstructionRow layout.specialColumn ∧ holds row) rows row := by
  rw [specialRows_eq made, FirstOf.filter_iff]
  exact FirstOf.congr fun row inside => and_congr_left' (isExportedFrom_eq_false_iff made inside)

/-- The width of a column is that of the first of the rows with instructions that sets one. -/
theorem cookie?_eq_some_iff (made : ofRows rows = .ok layout) {column width : Nat} :
    layout.cookie? column = some width ↔
      ∃ row, FirstOf (fun row => row.IsInstructionRow layout.specialColumn ∧
        ∃ width, layout.SetsWidth column width row) rows row ∧ layout.SetsWidth column width row := by
  rw [cookie?_eq_firstCookie? made, firstCookie?, findSome?_iff_firstOf]
  simp only [cookieWidth?_eq_some_iff, firstOf_specialRows made]

/-- The markers are the texts of the first row that marks groups. -/
theorem markers_of_ofRows (made : ofRows rows = .ok layout) (special : layout.specialColumn = true) {row : Node}
    (isFirst : FirstOf Node.MarksGroups rows row) :
    (layout.cells row).map Node.cellText = layout.markers.map .ok := by
  obtain ⟨-, -, -, isRead⟩ := of_ofRows made
  have inSpecial : FirstOf Node.MarksGroups (layout.specialRows rows) row := by
    rw [firstOf_specialRows made, special]
    exact (FirstOf.congr fun row _ => and_iff_right_of_imp Node.MarksGroups.isInstructionRow).mpr isFirst
  rw [special] at isRead
  rw [cells, special]
  exact map_of_mapM (markers_of_first isRead inSpecial)

/-- Without a special column, or without a row that marks groups, there are no markers. -/
theorem noMarkers_of_ofRows (made : ofRows rows = .ok layout)
    (none : layout.specialColumn = false ∨ ∀ row ∈ rows, ¬ row.MarksGroups) : layout.markers = [] := by
  obtain ⟨-, -, -, isRead⟩ := of_ofRows made
  refine markers_kept isRead fun row inside special _ => ?_
  rcases none with noColumn | noMarks
  · exact absurd (special.symm.trans noColumn) (by decide)
  · exact noMarks row ((select_sublist true layout.special rows).subset inside)

/-- A column starts a group when it is the first, is marked as a start or follows one marked as an end. -/
theorem startsGroup_iff (column : Nat) :
    layout.startsGroup column = true ↔ column = 0 ∨
      (∃ marker ∈ ["<", "<>"], layout.markers[column]? = some marker) ∨
        ∃ marker ∈ [">", "<>"], layout.markers[column - 1]? = some marker := by
  cases column with
  | zero => simp [startsGroup]
  | succ before =>
    have either (marker? : Option String) (first second : String) :
        (marker?.any fun marker => marker == first || marker == second) = true ↔
          ∃ marker ∈ [first, second], marker? = some marker := by
      cases marker? <;> simp
    rw [startsGroup, Bool.or_eq_true, either, either]
    simp

/-- A layout describes the table it is made of. -/
theorem describes_of_ofRows (made : ofRows rows = .ok layout) : layout.Describes rows := by
  obtain ⟨column_read, special_read, exported, -⟩ := of_ofRows made
  have areRows := Markup.areRows_of_ofRows made
  refine {
    specialColumn := ?_
    special := fun row inside => ?_
    exported := ?_
    rules := fun row inside isRule => ?_
    rowCount := rowCount_eq made
    columnCount := ?_
    cookies := fun column width => cookie?_eq_some_iff made
    markers := fun special row isFirst => markers_of_ofRows made special isFirst
    noMarkers := noMarkers_of_ofRows made
    groups := startsGroup_iff
    position := fun row index => rowIndex_eq_ok_iff
    noPosition := fun row => rowIndex_eq_error_iff
    exportedRows := ?_
    tableDimensions := ?_
    exportedPosition := fun row => ?_
    columnCookie := fun column => ?_
    columnStartsGroup := fun column => ?_ }
  · have marked := @Node.markerColumn_iff false rows areRows
    rw [show Node.markerColumn false rows = .ok layout.specialColumn from column_read] at marked
    simpa [Node.HaveMarkerColumn] using marked
  · rw [isSpecialRowOf_eq made]
    exact isSpecialRow_of_ofRows made inside
  · rw [exported, select_special made false]
    simp
  · refine (mem_rows_iff made).mpr ⟨inside, ?_⟩
    cases row with
    | ruleRow => rfl
    | _ => cases isRule
  · rw [columnCount_eq made, specialRows_eq made]
  · rw [OutlineWiki.exportedRows, column_read]
    show (rows.mapM (Node.isSpecialRow layout.specialColumn) >>= _) = _
    rw [special_read, exported]
    rfl
  all_goals
    simp only [OutlineWiki.tableDimensions, OutlineWiki.exportedPosition, OutlineWiki.columnCookie,
      OutlineWiki.columnStartsGroup, made]
    rfl

end TableLayout

/-- Every table whose cells have plain texts has a layout, and every layout says of its table what stands in
the table: its exported rows are those not told to be special, in their order, with all rules; its counts are
those of content rows and of the cells of the first of them; its widths are those of the first cookies of the
columns, its markers those of the first row of group markers; and its positions are those of the first
occurrences of the exported rows. The questions for single parts are answered alike. -/
theorem layout_describes_table (rows : List Node) :
    ((∀ row ∈ rows, row.IsReadableRow) → ∃ layout, TableLayout.ofRows rows = .ok layout) ∧
      ∀ layout, TableLayout.ofRows rows = .ok layout → layout.Describes rows :=
  ⟨TableLayout.ofRows_ok, fun _ => TableLayout.describes_of_ofRows⟩

/-- A table with group markers, cookies, a rule and one row of content. -/
def markedTable : List Node :=
  [.tableRow {} 0 [.tableCell {} [.text {} (.string "/")], .tableCell {} [],
      .tableCell {} [.text {} (.string "<")]],
    .tableRow {} 1 [.tableCell {} [.text {} (.string "#")], .tableCell {} [.text {} (.string "one")],
      .tableCell {} [.text {} (.string "two")]],
    .ruleRow {} 2,
    .tableRow {} 3 [.tableCell {} [], .tableCell {} [.text {} (.string "<l>")],
      .tableCell {} [.text {} (.string "<r4>")]]]

/-- The table with group markers has a layout, which describes it. -/
theorem markedTable_described :
    ∃ layout, TableLayout.ofRows markedTable = .ok layout ∧ layout.Describes markedTable := by
  have inline : ∀ row ∈ markedTable, row.isInlineRow = true := by decide +kernel
  obtain ⟨layout, made⟩ := (layout_describes_table markedTable).1 fun row inside =>
    Node.isReadableRow_of_isInlineRow (inline row inside)
  exact ⟨layout, made, (layout_describes_table markedTable).2 layout made⟩

/-- What the layout of the table with group markers says. -/
example : ((TableLayout.ofRows markedTable).map fun layout =>
    (layout.rowCount, layout.columnCount, layout.cookies, layout.markers)).toOption =
      some (1, 2, [(1, 4)], ["", "<"]) := by
  decide +kernel

end OutlineWiki
