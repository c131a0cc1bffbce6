import OutlineWiki.Proofs.TableText

/-!
# Tables that have a layout

Making a layout reads the plain texts of cells and nothing else. Where texts and inline codes hold
strings every cell has a plain text, and a table of rows whose cells have plain texts has a layout.
-/

namespace OutlineWiki

namespace Node

/-! ## Plain texts -/

/-- Values that are strings are joined. -/
theorem joinValues_strings (joiner : String) (texts : List String) :
    joinValues joiner (texts.map .string) = .ok (joiner.intercalate (texts.filter (· != ""))) := by
  have kept : (texts.map Json.string).filter Json.isTruthy = (texts.filter (· != "")).map .string := by
    rw [List.filter_map]
    rfl
  rw [joinValues, kept, stringsOf_map_string]
  rfl

/-- Values that are strings are joined into one value. -/
theorem joinedValue_strings (joiner : String) (texts : List String) :
    joinedValue joiner (.ok (texts.map .string)) =
      .ok (.string (joiner.intercalate (texts.filter (· != "")))) := by
  show (joinValues joiner (texts.map .string) >>= _) = _
  rw [joinValues_strings]
  rfl

/-- What a text or an inline code holds. -/
def ownText? : Node → Option Json
  | .text _ content | .code _ content => some content
  | _ => none

/-- Whether a node, if it is a text or an inline code, holds a string. -/
def hasStringText (node : Node) : Bool :=
  match node.ownText? with
  | none | some (.string _) => true
  | some _ => false

/-- The plain text of a tree, where it is a string. -/
def plainString (joiner : String) (node : Node) : String :=
  match plainText joiner node with
  | .ok (.string value) => value
  | _ => ""

/-- A text or an inline code has its content for plain text. -/
theorem plainText_of_ownText {joiner : String} {node : Node} {content : Json}
    (own : node.ownText? = some content) : plainText joiner node = .ok content := by
  cases node with
  | text | code =>
    obtain rfl := Option.some.inj own
    rfl
  | _ => cases own

/-- Any other node joins the plain texts of its children; one without children has the empty text. -/
theorem plainText_of_children {joiner : String} {node : Node} (other : node.ownText? = none) :
    plainText joiner node = joinedValue joiner (plainTexts joiner node.children) := by
  cases node with
  | text | code => cases other
  | _ => rfl

/-- The plain texts of trees, where each of them is a string. -/
theorem plainTexts_strings {joiner : String} {nodes : List Node}
    (each : ∀ node ∈ nodes, plainText joiner node = .ok (.string (plainString joiner node))) :
    plainTexts joiner nodes = .ok ((nodes.map (plainString joiner)).map .string) := by
  induction nodes with
  | nil => rfl
  | cons node rest inductionHypothesis =>
    rw [plainTexts, each node List.mem_cons_self,
      inductionHypothesis fun later inside => each later (List.mem_cons_of_mem node inside)]
    rfl

/-- Trees whose plain texts are strings have one joined text, from those that are not empty. -/
theorem joinedText_strings {joiner : String} {nodes : List Node}
    (each : ∀ node ∈ nodes, plainText joiner node = .ok (.string (plainString joiner node))) :
    joinedText joiner nodes =
      .ok (joiner.intercalate ((nodes.map (plainString joiner)).filter (· != ""))) := by
  rw [joinedText, plainTexts_strings each]
  exact joinValues_strings joiner _

/-- The plain text of a tree whose texts are strings is a string. -/
theorem plainText_strings (joiner : String) {node : Node}
    (strings : node.Everywhere (·.hasStringText = true)) :
    plainText joiner node = .ok (.string (plainString joiner node)) := by
  induction node using inductionChildren with
  | step node inductionHypothesis =>
    obtain ⟨root, inChildren⟩ := everywhere_iff.mp strings
    cases own : node.ownText? with
    | some content =>
      rw [hasStringText, own] at root
      cases content with
      | string value => rw [plainString, plainText_of_ownText own]
      | _ => cases root
    | none =>
      have each := fun child inside => inductionHypothesis child inside (inChildren child inside)
      rw [plainString, plainText_of_children own, plainTexts_strings each, joinedValue_strings]

/-- The plain text of a text or an inline code is the string it holds. -/
theorem plainString_of_ownText {joiner : String} {node : Node} {content : Json}
    (string : node.hasStringText = true) (own : node.ownText? = some content) :
    plainString joiner node = content.shown := by
  rw [hasStringText, own] at string
  rw [plainString, plainText_of_ownText own]
  cases content with
  | string value => rfl
  | _ => cases string

/-- A node that holds no text itself joins the plain texts of its children that are not empty. -/
theorem plainString_of_children (joiner : String) {node : Node}
    (strings : node.Everywhere (·.hasStringText = true)) (other : node.ownText? = none) :
    plainString joiner node =
      joiner.intercalate ((node.children.map (plainString joiner)).filter (· != "")) := by
  have each := fun child inside =>
    plainText_strings joiner ((everywhere_iff.mp strings).2 child inside)
  rw [plainString, plainText_of_children other, plainTexts_strings each, joinedValue_strings]

/-! ## Cells and rows that can be read -/

/-- A cell that has a plain text. -/
def HasText (cell : Node) : Prop :=
  ∃ text, cell.cellText = .ok text

/-- A cell whose texts are strings has a plain text: that of its content without blanks at its ends. -/
theorem cellText_strings {attributes : Attributes} {content : List Node}
    (strings : (Node.tableCell attributes content).Everywhere (·.hasStringText = true)) :
    (Node.tableCell attributes content).cellText =
      .ok (Text.strip ((Node.tableCell attributes content).plainString "")) := by
  have each := fun child inside => plainText_strings "" ((everywhere_iff.mp strings).2 child inside)
  have whole := plainString_of_children "" strings rfl
  have joined : joinedText "" content = .ok ((Node.tableCell attributes content).plainString "") := by
    rw [whole]
    exact joinedText_strings each
  rw [cellText, joined]
  rfl

/-- A row of a table whose cells have plain texts. -/
def IsReadableRow (row : Node) : Prop :=
  row.rowKey?.isSome ∧ ∀ cell ∈ row.children, cell.HasText

/-- The first of cells with texts has one, and so have no cells at all. -/
theorem firstText_ok {cells : List Node} (texts : ∀ cell ∈ cells, cell.HasText) :
    ∃ text, firstText cells = .ok text := by
  cases cells with
  | nil => exact ⟨"", rfl⟩
  | cons cell rest => exact texts cell List.mem_cons_self

/-- Whether rows have a special column can be told. -/
theorem markerColumn_ok {rows : List Node} (readable : ∀ row ∈ rows, row.IsReadableRow) (found : Bool) :
    ∃ special, markerColumn found rows = .ok special := by
  induction rows generalizing found with
  | nil => exact ⟨found, rfl⟩
  | cons row rest inductionHypothesis =>
    have later := inductionHypothesis fun other inside => readable other (List.mem_cons_of_mem row inside)
    obtain ⟨isRow, texts⟩ := readable row List.mem_cons_self
    cases row with
    | ruleRow attributes key => exact later found
    | tableRow attributes key cells =>
      obtain ⟨text, first⟩ := firstText_ok texts
      rw [markerColumn, show firstText cells = .ok text from first]
      show ∃ special, (if columnMarkers.contains text then markerColumn true rest
        else if text = "" then markerColumn found rest else pure false) = .ok special
      split
      · exact later true
      · split
        · exact later found
        · exact ⟨false, rfl⟩
    | _ => cases isRow

/-- Whether cells are cookies can be told. -/
theorem cookieCells_ok {cells : List Node} (texts : ∀ cell ∈ cells, cell.HasText) (found : Bool) :
    ∃ special, cookieCells found cells = .ok special := by
  induction cells generalizing found with
  | nil => exact ⟨found, rfl⟩
  | cons cell rest inductionHypothesis =>
    have later := inductionHypothesis fun other inside => texts other (List.mem_cons_of_mem cell inside)
    obtain ⟨text, first⟩ := texts cell List.mem_cons_self
    rw [cookieCells, first]
    show ∃ special, (if (Cookie.ofText? text).isSome then cookieCells true rest
      else if text = "" then cookieCells found rest else pure false) = .ok special
    split
    · exact later true
    · split
      · exact later found
      · exact ⟨false, rfl⟩

/-- Whether a row is special can be told. -/
theorem isSpecialRow_ok {row : Node} (readable : row.IsReadableRow) (specialColumn : Bool) :
    ∃ special, isSpecialRow specialColumn row = .ok special := by
  obtain ⟨isRow, texts⟩ := readable
  cases row with
  | ruleRow attributes key => exact ⟨false, rfl⟩
  | tableRow attributes key cells =>
    obtain ⟨text, first⟩ := firstText_ok texts
    obtain ⟨cookies, cells_read⟩ := cookieCells_ok texts false
    have rest : ∀ marked : Bool, ∃ special,
        (if marked then pure true else cookieCells false cells : Except Failure Bool) = .ok special := by
      intro marked
      cases marked with
      | false => exact ⟨cookies, cells_read⟩
      | true => exact ⟨true, rfl⟩
    rw [isSpecialRow, show firstText cells = .ok text from first]
    cases specialColumn with
    | false => exact rest false
    | true => exact rest _
  | _ => cases isRow

end Node

namespace TableLayout

/-- The cookies of cells with texts can be read. -/
theorem addCookies_ok {cells : List Node} (texts : ∀ cell ∈ cells, cell.HasText)
    (cookies : List (Nat × Nat)) (first : Nat) : ∃ added, addCookies cookies first cells = .ok added := by
  induction cells generalizing cookies first with
  | nil => exact ⟨cookies, rfl⟩
  | cons cell rest inductionHypothesis =>
    obtain ⟨text, text_read⟩ := texts cell List.mem_cons_self
    rw [addCookies, text_read]
    exact inductionHypothesis (fun later inside => texts later (List.mem_cons_of_mem cell inside)) _ _

/-- Special rows can be read. -/
theorem readSpecialRows_ok {rows : List Node} (readable : ∀ row ∈ rows, row.IsReadableRow)
    (special : Bool) (cookies : List (Nat × Nat)) (markers : List String) :
    ∃ read, readSpecialRows special cookies markers rows = .ok read := by
  induction rows generalizing cookies markers with
  | nil => exact ⟨(cookies, markers), rfl⟩
  | cons row rest inductionHypothesis =>
    have later := inductionHypothesis fun other inside => readable other (List.mem_cons_of_mem row inside)
    have texts := (readable row List.mem_cons_self).2
    have columnTexts : ∀ cell ∈ row.columnCells special, cell.HasText := fun cell inside =>
      texts cell (Node.columnCells_subset special row inside)
    have rest_read : ∀ markers, ∃ read, (do
        let cookies ← addCookies cookies 0 (row.columnCells special)
        readSpecialRows special cookies markers rest) = Except.ok read := by
      intro markers
      obtain ⟨added, cookies_read⟩ := addCookies_ok columnTexts cookies 0
      rw [cookies_read]
      exact later added markers
    obtain ⟨text, first⟩ := Node.firstText_ok texts
    obtain ⟨markerTexts, texts_read⟩ := mapM_ok columnTexts
    unfold readSpecialRows
    rw [first]
    split
    · show ∃ read, (if text = groupMarker then _ else _) = Except.ok read
      split
      · rw [texts_read]
        exact rest_read markerTexts
      · exact rest_read markers
    · exact rest_read markers

/-- A table whose rows can be read has a layout. -/
theorem ofRows_ok {rows : List Node} (readable : ∀ row ∈ rows, row.IsReadableRow) :
    ∃ layout, ofRows rows = .ok layout := by
  obtain ⟨specialColumn, column_read⟩ := Node.markerColumn_ok readable false
  obtain ⟨special, special_read⟩ := mapM_ok fun row inside =>
    Node.isSpecialRow_ok (readable row inside) specialColumn
  have specialReadable : ∀ row ∈ select true special rows, row.IsReadableRow := fun row inside =>
    readable row ((select_sublist true special rows).subset inside)
  obtain ⟨read, rows_read⟩ := readSpecialRows_ok specialReadable specialColumn [] []
  unfold ofRows
  rw [Node.hasSpecialColumn, column_read]
  show ∃ layout, (rows.mapM (Node.isSpecialRow specialColumn) >>= _) = Except.ok layout
  rw [special_read]
  show ∃ layout, (readSpecialRows specialColumn [] [] (select true special rows) >>= _) =
    Except.ok layout
  rw [rows_read]
  exact ⟨_, rfl⟩

end TableLayout

end OutlineWiki
