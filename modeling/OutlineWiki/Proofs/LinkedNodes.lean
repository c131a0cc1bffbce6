import OutlineWiki.Proofs.LinkedSteps

/-!
# Nodes that are linked

Two nodes of the same form are linked when their children are, one to one, and a table's layout reads the
same in both. Every node is linked to itself, which tells what a visit keeps of the list level and of the
numbers of the open lists: of these it changes at most the innermost, and only where it reaches an item
without passing through a list, or a row whose table has to be measured.
-/

namespace OutlineWiki

namespace Node

/-! ## What is reached -/

/-- One node is reached from another without passing through nodes of some kinds. -/
inductive ReachedPast (stops : Node → Prop) : Node → Node → Prop where
  | self (node : Node) : ReachedPast stops node node
  | child {inner child node : Node} : ¬ stops node → child ∈ node.children → ReachedPast stops inner child →
      ReachedPast stops inner node

/-- An item is reached without passing through a list. -/
def ReachesItem (node : Node) : Prop :=
  ∃ item, item.kind = .listItem ∧ ReachedPast (·.kind = .list) item node

/-- A row is reached without passing through a list or a table, so that it belongs to the table around. -/
def ReachesRow (node : Node) : Prop :=
  ∃ row, row.kind = .tableRow ∧ ReachedPast (fun outer => outer.kind = .list ∨ outer.kind = .table) row node

/-- A visit of a node may let an item take the number of the innermost list: it reaches an item, or a row
while questions about the table around may reach one. -/
def MayTake (asks : Prop) (node : Node) : Prop :=
  node.ReachesItem ∨ asks ∧ node.ReachesRow

/-- An item that a child reaches is reached from every node but a list. -/
theorem ReachesItem.ofChild {child node : Node} (reaches : child.ReachesItem) (noList : node.kind ≠ .list)
    (isChild : child ∈ node.children) : node.ReachesItem := by
  obtain ⟨item, isItem, reached⟩ := reaches
  exact ⟨item, isItem, .child noList isChild reached⟩

/-- A row that a child reaches is reached from every node but a list or a table. -/
theorem ReachesRow.ofChild {child node : Node} (reaches : child.ReachesRow)
    (passed : ¬ (node.kind = .list ∨ node.kind = .table)) (isChild : child ∈ node.children) :
    node.ReachesRow := by
  obtain ⟨row, isRow, reached⟩ := reaches
  exact ⟨row, isRow, .child passed isChild reached⟩

/-- What a child may take may be taken by every node but a list or a table. -/
theorem MayTake.ofChild {asks : Prop} {child node : Node} (takes : child.MayTake asks)
    (passed : ¬ (node.kind = .list ∨ node.kind = .table)) (isChild : child ∈ node.children) :
    node.MayTake asks :=
  takes.imp (·.ofChild (fun isList => passed (.inl isList)) isChild)
    (And.imp_right (·.ofChild passed isChild))

/-! ## Nodes with other children -/

/-- A node with other children. A leaf stays as it is. -/
def withChildren (children : List Node) : Node → Node
  | .document attributes _ => .document attributes children
  | .heading attributes level _ => .heading attributes level children
  | .paragraph attributes _ => .paragraph attributes children
  | .blockQuote attributes _ => .blockQuote attributes children
  | .list attributes ordered start _ => .list attributes ordered start children
  | .listItem attributes _ => .listItem attributes children
  | .table attributes key _ => .table attributes key children
  | .tableRow attributes key _ => .tableRow attributes key children
  | .tableCell attributes _ => .tableCell attributes children
  | .styled attributes style _ => .styled attributes style children
  | .link attributes url _ => .link attributes url children
  | leaf => leaf

/-- With its own children a node is what it is. -/
@[simp] theorem withChildren_children (node : Node) : node.withChildren node.children = node := by
  cases node <;> rfl

/-- Other children leave the kind of a node alone. -/
@[simp] theorem kind_withChildren (node : Node) (children : List Node) :
    (node.withChildren children).kind = node.kind := by
  cases node <;> rfl

end Node

/-! ## Rows that read alike -/

/-- Two nodes read alike as rows: the same rule, rows of one key whose cells have the same texts, or no rows
at all. -/
inductive ReadAlike : Node → Node → Prop where
  | cells {attributes otherAttributes : Attributes} {key : Nat} {cells others : List Node} :
      cells.map Node.cellText = others.map Node.cellText →
        ReadAlike (.tableRow attributes key cells) (.tableRow otherAttributes key others)
  | rule {attributes otherAttributes : Attributes} {key : Nat} :
      ReadAlike (.ruleRow attributes key) (.ruleRow otherAttributes key)
  | noRows {node other : Node} : node.kind ≠ .tableRow → other.kind ≠ .tableRow → ReadAlike node other

namespace Node

variable {cells others rows otherRows : List Node}

/-- The text of the first cell is told by the texts of the cells. -/
theorem firstText_congr (texts : cells.map cellText = others.map cellText) :
    firstText cells = firstText others := by
  cases cells <;> cases others
  · rfl
  · cases texts
  · cases texts
  · exact (List.cons.inj texts).1

/-- Whether cells are cookies is told by their texts. -/
theorem cookieCells_congr (texts : cells.map cellText = others.map cellText) (found : Bool) :
    cookieCells found cells = cookieCells found others := by
  induction cells generalizing others found with
  | nil => rw [List.map_eq_nil_iff.mp texts.symm]
  | cons cell rest inductionHypothesis =>
    cases others with
    | nil => cases texts
    | cons other otherRest =>
      obtain ⟨first, later⟩ := List.cons.inj texts
      simp only [cookieCells, first, inductionHypothesis later]

/-- What a node is read as in a table when it is no row. -/
theorem read_noRow {node : Node} (noRow : node.kind ≠ .tableRow) (special : Bool) :
    isSpecialRow special node = .error .unsuitable ∧ node.rowKey? = none ∧ node.isRule = false ∧
      node.columnCells special = [] ∧
      ∀ found rest, markerColumn found (node :: rest) = .error .unsuitable := by
  cases node with
  | tableRow | ruleRow => exact absurd rfl noRow
  | _ => exact ⟨rfl, rfl, rfl, rfl, fun _ _ => rfl⟩

end Node

namespace ReadAlike

open Node TableLayout

variable {row other : Node} {rows others : List Node}

/-- Whether a row is special is read alike. -/
theorem isSpecialRow (alike : ReadAlike row other) (special : Bool) :
    Node.isSpecialRow special row = Node.isSpecialRow special other := by
  cases alike with
  | cells texts => simp only [Node.isSpecialRow, firstText_congr texts, cookieCells_congr texts]
  | rule => rfl
  | noRows noRow noOther => rw [(read_noRow noRow special).1, (read_noRow noOther special).1]

/-- Rows that read alike have the same key and are rules alike. -/
theorem rowKey? (alike : ReadAlike row other) : row.rowKey? = other.rowKey? ∧ row.isRule = other.isRule := by
  cases alike with
  | cells | rule => exact ⟨rfl, rfl⟩
  | noRows noRow noOther =>
    obtain ⟨-, noKey, noRule, -⟩ := read_noRow noRow false
    obtain ⟨-, otherNoKey, otherNoRule, -⟩ := read_noRow noOther false
    exact ⟨noKey.trans otherNoKey.symm, noRule.trans otherNoRule.symm⟩

/-- The cells by column of rows that read alike have the same texts. -/
theorem columnCells (alike : ReadAlike row other) (special : Bool) :
    (row.columnCells special).map cellText = (other.columnCells special).map cellText := by
  cases alike with
  | cells texts => cases special <;> simp [Node.columnCells, texts]
  | rule => rfl
  | noRows noRow noOther =>
    obtain ⟨-, -, -, noCells, -⟩ := read_noRow noRow special
    obtain ⟨-, -, -, otherNoCells, -⟩ := read_noRow noOther special
    rw [noCells, otherNoCells]

/-- The text that a row starts with is read alike. -/
theorem firstText (alike : ReadAlike row other) (isRow : row.kind = .tableRow) :
    Node.firstText row.children = Node.firstText other.children := by
  cases alike with
  | cells texts => exact firstText_congr texts
  | rule => rfl
  | noRows noRow _ => exact absurd isRow noRow

/-- Whether there is a special column is read alike. -/
theorem markerColumn (each : List.Forall₂ ReadAlike rows others) (found : Bool) :
    Node.markerColumn found rows = Node.markerColumn found others := by
  induction each generalizing found with
  | nil => rfl
  | @cons row other rest otherRest alike _ inductionHypothesis =>
    cases alike with
    | cells texts => simp only [Node.markerColumn, firstText_congr texts, inductionHypothesis]
    | rule => exact inductionHypothesis found
    | noRows noRow noOther =>
      obtain ⟨-, -, -, -, unsuitable⟩ := read_noRow noRow false
      obtain ⟨-, -, -, -, otherUnsuitable⟩ := read_noRow noOther false
      rw [unsuitable, otherUnsuitable]

/-- Which rows are special is read alike. -/
theorem specialRows (each : List.Forall₂ ReadAlike rows others) (special : Bool) :
    rows.mapM (Node.isSpecialRow special) = others.mapM (Node.isSpecialRow special) := by
  induction each with
  | nil => rfl
  | cons alike _ inductionHypothesis =>
    rw [List.mapM_cons, List.mapM_cons, alike.isSpecialRow, inductionHypothesis]

/-- The texts of cells are all that is read of them for cookies. -/
theorem addCookies {cells otherCells : List Node} (texts : cells.map cellText = otherCells.map cellText)
    (cookies : List (Nat × Nat)) (first : Nat) :
    TableLayout.addCookies cookies first cells = TableLayout.addCookies cookies first otherCells := by
  induction cells generalizing otherCells cookies first with
  | nil => rw [List.map_eq_nil_iff.mp texts.symm]
  | cons cell rest inductionHypothesis =>
    cases otherCells with
    | nil => cases texts
    | cons other otherRest =>
      obtain ⟨sameText, later⟩ := List.cons.inj texts
      simp only [TableLayout.addCookies, sameText, inductionHypothesis later]

/-- The cookies and markers of rows are read alike. -/
theorem readSpecialRows (each : List.Forall₂ ReadAlike rows others) (areRows : ∀ row ∈ rows, row.kind = .tableRow)
    (special : Bool) (cookies : List (Nat × Nat)) (markers : List String) :
    TableLayout.readSpecialRows special cookies markers rows =
      TableLayout.readSpecialRows special cookies markers others := by
  induction each generalizing cookies markers with
  | nil => rfl
  | @cons row other rest otherRest alike _ inductionHypothesis =>
    have later := inductionHypothesis fun row inside => areRows row (List.mem_cons_of_mem _ inside)
    have texts : (row.columnCells special).mapM cellText = (other.columnCells special).mapM cellText := by
      have mapped (cells : List Node) : cells.mapM cellText = (cells.map cellText).mapM id := by
        rw [List.mapM_map]
        rfl
      rw [mapped, mapped, alike.columnCells]
    simp only [TableLayout.readSpecialRows, alike.firstText (areRows row List.mem_cons_self), texts,
      addCookies (alike.columnCells special), later]

/-- Rows that read alike have the same number of cells by column. -/
theorem columnCount (alike : ReadAlike row other) (special : Bool) :
    (row.columnCells special).length = (other.columnCells special).length := by
  have lengths := congrArg List.length (alike.columnCells special)
  rwa [List.length_map, List.length_map] at lengths

/-- The rows of content of rows that read alike read alike. -/
theorem contentRows (each : List.Forall₂ ReadAlike rows others) :
    List.Forall₂ ReadAlike (rows.filter fun row => !row.isRule) (others.filter fun row => !row.isRule) := by
  refine List.rel_filter (fun row other alike => ?_) each
  show (!row.isRule) = true ↔ (!other.isRule) = true
  rw [alike.rowKey?.2]

/-- Rows that read alike have the same keys. -/
theorem keys (each : List.Forall₂ ReadAlike rows others) :
    rows.map Node.rowKey? = others.map Node.rowKey? := by
  induction each with
  | nil => rfl
  | cons alike _ inductionHypothesis => rw [List.map_cons, List.map_cons, alike.rowKey?.1, inductionHypothesis]

/-- Rows that read alike, one to one, have layouts of the same shape, or none for the same reason. -/
theorem ofRows (each : List.Forall₂ ReadAlike rows others) {known : Markup.Footing} :
    Markup.Linked known TableLayout.SameShape (Markup.settle (TableLayout.ofRows rows))
      (Markup.settle (TableLayout.ofRows others)) := by
  unfold TableLayout.ofRows
  rw [hasSpecialColumn, hasSpecialColumn, markerColumn each]
  cases Node.markerColumn false others with
  | error failure => exact .throw failure
  | ok special =>
    simp only [bind, Except.bind]
    rw [specialRows each]
    cases told : others.mapM (Node.isSpecialRow special) with
    | error failure => exact .throw failure
    | ok flags =>
      have areRows : ∀ row ∈ select true flags rows, row.kind = .tableRow := by
        intro row inside
        have isSpecial := ((mem_select_iff ((specialRows each special).trans told) true).mp inside).2
        by_contra noRow
        rw [(read_noRow noRow special).1] at isSpecial
        cases isSpecial
      have instructions := Markup.forall₂_select each true flags
      have exported := Markup.forall₂_select each false flags
      have content := contentRows exported
      have shapes := List.rel_append content instructions
      beta_reduce at shapes
      simp only
      rw [readSpecialRows instructions areRows]
      cases TableLayout.readSpecialRows special [] [] (select true flags others) with
      | error failure => exact .throw failure
      | ok read =>
        refine .pure ⟨?_, keys exported⟩
        simp only [content.length_eq]
        congr 1
        revert shapes
        generalize (select false flags rows).filter (fun row => !row.isRule) ++ select true flags rows = shapes
        generalize (select false flags others).filter (fun row => !row.isRule) ++ select true flags others =
          otherShapes
        intro shapes
        cases shapes with
        | nil => rfl
        | cons alike _ => exact alike.columnCount special

end ReadAlike

namespace Markup

open Node

variable {options : Options} {node other : Node} {nodes others : List Node} {asks : Prop}
  {leftAround rightAround : Option Surroundings} {known : Footing}

/-! ## Linked nodes -/

/-- Two nodes write the same in all surroundings that are linked, where the items that the first lets take
numbers do not disturb what is known. -/
def WriteAlike (options : Options) (node other : Node) : Prop :=
  ∀ {asks : Prop} {leftAround rightAround : Option Surroundings} {known : Footing},
    AroundLinked asks leftAround rightAround → (node.MayTake asks → known.LetsTake) →
      Linked known Eq (node.writer (tableWriter .remembering) options leftAround)
        (other.writer (tableWriter .remembering) options rightAround)

/-- Two nodes of one kind write the same and read alike as rows; so do the parts of a paragraph and of a row,
which items and tables write themselves. -/
structure LinkedNodes (options : Options) (node other : Node) : Prop where
  kind : node.kind = other.kind
  writes : WriteAlike options node other
  parts : node.kind = .paragraph ∨ node.kind = .tableRow →
    List.Forall₂ (WriteAlike options) node.children other.children
  reads : ReadAlike node other

/-- Nodes that write the same have linked writers. -/
theorem linkedEach_writers (each : List.Forall₂ (WriteAlike options) nodes others)
    (around : AroundLinked asks leftAround rightAround)
    (takes : ∀ node ∈ nodes, node.MayTake asks → known.LetsTake) :
    LinkedEach known leftAround rightAround (writers (tableWriter .remembering) options nodes)
      (writers (tableWriter .remembering) options others) := by
  induction each with
  | nil =>
    simp only [writers]
    exact .nil
  | @cons node other rest otherRest writes _ inductionHypothesis =>
    simp only [writers]
    exact .cons (writes around (takes node List.mem_cons_self))
      (inductionHypothesis fun later inside => takes later (List.mem_cons_of_mem node inside))

/-! ## Items -/

/-- An item is written from the content of its first line and its other children. -/
theorem writer_listItem (attributes : Attributes) (children : List Node) :
    (Node.listItem attributes children).writer (tableWriter .remembering) options =
      itemWriter options (writers (tableWriter .remembering) options (leadingContent children))
        ((otherChildren children).map (asItemChild .plain options 0)) := by
  have plain : listedWriter .plain options 0 = writer (tableWriter .remembering) options :=
    funext fun node => listedWriter_plain node
  rw [← plain, listedWriter_item, plain, writers_eq_map]

/-- An item that starts with a paragraph has its content in its first line. -/
theorem item_of_paragraph {first : Node} (isParagraph : first.kind = .paragraph) (rest : List Node) :
    leadingContent (first :: rest) = first.children ∧ otherChildren (first :: rest) = rest := by
  cases first with
  | paragraph => exact ⟨rfl, rfl⟩
  | styled _ style => cases style <;> cases isParagraph
  | _ => cases isParagraph

/-- An item that starts with another node has nothing in its first line. -/
theorem item_of_noParagraph {first : Node} (noParagraph : first.kind ≠ .paragraph) (rest : List Node) :
    leadingContent (first :: rest) = [] ∧ otherChildren (first :: rest) = first :: rest := by
  cases first with
  | paragraph => exact absurd rfl noParagraph
  | _ => exact ⟨rfl, rfl⟩

/-- The first lines of items are written alike, and their other children are linked, when their children
are. -/
theorem item_linked (each : List.Forall₂ (LinkedNodes options) nodes others) :
    List.Forall₂ (WriteAlike options) (leadingContent nodes) (leadingContent others) ∧
      List.Forall₂ (LinkedNodes options) (otherChildren nodes) (otherChildren others) := by
  cases each with
  | nil => exact ⟨.nil, .nil⟩
  | @cons first other rest otherRest linked later =>
    by_cases isParagraph : first.kind = .paragraph
    · have otherIs : other.kind = .paragraph := linked.kind ▸ isParagraph
      rw [(item_of_paragraph isParagraph rest).1, (item_of_paragraph isParagraph rest).2,
        (item_of_paragraph otherIs otherRest).1, (item_of_paragraph otherIs otherRest).2]
      exact ⟨linked.parts (.inl isParagraph), later⟩
    · have otherIs : other.kind ≠ .paragraph := linked.kind ▸ isParagraph
      rw [(item_of_noParagraph isParagraph rest).1, (item_of_noParagraph isParagraph rest).2,
        (item_of_noParagraph otherIs otherRest).1, (item_of_noParagraph otherIs otherRest).2]
      exact ⟨.nil, .cons linked later⟩

/-- A child of an item is written as it is if it is a list, and else as a block on lines. -/
theorem asItemChild_eq (node : Node) :
    node.asItemChild .plain options 0 =
      if node.kind = .list then node.writer (tableWriter .remembering) options
      else lineWriter (node.writer (tableWriter .remembering) options) := by
  cases node with
  | styled _ style => cases style <;> simp [asItemChild, kind, Style.kind, listedWriter_plain]
  | _ => simp [asItemChild, kind, listedWriter_plain]

/-- Linked nodes are linked as children of items, which let items take numbers. -/
theorem LinkedNodes.asItemChild (linked : LinkedNodes options node other)
    (around : AroundLinked asks leftAround rightAround) (lets : known.LetsTake) :
    Linked known Eq (node.asItemChild .plain options 0 leftAround)
      (other.asItemChild .plain options 0 rightAround) := by
  have writes := linked.writes around fun _ => lets
  rw [asItemChild_eq, asItemChild_eq, linked.kind]
  split
  · exact writes
  · exact writes.block.bind_eq fun text => .pure rfl

/-! ## Tables -/

/-- Questions about the columns of a table may let items take numbers: a cell reaches an item. -/
def MeasureItems (rows : List Node) : Prop :=
  ∃ row ∈ rows, ∃ cell ∈ row.columnCells false, cell.ReachesItem

/-- Cells that are written alike are linked in tables whose questions let their items take numbers. -/
theorem linkedCells_writers {cells otherCells : List Node}
    (each : List.Forall₂ (WriteAlike options) cells otherCells)
    (reaches : ∀ cell ∈ cells, cell.ReachesItem → asks) :
    List.Forall₂ (LinkedCells asks) (writers (tableWriter .remembering) options cells)
      (writers (tableWriter .remembering) options otherCells) := by
  induction each with
  | nil =>
    simp only [writers]
    exact .nil
  | @cons cell other rest otherRest writes _ inductionHypothesis =>
    simp only [writers]
    refine .cons (fun leftAround rightAround around known lets => ?_)
      (inductionHypothesis fun later inside => reaches later (List.mem_cons_of_mem cell inside))
    exact writes around fun takes => lets (takes.elim (reaches cell List.mem_cons_self) And.left)

/-- The cells of linked rows are linked. -/
theorem cells_linked (each : List.Forall₂ (LinkedNodes options) nodes others)
    (reaches : ∀ row ∈ nodes, ∀ cell ∈ row.columnCells false, cell.ReachesItem → asks) :
    List.Forall₂ (List.Forall₂ (LinkedCells asks)) (cellWriters (tableWriter .remembering) options nodes)
      (cellWriters (tableWriter .remembering) options others) := by
  rw [cellWriters_eq_map, cellWriters_eq_map]
  induction each with
  | nil => exact .nil
  | @cons row other rest otherRest linked _ inductionHypothesis =>
    refine .cons (linkedCells_writers ?_ (reaches row List.mem_cons_self))
      (inductionHypothesis fun later inside => reaches later (List.mem_cons_of_mem row inside))
    obtain ⟨-, -, parts, reads⟩ := linked
    cases reads with
    | cells => exact parts (.inr rfl)
    | rule => exact .nil
    | noRows noRow noOther =>
      obtain ⟨-, -, -, noCells, -⟩ := read_noRow noRow false
      obtain ⟨-, -, -, otherNoCells, -⟩ := read_noRow noOther false
      rw [noCells, otherNoCells]
      exact .nil

/-! ## Nodes of the same form -/

/-- What a child of a linked node may let take is what the node may, unless it is a list or a table. -/
theorem linkedEach_children (each : List.Forall₂ (LinkedNodes options) node.children nodes)
    (around : AroundLinked asks leftAround rightAround) (takes : node.MayTake asks → known.LetsTake)
    (passed : ¬ (node.kind = .list ∨ node.kind = .table)) :
    LinkedEach known leftAround rightAround (writers (tableWriter .remembering) options node.children)
      (writers (tableWriter .remembering) options nodes) :=
  linkedEach_writers (each.imp fun _ _ linked => linked.writes) around fun _ isChild taken =>
    takes (taken.ofChild passed isChild)

/-- Nodes of one form write alike when their children are linked and read alike as rows. -/
theorem writeAlike_withChildren (each : List.Forall₂ (LinkedNodes options) node.children nodes) :
    WriteAlike options node (node.withChildren nodes) := by
  intro asks leftAround rightAround known around takes
  have children := linkedEach_children each around takes
  cases node with
  | list attributes ordered start items =>
    simp only [withChildren, writer]
    exact linked_listWriter ordered start fun level number outer =>
      linkedEach_writers (each.imp fun _ _ linked => linked.writes) around
        fun _ _ _ => Footing.letsTake_inside level number outer
  | listItem attributes own =>
    have lets := takes (.inl ⟨_, rfl, .self _⟩)
    obtain ⟨leading, others⟩ := item_linked each
    simp only [withChildren, writer_listItem]
    refine linked_itemWriter options lets (linkedEach_writers leading around fun _ _ _ => lets) ?_
    rw [LinkedEach, List.forall₂_map_left_iff, List.forall₂_map_right_iff]
    exact others.imp fun _ _ linked => linked.asItemChild around lets
  | table attributes key rows =>
    have tableNoList : (Node.table attributes key rows).kind ≠ .list := by simp [kind]
    -- What a cell reaches is reached from the table.
    have measured : MeasureItems rows → known.LetsTake := by
      rintro ⟨row, isRow, cell, isCell, reaches⟩
      have noList : row.kind ≠ .list := by
        cases row with
        | tableRow => simp [kind]
        | _ => cases isCell
      have fromRow := reaches.ofChild noList (columnCells_subset false row isCell)
      exact takes (.inl (fromRow.ofChild tableNoList isRow))
    have cells := cells_linked each fun row isRow cell isCell reaches =>
      (⟨row, isRow, cell, isCell, reaches⟩ : MeasureItems rows)
    simp only [withChildren, writer]
    refine linked_tableWriter (ReadAlike.ofRows (each.imp fun _ _ linked => linked.reads)) measured
      (fun _ _ inside => ?_) cells key
    refine linkedEach_writers (each.imp fun _ _ linked => linked.writes) inside fun row isRow taken => ?_
    exact taken.elim (fun reaches => takes (.inl (reaches.ofChild tableNoList isRow)))
      fun asked => measured asked.1
  | tableRow attributes key cells =>
    simp only [withChildren, writer]
    exact linked_rowWriter around (fun asked => takes (.inr ⟨asked, _, rfl, .self _⟩)) (children (by simp [kind]))
  | ruleRow attributes key =>
    simp only [withChildren, writer]
    exact linked_ruleWriter around (fun asked => takes (.inr ⟨asked, _, rfl, .self _⟩)) _
  | document attributes own | blockQuote attributes own =>
    simp only [withChildren, writer]
    exact (linked_blocks (children (by simp [kind]))).bind_eq fun texts => .pure rfl
  | heading attributes level content =>
    simp only [withChildren, writer]
    exact (linked_capture (children (by simp [kind]))).bind_eq fun text =>
      (Linked.settle (headingMark level)).bind_eq fun mark => .pure rfl
  | codeBlock attributes content language =>
    simp only [withChildren, writer]
    exact (Linked.settle (codeBlockText options content language)).bind_eq fun text => .pure rfl
  | paragraph | tableCell | link =>
    simp only [withChildren, writer]
    exact (linked_capture (children (by simp [kind]))).bind_eq fun text => .pure rfl
  | styled attributes style =>
    simp only [withChildren, writer]
    exact (linked_capture (children (by cases style <;> simp [kind, Style.kind]))).bind_eq fun text => .pure rfl
  | _ =>
    simp only [withChildren, writer]
    exact .pure rfl

/-- Nodes of one form are linked when their children are, if cells of a row have the same texts. -/
theorem linkedNodes_withChildren (each : List.Forall₂ (LinkedNodes options) node.children nodes)
    (texts : node.kind = .tableRow → node.children.map cellText = nodes.map cellText) :
    LinkedNodes options node (node.withChildren nodes) where
  kind := (kind_withChildren node nodes).symm
  writes := writeAlike_withChildren each
  parts isPart := by
    have same : (node.withChildren nodes).children = nodes := by
      cases node with
      | codeBlock | ruleRow | thematicBreak | text | code | image | lineBreak =>
        cases each
        rfl
      | _ => rfl
    rw [same]
    exact each.imp fun _ _ linked => linked.writes
  reads := by
    by_cases isRow : node.kind = .tableRow
    · cases node with
      | tableRow => exact .cells (texts rfl)
      | ruleRow => exact .rule
      | styled _ style => cases style <;> cases isRow
      | _ => cases isRow
    · exact .noRows isRow (by rwa [kind_withChildren])

/-- Every node is linked to itself. -/
theorem linkedNodes_self (node : Node) : LinkedNodes options node node := by
  induction node using Node.inductionChildren with
  | step node inductionHypothesis =>
    have each : List.Forall₂ (LinkedNodes options) node.children node.children :=
      List.forall₂_same.mpr inductionHypothesis
    have linked := linkedNodes_withChildren each fun _ => rfl
    rwa [withChildren_children] at linked

/-- Rendering linked trees takes linked steps. -/
theorem LinkedNodes.renderTree (linked : LinkedNodes options node other) :
    Linked (fun _ _ => True) Eq (renderTree (tableWriter .remembering) options node)
      (renderTree (tableWriter .remembering) options other) := by
  have alone : AroundLinked True none none := .outside
  have written : Linked (fun _ _ => True) Eq (node.writer (tableWriter .remembering) options none)
      (other.writer (tableWriter .remembering) options none) :=
    linked.writes alone fun _ _ _ _ => trivial
  exact written.captureOne.map fun text _ same => congrArg finishText same

/-! ## The table around a node -/

/-- The table that is being written: its key and its layout. -/
structure CurrentTable where
  key : Nat
  layout : TableLayout

namespace CurrentTable

variable (table : CurrentTable)

/-- The writers of the cells of each exported row. -/
def grid (options : Options) : List (List Writer) :=
  table.layout.rows.map fun row => writers (tableWriter .remembering) options (table.layout.cells row)

/-- What stands around the nodes inside the table. -/
def surroundings (options : Options) : Surroundings :=
  Markup.surroundings .remembering table.key table.layout (table.grid options)
    (questionBound (table.grid options))

/-- Questions about the columns of the table may let items take numbers. -/
def MeasuresItem : Prop :=
  ∃ row ∈ table.layout.rows, ∃ cell ∈ table.layout.cells row, cell.ReachesItem

/-- The table around a node is linked to itself. -/
theorem aroundLinked (options : Options) (current : Option CurrentTable) :
    AroundLinked (∃ table ∈ current, table.MeasuresItem) (current.map (surroundings · options))
      (current.map (surroundings · options)) := by
  cases current with
  | none => exact .outside
  | some table =>
    refine linked_surroundings (.refl table.layout) ?_ table.key _
    rw [grid, List.forall₂_map_left_iff, List.forall₂_map_right_iff, List.forall₂_same]
    intro row inside
    refine linkedCells_writers (List.forall₂_same.mpr fun cell _ => (linkedNodes_self cell).writes) ?_
    exact fun cell isCell reaches => ⟨table, rfl, row, inside, cell, isCell, reaches⟩

end CurrentTable

end Markup

end OutlineWiki
