import OutlineWiki.Proofs.LinkedNodes

/-!
# Tables without columns

A table without columns writes nothing. Documents and block quotes leave out blocks that show nothing, so
such a table among their blocks leaves no trace, wherever they stand. An item has no such filter: each of
its children but a list ends with a line feed, and so does a table that writes nothing.
-/

namespace OutlineWiki

namespace Node

/-- A table whose layout has no columns. -/
def IsColumnless (node : Node) : Prop :=
  ∃ attributes key rows layout, node = .table attributes key rows ∧ TableLayout.ofRows rows = .ok layout ∧
    layout.columnCount = 0

/-- One tree is another without a table that has no columns and is a block of a document or of a block
quote. A cell around it keeps its plain text, of which the layout of the cell's table is read. -/
inductive LeavesOut : Node → Node → Prop where
  | document {attributes : Attributes} {before after : List Node} {table : Node} : table.IsColumnless →
      LeavesOut (.document attributes (before ++ table :: after)) (.document attributes (before ++ after))
  | blockQuote {attributes : Attributes} {before after : List Node} {table : Node} : table.IsColumnless →
      LeavesOut (.blockQuote attributes (before ++ table :: after)) (.blockQuote attributes (before ++ after))
  | inside {node child other : Node} {before after : List Node} : node.children = before ++ child :: after →
      LeavesOut child other → (node.kind = .tableRow → child.cellText = other.cellText) →
      LeavesOut node (node.withChildren (before ++ other :: after))

end Node

namespace Markup

open Node

variable {options : Options} {asks : Prop} {leftAround rightAround : Option Surroundings} {known : Footing}
  {before after : List Node} {table : Node}

/-! ## Blocks -/

/-- The block of a table without columns is empty. -/
theorem block_columnless (options : Options) (columnless : table.IsColumnless) (around : Option Surroundings) :
    ∃ notice, block (table.writer (tableWriter .remembering) options) around =
      note notice >>= fun _ => pure "" := by
  obtain ⟨attributes, key, rows, layout, rfl, made, none⟩ := columnless
  refine ⟨.renderingTable layout.rowCount layout.columnCount, ?_⟩
  have settled : settle (TableLayout.ofRows rows) = pure layout := by
    rw [made]
    rfl
  have written : (Node.table attributes key rows).writer (tableWriter .remembering) options around =
      note (.renderingTable layout.rowCount layout.columnCount) >>= fun _ => pure [] := by
    simp only [writer, tableWriter, settled, pure_bind, none, if_true]
  simp only [block, capture, inSequence, written, bind_assoc, pure_bind, List.append_nil]
  rfl

/-- The blocks of two lists of writers are those of the first and then those of the second. -/
theorem blocks_append (first second : List Writer) (around : Option Surroundings) :
    blocks (first ++ second) around =
      blocks first around >>= fun texts => blocks second around >>= fun more => pure (texts ++ more) := by
  induction first with
  | nil => simp [blocks]
  | cons writer rest inductionHypothesis => simp [blocks, inductionHypothesis]

/-- Blocks that show nothing are not joined. -/
theorem joinBlocks_nothing (texts more : List String) :
    joinBlocks (texts ++ "" :: more) = joinBlocks (texts ++ more) := by
  rw [joinBlocks, joinBlocks, List.filter_append, List.filter_append, List.filter_cons_of_neg (by decide)]

/-- Nodes have linked writers at two places of which each is around a table when the other is. -/
theorem linkedEach_self (options : Options) {nodes : List Node}
    (around : AroundLinked asks leftAround rightAround)
    (takes : ∀ node ∈ nodes, node.MayTake asks → known.LetsTake) :
    LinkedEach known leftAround rightAround (writers (tableWriter .remembering) options nodes)
      (writers (tableWriter .remembering) options nodes) :=
  linkedEach_writers (List.forall₂_same.mpr fun node _ => (linkedNodes_self node).writes) around takes

/-- The blocks around a table without columns are joined as without it. -/
theorem linked_joinBlocks (columnless : table.IsColumnless) (around : AroundLinked asks leftAround rightAround)
    (takes : ∀ node ∈ before ++ after, node.MayTake asks → known.LetsTake) :
    Linked known (fun texts others => joinBlocks texts = joinBlocks others)
      (blocks (writers (tableWriter .remembering) options (before ++ table :: after)) leftAround)
      (blocks (writers (tableWriter .remembering) options (before ++ after)) rightAround) := by
  have each {nodes : List Node} (part : nodes ⊆ before ++ after) :=
    linked_blocks (linkedEach_self options around fun node inside => takes node (part inside))
  obtain ⟨notice, nothing⟩ := block_columnless options columnless leftAround
  rw [writers_eq_map, writers_eq_map, List.map_append, List.map_append, List.map_cons, blocks_append,
    blocks_append, ← writers_eq_map, ← writers_eq_map, blocks, nothing]
  refine (each (List.subset_append_left _ _)).bind_eq fun texts => ?_
  simp only [bind_assoc, pure_bind]
  refine .note_left notice ((each (List.subset_append_right _ _)).bind_eq fun more => .pure ?_)
  exact joinBlocks_nothing texts more

/-- Trees of which one leaves out tables without columns are linked. -/
theorem linkedNodes_of_leavesOut {node other : Node} (leaves : LeavesOut node other) :
    LinkedNodes options node other := by
  induction leaves with
  | @document attributes before after table columnless
  | @blockQuote attributes before after table columnless =>
    refine ⟨rfl, fun around takes => ?_, by simp [kind], .noRows (by simp [kind]) (by simp [kind])⟩
    simp only [writer]
    have below : before ++ after ⊆ before ++ table :: after :=
      ((List.sublist_cons_self table after).append_left before).subset
    exact (linked_joinBlocks columnless around fun child inside taken =>
      takes (taken.ofChild (by simp [kind]) (below inside))).bind fun texts others same =>
        .pure (by rw [same])
  | @inside node child other before after isChild _ texts inductionHypothesis =>
    refine linkedNodes_withChildren ?_ ?_
    · rw [isChild]
      exact List.rel_append (List.forall₂_same.mpr fun node _ => linkedNodes_self node)
        (.cons inductionHypothesis (List.forall₂_same.mpr fun node _ => linkedNodes_self node))
    · intro isRow
      rw [isChild]
      simp [texts isRow]

/-- Linked trees are rendered alike. -/
theorem render_eq_of_linked {tree other : Node} (linked : LinkedNodes options tree other) :
    render options tree = render options other := by
  rw [render_eq_renderedBy, render_eq_renderedBy, renderedBy, renderedBy]
  rcases linked.renderTree.comes_to (.refl {}) trivial with
    ⟨_, _, _, _, run, otherRun, rfl, -⟩ | ⟨_, _, _, run, otherRun⟩
  · rw [run, otherRun]
  · rw [run, otherRun]

/-! ## Items -/

/-- Pieces are others with an empty line between. -/
def OneLineMore (pieces others : List Json) : Prop :=
  ∃ first second, pieces = first ++ .string "\n" :: second ∧ others = first ++ second

/-- An empty line among later pieces is one among all of them. -/
theorem OneLineMore.behind {pieces others : List Json} (more : OneLineMore pieces others)
    (earlier : List Json) : OneLineMore (earlier ++ pieces) (earlier ++ others) := by
  obtain ⟨first, second, rfl, rfl⟩ := more
  exact ⟨earlier ++ first, second, by simp, by simp⟩

/-- Writers in sequence write what the first ones write and then what the others write. -/
theorem inSequence_append (first second : List Writer) (around : Option Surroundings) :
    inSequence (first ++ second) around =
      inSequence first around >>= fun pieces =>
        inSequence second around >>= fun more => pure (pieces ++ more) := by
  induction first with
  | nil => simp [inSequence]
  | cons writer rest inductionHypothesis =>
    simp only [List.cons_append, inSequence, inductionHypothesis, bind_assoc, pure_bind, List.append_assoc]

/-- A table without columns is an empty line of an item. -/
theorem asItemChild_columnless (options : Options) (columnless : table.IsColumnless)
    (around : Option Surroundings) :
    ∃ notice, table.asItemChild .plain options 0 around =
      note notice >>= fun _ => pure [.string "\n"] := by
  obtain ⟨notice, nothing⟩ := block_columnless options columnless around
  refine ⟨notice, ?_⟩
  obtain ⟨attributes, key, rows, layout, rfl, -⟩ := columnless
  rw [asItemChild_eq, if_neg (by simp [kind]), lineWriter, nothing]
  rfl

/-- The other children of an item end with what stands below its first child. -/
theorem item_split (first : Node) :
    ∃ leading others, ∀ rest,
      leadingContent (first :: rest) = leading ∧ otherChildren (first :: rest) = others ++ rest := by
  by_cases isParagraph : first.kind = .paragraph
  · exact ⟨first.children, [], item_of_paragraph isParagraph⟩
  · exact ⟨[], [first], item_of_noParagraph isParagraph⟩

/-- What an item writes with a table without columns below its first child is what it writes without, and one
empty line. -/
theorem linked_oneLineMore (columnless : table.IsColumnless) (attributes : Attributes) (first : Node)
    (around : AroundLinked asks leftAround rightAround) (lets : known.LetsTake) :
    Linked known OneLineMore
      ((Node.listItem attributes (first :: (before ++ table :: after))).writer (tableWriter .remembering) options
        leftAround)
      ((Node.listItem attributes (first :: (before ++ after))).writer (tableWriter .remembering) options
        rightAround) := by
  obtain ⟨leading, others, split⟩ := item_split first
  have text := linked_capture (linkedEach_self options around fun node (_ : node ∈ leading) _ => lets)
  have each (nodes : List Node) : Linked known Eq
      (inSequence (nodes.map (asItemChild .plain options 0)) leftAround)
      (inSequence (nodes.map (asItemChild .plain options 0)) rightAround) := by
    refine linked_inSequence ?_
    rw [LinkedEach, List.forall₂_map_left_iff, List.forall₂_map_right_iff, List.forall₂_same]
    exact fun node _ => (linkedNodes_self node).asItemChild around lets
  obtain ⟨notice, line⟩ := asItemChild_columnless options columnless leftAround
  have lines : Linked known OneLineMore
      (inSequence ((others ++ (before ++ table :: after)).map (asItemChild .plain options 0)) leftAround)
      (inSequence ((others ++ (before ++ after)).map (asItemChild .plain options 0)) rightAround) := by
    have mapped (rest : List Node) : (others ++ (before ++ rest)).map (asItemChild .plain options 0) =
        (others ++ before).map (asItemChild .plain options 0) ++ rest.map (asItemChild .plain options 0) := by
      rw [← List.append_assoc, List.map_append]
    rw [mapped, mapped, List.map_cons, inSequence_append, inSequence_append]
    refine (each (others ++ before)).bind_eq fun pieces => ?_
    simp only [inSequence, line, bind_assoc, pure_bind]
    refine .note_left notice ((each after).bind_eq fun more => .pure ?_)
    exact .behind ⟨[], more, rfl, rfl⟩ pieces
  rw [writer_listItem, writer_listItem, (split _).1, (split _).1, (split _).2, (split _).2, itemWriter_eq,
    itemWriter_eq]
  exact Linked.listLevel.bind_eq fun level => (Linked.takeNumber lets).bind_eq fun number =>
    text.bind_eq fun text => lines.bind fun pieces others more => .pure (more.behind [_])

end Markup

open Markup

/-- A table without columns leaves no trace among the blocks of documents and block quotes: wherever one
stands in a tree, the tree is rendered as without it, or fails for the same reason, whatever the options. In
an item, below the first child, it leaves one empty line: whatever the state and the table around, a visit of
the item writes what it writes without the table and a line feed between, and leaves a state that differs in
nothing but its notices; or both fail for the same reason. -/
theorem columnless_tables_left_out (options : Options) :
    (∀ tree rest, Node.LeavesOut tree rest → render options tree = render options rest) ∧
      ∀ attributes first before table after, table.IsColumnless →
        ∀ (current : Option CurrentTable) (state : State),
          LinkedEnds (fun _ _ => True) OneLineMore
            (((Node.listItem attributes (first :: (before ++ table :: after))).writer (tableWriter .remembering)
              options (current.map (CurrentTable.surroundings · options))).run state)
            (((Node.listItem attributes (first :: (before ++ after))).writer (tableWriter .remembering)
              options (current.map (CurrentTable.surroundings · options))).run state) := by
  refine ⟨fun tree rest leaves => render_eq_of_linked (linkedNodes_of_leavesOut leaves), ?_⟩
  intro attributes first before table after columnless current state
  exact linked_oneLineMore columnless attributes first (CurrentTable.aroundLinked options current)
    (fun _ _ _ => trivial) state state (.refl state) trivial

/-- A table without columns between two paragraphs of a quote. -/
def quotedColumnless : Node :=
  .document {} [.blockQuote {} [.paragraph {} [.text {} (.string "a")], .table {} 0 [],
    .paragraph {} [.text {} (.string "b")]]]

/-- A table without rows has no columns. -/
theorem rowless_isColumnless (attributes : Attributes) (key : Nat) :
    (Node.table attributes key []).IsColumnless :=
  ⟨attributes, key, [], _, rfl, rfl, rfl⟩

/-- A table without columns in a quote in a document leaves no trace. -/
theorem quotedColumnless_left_out :
    render {} quotedColumnless =
      render {} (.document {} [.blockQuote {} [.paragraph {} [.text {} (.string "a")],
        .paragraph {} [.text {} (.string "b")]]]) := by
  have quote : Node.LeavesOut (.blockQuote {} ([.paragraph {} [.text {} (.string "a")]] ++
      .table {} 0 [] :: [.paragraph {} [.text {} (.string "b")]])) _ :=
    .blockQuote (rowless_isColumnless {} 0)
  have tree : Node.LeavesOut quotedColumnless _ :=
    @Node.LeavesOut.inside _ _ _ [] [] rfl quote (by simp [quotedColumnless, Node.kind])
  exact (columnless_tables_left_out {}).1 _ _ tree

/-- An item between whose paragraphs stand some blocks. -/
def itemAround (blocks : List Node) : Node :=
  .document {} [.list {} (.bool false) (.int 1) [.listItem {} (.paragraph {} [.text {} (.string "a")] ::
    (blocks ++ [.paragraph {} [.text {} (.string "b")]]))]]

/-- A table without columns below the first child of an item shows as an empty line. -/
theorem columnless_table_shows :
    (Node.table {} 0 []).IsColumnless ∧
      (render {} (itemAround [.table {} 0 []])).toOption = some " * a\n\nb\n" ∧
      (render {} (itemAround [])).toOption = some " * a\nb\n" :=
  ⟨rowless_isColumnless {} 0, by decide +kernel, by decide +kernel⟩

end OutlineWiki
