import OutlineWiki.Proofs.ListForms
import OutlineWiki.Proofs.StrayRows

/-!
# Steps that come to the same end

Two steps are the same at some list levels when they come to the same end, values, failures and states
alike, from every state with such a level. The steps of a rendering leave the level as it was, and of the
numbers of the open lists they change at most the innermost, which an item may have taken; so what follows
them starts from the same level. Without a second step this is what a step keeps of the state.
-/

namespace OutlineWiki.Markup

variable {α β : Type} {levels : Nat → Prop}

/-- One state comes after another with the same list level and the same numbers, of which an item may have
taken the innermost. -/
structure State.Follows (after before : State) : Prop where
  listLevel : after.listLevel = before.listLevel
  numbers : after.numbers = before.numbers ∨ after.numbers = numbersAfterItem before.numbers

/-- A state follows itself. -/
theorem State.Follows.refl (state : State) : state.Follows state :=
  ⟨rfl, .inl rfl⟩

/-- What follows a later state follows the earlier one. -/
theorem State.Follows.trans {after between before : State} (later : after.Follows between)
    (earlier : between.Follows before) : after.Follows before := by
  refine ⟨later.listLevel.trans earlier.listLevel, ?_⟩
  rcases later.numbers with kept | taken
  · rw [kept]
    exact earlier.numbers
  · rw [taken]
    rcases earlier.numbers with kept | takenBefore
    · rw [kept]
      exact .inr rfl
    · rw [takenBefore, numbersAfterItem_numbersAfterItem]
      exact .inr rfl

/-- Two steps come to the same end from every state with some list levels, and leave a state that follows
it when they give a value. -/
def SameAt (levels : Nat → Prop) (left right : Render α) : Prop :=
  ∀ state, levels state.listLevel → left.run state = right.run state ∧
    ∀ value after, right.run state = .ok value after → after.Follows state

/-! ## Steps -/

namespace SameAt

/-- A step that leaves the state as it is gives the same as itself. -/
theorem of_still {step : Render α}
    (still : ∀ state, ∃ value, step.run state = .ok value state) : SameAt levels step step := by
  intro state _
  refine ⟨rfl, fun value after run => ?_⟩
  obtain ⟨_, same⟩ := still state
  obtain ⟨-, rfl⟩ := EStateM.Result.ok.inj (same.symm.trans run)
  exact .refl state

/-- A step that only gives a value. -/
theorem pure (value : α) : SameAt levels (Pure.pure value) (Pure.pure value) :=
  of_still fun _ => ⟨value, rfl⟩

/-- A step that only fails. -/
theorem throw (failure : Failure) :
    SameAt levels (MonadExcept.throw failure : Render α) (MonadExcept.throw failure) :=
  fun _ _ => ⟨rfl, fun _ _ run => by cases run⟩

/-- A step that is settled without a look at the state. -/
theorem settle (outcome : Except Failure α) : SameAt levels (Markup.settle outcome) (Markup.settle outcome) := by
  cases outcome with
  | ok value => exact pure value
  | error failure => exact throw failure

/-- Steps that are the same, one after the other. -/
theorem bind {left right : Render α} {leftNext rightNext : α → Render β} (first : SameAt levels left right)
    (second : ∀ value, SameAt levels (leftNext value) (rightNext value)) :
    SameAt levels (left >>= leftNext) (right >>= rightNext) := by
  intro state atLevel
  obtain ⟨sameEnd, follows⟩ := first state atLevel
  rw [EStateM.run_bind, EStateM.run_bind, sameEnd]
  cases run : right.run state with
  | error failure after => exact ⟨rfl, fun _ _ run => by cases run⟩
  | ok value between =>
    have betweenFollows := follows value between run
    have later := second value between (betweenFollows.listLevel ▸ atLevel)
    exact ⟨later.1, fun last after run => (later.2 last after run).trans betweenFollows⟩

/-- Changing the value of steps that are the same. -/
theorem map {left right : Render α} (change : α → β) (known : SameAt levels left right) :
    SameAt levels (change <$> left) (change <$> right) := by
  rw [map_eq_pure_bind, map_eq_pure_bind]
  exact known.bind fun value => pure (change value)

/-- Giving a notice. -/
theorem note (notice : Notice) : SameAt levels (Markup.note notice) (Markup.note notice) := by
  intro state _
  refine ⟨rfl, fun value after run => ?_⟩
  obtain ⟨-, rfl⟩ := EStateM.Result.ok.inj run
  exact ⟨rfl, .inl rfl⟩

/-- Taking the number of an item. -/
theorem takeNumber : SameAt levels Markup.takeNumber Markup.takeNumber := by
  intro state _
  refine ⟨rfl, fun value after run => ?_⟩
  rw [run_takeNumber] at run
  obtain ⟨-, rfl⟩ := EStateM.Result.ok.inj run
  exact ⟨rfl, .inr rfl⟩

/-- A question that is answered by the memory of widths, when the measures are the same. -/
theorem remembering {left right : Render Nat} (known : SameAt levels left right) (table column : Nat)
    (cookie? : Option Nat) :
    SameAt levels (WidthFinder.remembering table cookie? column left)
      (WidthFinder.remembering table cookie? column right) := by
  have answer : SameAt levels (cookieOrMeasure cookie? left) (cookieOrMeasure cookie? right) := by
    cases cookie? with
    | none => exact known
    | some width => exact pure width
  intro state atLevel
  have turned : (state.turned table).Follows state := ⟨rfl, .inl rfl⟩
  obtain ⟨sameEnd, follows⟩ := answer (state.turned table) atLevel
  rw [run_remembering, run_remembering, sameEnd]
  refine ⟨rfl, ?_⟩
  cases (state.widths.turnTo table).stored? column with
  | some width =>
    intro _ after run
    obtain ⟨-, rfl⟩ := EStateM.Result.ok.inj run
    exact turned
  | none =>
    cases measured : (cookieOrMeasure cookie? right).run (state.turned table) with
    | error failure last =>
      intro _ after run
      cases run
    | ok width last =>
      intro _ after run
      obtain ⟨-, rfl⟩ := EStateM.Result.ok.inj run
      have lastFollows := (follows width last measured).trans turned
      exact ⟨lastFollows.listLevel, lastFollows.numbers⟩

/-- Steps that are the same at some levels are so at fewer. -/
theorem mono {fewer : Nat → Prop} {left right : Render α} (known : SameAt levels left right)
    (are : ∀ level, fewer level → levels level) : SameAt fewer left right :=
  fun state atLevel => known state (are _ atLevel)

/-- What two steps keep of the state one of them keeps. -/
theorem right {first second : Render α} (known : SameAt levels first second) : SameAt levels second second :=
  fun state atLevel => ⟨rfl, (known state atLevel).2⟩

end SameAt

/-! ## Writers -/

/-- Two tables around a node have the same layout and find widths by steps that are the same at some list
levels; or there is none. -/
inductive SameAround (levels : Nat → Prop) : Option Surroundings → Option Surroundings → Prop where
  | outside : SameAround levels none none
  | inside {layout : TableLayout} {leftWidth rightWidth : Nat → Render Nat} :
    (∀ column, SameAt levels (leftWidth column) (rightWidth column)) →
      SameAround levels (some ⟨layout, leftWidth⟩) (some ⟨layout, rightWidth⟩)

/-- Widths that are found by the same steps at some levels are so at fewer. -/
theorem SameAround.mono {fewer : Nat → Prop} {leftAround rightAround : Option Surroundings}
    (known : SameAround levels leftAround rightAround) (are : ∀ level, fewer level → levels level) :
    SameAround fewer leftAround rightAround := by
  cases known with
  | outside => exact .outside
  | inside widths => exact .inside fun column => (widths column).mono are

/-- What two ways to find widths keep of the state one of them keeps. -/
theorem SameAround.right {leftAround rightAround : Option Surroundings}
    (known : SameAround levels leftAround rightAround) : SameAround levels rightAround rightAround := by
  cases known with
  | outside => exact .outside
  | inside widths => exact .inside fun column => (widths column).right

variable {Item : Type} {items : List Item} {left right : Item → Writer}
  {leftAround rightAround : Option Surroundings}

/-- Writers that are the same, each for itself. -/
theorem same_visitEach
    (each : ∀ item ∈ items, SameAt levels (left item leftAround) (right item rightAround)) :
    SameAt levels (visitEach (items.map left) leftAround) (visitEach (items.map right) rightAround) := by
  induction items with
  | nil => exact .pure []
  | cons item rest inductionHypothesis =>
    exact (each item List.mem_cons_self).bind fun pieces =>
      (inductionHypothesis fun later inside => each later (List.mem_cons_of_mem item inside)).bind
        fun others => .pure (pieces :: others)

/-- Writers that are the same in sequence. -/
theorem same_inSequence
    (each : ∀ item ∈ items, SameAt levels (left item leftAround) (right item rightAround)) :
    SameAt levels (inSequence (items.map left) leftAround) (inSequence (items.map right) rightAround) := by
  rw [inSequence_eq_visitEach, inSequence_eq_visitEach]
  exact (same_visitEach each).map List.flatten

/-- Capturing what writers write that are the same. -/
theorem same_capture
    (each : ∀ item ∈ items, SameAt levels (left item leftAround) (right item rightAround)) :
    SameAt levels (capture (items.map left) leftAround) (capture (items.map right) rightAround) :=
  (same_inSequence each).bind fun pieces => .settle (joinPieces pieces)

/-- Capturing what one writer writes, when two are the same. -/
theorem SameAt.captureOne {first second : Writer} (known : SameAt levels (first leftAround) (second rightAround)) :
    SameAt levels (capture [first] leftAround) (capture [second] rightAround) :=
  @same_capture _ Unit [()] (fun _ => first) (fun _ => second) _ _ fun _ _ => known

/-- The blocks of two writers that are the same. -/
theorem SameAt.block {first second : Writer} (known : SameAt levels (first leftAround) (second rightAround)) :
    SameAt levels (Markup.block first leftAround) (Markup.block second rightAround) :=
  known.captureOne.bind fun text => .pure (Text.stripNewlinesEnd text)

/-- The blocks of writers that are the same. -/
theorem same_blocks
    (each : ∀ item ∈ items, SameAt levels (left item leftAround) (right item rightAround)) :
    SameAt levels (blocks (items.map left) leftAround) (blocks (items.map right) rightAround) := by
  induction items with
  | nil => exact .pure []
  | cons item rest inductionHypothesis =>
    exact (each item List.mem_cons_self).block.bind fun text =>
      (inductionHypothesis fun later inside => each later (List.mem_cons_of_mem item inside)).bind
        fun texts => .pure (text :: texts)

/-! ## Tables -/

variable {rows : List (List Item)}

/-- Measuring a column of cells that are the same. -/
theorem same_measureColumn
    (each : ∀ cells ∈ rows, ∀ cell ∈ cells, SameAt levels (left cell leftAround) (right cell rightAround))
    (column : Nat) :
    SameAt levels (measureColumn column leftAround (rows.map (·.map left)))
      (measureColumn column rightAround (rows.map (·.map right))) := by
  induction rows with
  | nil => exact .pure 0
  | cons cells rest inductionHypothesis =>
    have later := inductionHypothesis fun others inside => each others (List.mem_cons_of_mem cells inside)
    simp only [List.map_cons, measureColumn, List.getElem?_map]
    cases found : cells[column]? with
    | none => exact (SameAt.pure 0).bind fun width => later.bind fun widest => .pure (max width widest)
    | some cell =>
      have cell_same := each cells List.mem_cons_self cell (List.mem_of_getElem? found)
      exact (cell_same.captureOne.map Text.displayWidth).bind fun width =>
        later.bind fun widest => .pure (max width widest)

/-- Tables of cells that are the same wherever widths are found by the same steps have the same
surroundings inside, however far questions nest. -/
theorem same_surroundings
    (each : ∀ cells ∈ rows, ∀ cell ∈ cells, ∀ leftAround rightAround,
      SameAround levels leftAround rightAround → SameAt levels (left cell leftAround) (right cell rightAround))
    (table : Nat) (layout : TableLayout) (bound : Nat) :
    SameAround levels (some (surroundings .remembering table layout (rows.map (·.map left)) bound))
      (some (surroundings .remembering table layout (rows.map (·.map right)) bound)) := by
  induction bound with
  | zero =>
    exact .inside fun column => (SameAt.throw .endless).remembering table column (layout.cookie? column)
  | succ bound inductionHypothesis =>
    refine .inside fun column => ?_
    exact (same_measureColumn (fun cells inside cell isCell => each cells inside cell isCell _ _
      inductionHypothesis) column).remembering table column (layout.cookie? column)

variable {layout : TableLayout} {leftWidth rightWidth : Nat → Render Nat}

/-- The widths of columns that are found by the same steps. -/
theorem same_columnWidthsFrom (widths : ∀ column, SameAt levels (leftWidth column) (rightWidth column))
    (first count : Nat) :
    SameAt levels (columnWidthsFrom ⟨layout, leftWidth⟩ first count)
      (columnWidthsFrom ⟨layout, rightWidth⟩ first count) := by
  induction count generalizing first with
  | zero => exact .pure []
  | succ count inductionHypothesis =>
    exact (widths first).bind fun width => (inductionHypothesis (first + 1)).bind
      fun others => .pure (width :: others)

/-- Cells that are the same in tables whose widths are found by the same steps. -/
theorem same_writeCells (widths : ∀ column, SameAt levels (leftWidth column) (rightWidth column))
    (each : ∀ item ∈ items,
      SameAt levels (left item (some ⟨layout, leftWidth⟩)) (right item (some ⟨layout, rightWidth⟩)))
    (column : Nat) :
    SameAt levels (writeCells ⟨layout, leftWidth⟩ column (items.map left))
      (writeCells ⟨layout, rightWidth⟩ column (items.map right)) := by
  induction items generalizing column with
  | nil => exact .pure []
  | cons item rest inductionHypothesis =>
    exact (each item List.mem_cons_self).captureOne.bind fun content => (widths column).bind fun width =>
      (inductionHypothesis (fun later inside => each later (List.mem_cons_of_mem item inside))
        (column + 1)).bind fun boxes => .pure _

/-- Rows of cells that are the same. -/
theorem same_rowWriter (around : SameAround levels leftAround rightAround)
    (each : ∀ item ∈ items, SameAt levels (left item leftAround) (right item rightAround)) :
    SameAt levels (rowWriter (items.map left) leftAround) (rowWriter (items.map right) rightAround) := by
  cases around with
  | outside => exact .throw .strayRow
  | @inside layout leftWidth rightWidth widths =>
    simp only [rowWriter]
    split
    · rw [← List.map_drop, ← List.map_drop]
      exact same_writeCells widths (fun item inside => each item (List.mem_of_mem_drop inside)) 0
    · exact same_writeCells widths each 0

/-- Rule rows in tables whose widths are found by the same steps. -/
theorem same_ruleWriter (around : SameAround levels leftAround rightAround) (row : Node) :
    SameAt levels (ruleWriter row leftAround) (ruleWriter row rightAround) := by
  cases around with
  | outside => exact .throw .strayRow
  | @inside layout leftWidth rightWidth widths =>
    refine (SameAt.settle _).bind fun index => ?_
    split
    · exact (same_columnWidthsFrom widths 0 _).bind fun found => .pure _
    · exact .pure []

/-- Dummy headers of tables whose widths are found by the same steps. -/
theorem same_dummyHeader (widths : ∀ column, SameAt levels (leftWidth column) (rightWidth column)) :
    SameAt levels (dummyHeader ⟨layout, leftWidth⟩) (dummyHeader ⟨layout, rightWidth⟩) := by
  unfold dummyHeader
  split
  · exact (same_columnWidthsFrom widths 0 _).bind fun found => .pure _
  · exact .pure []

/-- What stands for cells in exported rows stands for the cells of exported rows. -/
theorem exportedCells_map_map {Cell Changed : Type} (layout : TableLayout) (cells : List (List Cell))
    (change : Cell → Changed) :
    exportedCells layout (cells.map (·.map change)) = (exportedCells layout cells).map (·.map change) := by
  rw [exportedCells, TableLayout.exported, select_map, exportedCells, List.map_map, List.map_map]
  refine List.map_congr_left fun row _ => ?_
  cases layout.specialColumn <;> simp

/-- The bound on nested questions is one of lengths alone. -/
theorem questionBound_map {Cell : Type} (cells : List (List Cell)) (writer : Cell → Writer) :
    questionBound (cells.map (·.map writer)) = (cells.map List.length).foldl max 0 + 1 := by
  simp [questionBound, List.map_map, Function.comp_def]

/-- Tables of rows and cells that are the same wherever widths are found by the same steps. -/
theorem same_tableWriter {Row : Type} {writers : List Row} {leftRow rightRow : Row → Writer}
    (rows_same : ∀ row ∈ writers, ∀ leftAround rightAround, SameAround levels leftAround rightAround →
      SameAt levels (leftRow row leftAround) (rightRow row rightAround))
    (cells_same : ∀ cells ∈ rows, ∀ cell ∈ cells, ∀ leftAround rightAround,
      SameAround levels leftAround rightAround → SameAt levels (left cell leftAround) (right cell rightAround))
    (table : Nat) (nodes : List Node) (leftOutside rightOutside : Option Surroundings) :
    SameAt levels
      (tableWriter .remembering table nodes (writers.map leftRow) (rows.map (·.map left)) leftOutside)
      (tableWriter .remembering table nodes (writers.map rightRow) (rows.map (·.map right)) rightOutside) := by
  refine (SameAt.settle _).bind fun layout => (SameAt.note _).bind fun _ => ?_
  split
  · exact .pure []
  · simp only [exportedCells_map_map, questionBound_map, TableLayout.exported, select_map]
    have exported_same : ∀ cells ∈ exportedCells layout rows, ∀ cell ∈ cells, ∀ leftAround rightAround,
        SameAround levels leftAround rightAround →
          SameAt levels (left cell leftAround) (right cell rightAround) := by
      intro cells isExported cell isCell
      obtain ⟨whole, inside, isCell⟩ := mem_of_mem_exportedCells isExported isCell
      exact cells_same whole inside cell isCell
    have around := same_surroundings exported_same table layout
      (((exportedCells layout rows).map List.length).foldl max 0 + 1)
    have lines := same_blocks fun row isExported => rows_same row
      ((TableLayout.select_sublist false layout.special writers).subset isExported) _ _ around
    revert around lines
    generalize surroundings .remembering table layout ((exportedCells layout rows).map (·.map left)) _ = inside
    generalize surroundings .remembering table layout ((exportedCells layout rows).map (·.map right)) _ = other
    intro around lines
    cases around with
    | inside widths => exact (same_dummyHeader widths).bind fun header => lines.bind fun texts => .pure _

/-! ## Items and lists -/

variable {options : Options}

/-- Items whose leading texts and other children are the same. -/
theorem same_itemWriter {leading otherLeading others otherOthers : List Writer}
    (text : SameAt levels (capture leading leftAround) (capture otherLeading rightAround))
    (rest : SameAt levels (inSequence others leftAround) (inSequence otherOthers rightAround)) :
    SameAt levels (itemWriter options leading others leftAround)
      (itemWriter options otherLeading otherOthers rightAround) := by
  have deep : SameAt levels (getThe State >>= fun state => Pure.pure state.listLevel : Render Nat)
      (getThe State >>= fun state => Pure.pure state.listLevel) :=
    .of_still fun state => ⟨state.listLevel, rfl⟩
  rw [itemWriter_eq, itemWriter_eq]
  exact deep.bind fun level => SameAt.takeNumber.bind fun number => text.bind fun leadingText =>
    rest.bind fun pieces => .pure _

/-- Steps inside a list that are the same one level deeper. -/
theorem SameAt.inList {inside : Nat → Prop} {first second : Render α} (known : SameAt inside first second)
    (deeper : ∀ level, levels level → inside (level + 1)) (ordered start : Json) :
    SameAt levels (Markup.inList ordered start first) (Markup.inList ordered start second) := by
  intro state atLevel
  obtain ⟨sameEnd, follows⟩ := known (state.entering ordered start) (deeper _ atLevel)
  refine ⟨by rw [run_inList, run_inList, sameEnd], fun value after run => ?_⟩
  obtain ⟨last, ended, rfl⟩ := run_inList_eq_ok.mp run
  obtain ⟨sameLevel, numbers⟩ := follows value last ended
  refine ⟨?_, .inl ?_⟩
  · show last.listLevel - 1 = state.listLevel
    rw [sameLevel]
    rfl
  · show last.numbers.drop 1 = state.numbers
    rcases numbers with kept | taken
    · rw [kept]
      rfl
    · rw [taken]
      exact drop_numbersAfterItem _ _

/-- Lists as they are, of items that are the same one level deeper. -/
theorem same_listWriter {inside : Nat → Prop}
    (each : ∀ item ∈ items, SameAt inside (left item leftAround) (right item rightAround))
    (deeper : ∀ level, levels level → inside (level + 1)) (ordered start : Json) :
    SameAt levels (listWriter ordered start (items.map left) leftAround)
      (listWriter ordered start (items.map right) rightAround) :=
  (same_inSequence each).inList deeper ordered start

/-! ## Nodes -/

/-- A stray row in the first line of an item is one in the item. -/
theorem stray_of_leadingContent {children : List Node} {inner : Node}
    (isLeading : inner ∈ Node.leadingContent children) (stray : inner.hasStrayRow = true) :
    Node.anyStrayRow children = true := by
  obtain ⟨child, isChild, noRow, noTable, isInner⟩ := Node.mem_leadingContent isLeading
  refine Node.anyStrayRow_iff.mpr ⟨child, isChild, ?_⟩
  rw [Node.hasStrayRow_of_children noRow noTable]
  exact Node.anyStrayRow_iff.mpr ⟨inner, isInner, stray⟩

/-- A stray row in another child of an item is one in the item. -/
theorem stray_of_otherChildren {children : List Node} {child : Node}
    (isOther : child ∈ Node.otherChildren children) (stray : child.hasStrayRow = true) :
    Node.anyStrayRow children = true :=
  Node.anyStrayRow_iff.mpr ⟨child, Node.mem_of_mem_otherChildren isOther, stray⟩

variable {leftForm rightForm : ListForm}

/-- Nodes that are the same are so as children of items. -/
theorem SameAt.asItemChild {node : Node} {depth : Nat}
    (known : SameAt levels (node.listedWriter leftForm options depth leftAround)
      (node.listedWriter rightForm options depth rightAround)) :
    SameAt levels (node.asItemChild leftForm options depth leftAround)
      (node.asItemChild rightForm options depth rightAround) := by
  cases node with
  | list => exact known
  | _ => exact known.block.bind fun text => .pure _

variable {within : Nat → Nat → Prop} {tree : Node}

/-- Nodes are the same when their lists are, if the widths that a stray row asks for are found by the same
steps also at the levels of the lists around the row. -/
theorem same_listedWriter
    (lists : ∀ attributes ordered start items, Node.Within (.list attributes ordered start items) tree →
      ∀ depth leftAround rightAround,
        (Node.anyStrayRow items = true → SameAround (within depth) leftAround rightAround) →
        (∀ item ∈ items, SameAt (within (depth + 1)) (item.listedWriter leftForm options (depth + 1) leftAround)
          (item.listedWriter rightForm options (depth + 1) rightAround)) →
        SameAt (within depth)
          (leftForm (depth + 1) ordered start (items.map (Node.listedWriter leftForm options (depth + 1))) leftAround)
          (rightForm (depth + 1) ordered start (items.map (Node.listedWriter rightForm options (depth + 1)))
            rightAround))
    (strays : ∀ attributes ordered start items, Node.Within (.list attributes ordered start items) tree →
      Node.anyStrayRow items = true → ∀ depth level, within (depth + 1) level → within depth level)
    {node : Node} (inside : Node.Within node tree) (depth : Nat) {leftAround rightAround : Option Surroundings}
    (fits : node.hasStrayRow = true → SameAround (within depth) leftAround rightAround) :
    SameAt (within depth) (node.listedWriter leftForm options depth leftAround)
      (node.listedWriter rightForm options depth rightAround) := by
  induction node using Node.inductionInside generalizing depth leftAround rightAround with
  | step node inductionHypothesis =>
    have below : ∀ {inner child : Node}, child ∈ node.children → Node.Within inner child →
        ∀ {leftAround rightAround : Option Surroundings},
          (inner.hasStrayRow = true → SameAround (within depth) leftAround rightAround) →
            SameAt (within depth) (inner.listedWriter leftForm options depth leftAround)
              (inner.listedWriter rightForm options depth rightAround) :=
      fun isChild isInner _ _ fits =>
        inductionHypothesis _ isChild _ isInner ((Node.Within.child isChild isInner).trans inside) depth fits
    -- A stray row in a child of a node other than a row or a table is one in the node.
    have children (noRow : node.rowKey? = none) (noTable : node.tableKey? = none) :
        ∀ child ∈ node.children, SameAt (within depth) (child.listedWriter leftForm options depth leftAround)
          (child.listedWriter rightForm options depth rightAround) := by
      intro child isChild
      refine below isChild (.self child) fun strayChild => fits ?_
      rw [Node.hasStrayRow_of_children noRow noTable]
      exact Node.anyStrayRow_iff.mpr ⟨child, isChild, strayChild⟩
    cases node with
    | list attributes ordered start items =>
      simp only [Node.listedWriter, Node.listedWriters_eq_map]
      refine lists attributes ordered start items inside depth _ _ fits fun item isItem => ?_
      refine inductionHypothesis item isItem item (.self item) ((Node.Within.child isItem (.self item)).trans inside)
        (depth + 1) fun strayItem => ?_
      have strayList := Node.anyStrayRow_iff.mpr ⟨item, isItem, strayItem⟩
      exact (fits strayList).mono (strays attributes ordered start items inside strayList depth)
    | listItem attributes nodes =>
      rw [Node.listedWriter_item, Node.listedWriter_item]
      refine same_itemWriter (same_capture fun inner isLeading => ?_) (same_inSequence fun child isOther => ?_)
      · obtain ⟨child, isChild, -, -, isInner⟩ := Node.mem_leadingContent isLeading
        exact below isChild (.child isInner (.self inner)) fun strayInner =>
          fits (stray_of_leadingContent isLeading strayInner)
      · exact (children rfl rfl child (Node.mem_of_mem_otherChildren isOther)).asItemChild
    | table attributes key rows =>
      simp only [Node.listedWriter, Node.listedWriters_eq_map, Node.listedCellWriters_eq_map]
      refine same_tableWriter (fun row isRow leftAround rightAround around =>
        below isRow (.self row) fun _ => around) ?_ key rows _ _
      intro cells isCells cell isCell leftAround rightAround around
      obtain ⟨row, isRow, rfl⟩ := List.mem_map.mp isCells
      refine below isRow ?_ fun _ => around
      cases row with
      | tableRow => exact .child isCell (.self cell)
      | _ => cases isCell
    | tableRow attributes key cells =>
      simp only [Node.listedWriter, Node.listedWriters_eq_map]
      exact same_rowWriter (fits rfl) fun cell isCell => below isCell (.self cell) fun _ => fits rfl
    | ruleRow attributes key =>
      simp only [Node.listedWriter]
      exact same_ruleWriter (fits rfl) _
    | document attributes nodes | blockQuote attributes nodes =>
      simp only [Node.listedWriter, Node.listedWriters_eq_map]
      exact (same_blocks (children rfl rfl)).bind fun texts => .pure _
    | heading attributes level content =>
      simp only [Node.listedWriter, Node.listedWriters_eq_map]
      exact (same_capture (children rfl rfl)).bind fun text =>
        (SameAt.settle (headingMark level)).bind fun mark => .pure _
    | codeBlock attributes content language =>
      simp only [Node.listedWriter]
      exact (SameAt.settle (codeBlockText options content language)).bind fun text => .pure _
    | paragraph | tableCell | styled | link =>
      simp only [Node.listedWriter, Node.listedWriters_eq_map]
      exact (same_capture (children rfl rfl)).bind fun text => .pure _
    | _ =>
      simp only [Node.listedWriter]
      exact .pure _

/-- What a node keeps of the state from a list level on, when the widths that a stray row in it asks for are
found by steps that keep as much. -/
theorem keeps_listedWriter {least : Nat} {node : Node} (depth : Nat) {around : Option Surroundings}
    (fits : node.hasStrayRow = true → SameAround (least ≤ ·) around around) :
    SameAt (least ≤ ·) (node.listedWriter .plain options depth around)
      (node.listedWriter .plain options depth around) := by
  refine @same_listedWriter options .plain .plain (fun _ level => least ≤ level) node ?_
    (fun _ _ _ _ _ _ _ _ deep => deep) _ (.self node) depth _ _ fits
  intro _ ordered start items _ depth leftAround rightAround _ each
  exact same_listWriter each (fun level deep => Nat.le_succ_of_le deep) ordered start

end OutlineWiki.Markup
