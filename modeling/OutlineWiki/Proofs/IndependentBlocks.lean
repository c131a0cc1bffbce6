import OutlineWiki.Proofs.ColumnAlignment

/-!
# Blocks on their own

The blocks of a document do not know of each other: each is written as a new renderer writes it on its
own. After a block the list level and the numbers of the open lists are as before it, and what is
remembered are own widths of the tables rendered so far, which are right for a later visit of the same
table too.
-/

namespace OutlineWiki

open Markup

namespace Markup

/-! ## What a block leaves -/

/-- The numbers of the outer lists can be told from those that an item leaves. -/
theorem drop_eq_of_numbersAfterItem {numbers others : List Json}
    (same : numbersAfterItem numbers = numbersAfterItem others) : numbers.drop 1 = others.drop 1 := by
  have outer : ∀ numbers, (numbersAfterItem numbers).drop 1 = numbers.drop 1 := by
    intro numbers
    cases numbers with
    | nil => rfl
    | cons number outer => exact drop_numbersAfterItem number outer
  rw [← outer numbers, same, outer]

/-- Where no list is open, no item leaves one open. -/
theorem numbersAfterItem_eq_nil {numbers : List Json} (none : numbersAfterItem numbers = []) :
    numbers = [] := by
  cases numbers with
  | nil => rfl
  | cons number outer => cases number <;> cases none

/-- A list level, and numbers of open lists that are as given or as an item leaves them. -/
def Undisturbed (place : Nat × List Json) : Condition := fun level numbers _ =>
  level = place.1 ∧ numbersAfterItem numbers = numbersAfterItem place.2

/-- A list leaves the list level and the numbers of the outer lists as they were. -/
theorem undisturbed_survives : SurviveLists Undisturbed where
  taken := by
    rintro place level numbers _ ⟨sameLevel, sameNumbers⟩
    exact ⟨sameLevel, by rw [numbersAfterItem_numbersAfterItem, sameNumbers]⟩
  listed := by
    rintro place number level numbers _ ⟨sameLevel, sameNumbers⟩
    refine ⟨(level + 1, number :: numbers), ⟨rfl, rfl⟩, ?_⟩
    rintro level' numbers' _ ⟨rfl, left⟩
    rw [drop_eq_of_numbersAfterItem left]
    exact ⟨sameLevel, sameNumbers⟩

/-- Every node leaves the list level and the numbers of the outer lists as they were, when tables are
written without any memory. -/
theorem undisturbed_alignedTable (options : Options) (node : Node) (place : Nat × List Json) :
    Agree (Undisturbed place) (Undisturbed place) (node.writer alignedTable options none)
      (node.writer alignedTable options none) := by
  refine agree_writer_of_surviving undisturbed_survives ?_ place
  intro attributes key rows _ place
  simp only [Node.writer, alignedTable]
  exact (AgreeOr.settle _).bind fun layout => .pure _

/-- Between two blocks of a document: no list is open, and what is remembered are own widths of its
tables. -/
def Between (document : Node) : Condition := fun level numbers widths =>
  level = 0 ∧ numbers = [] ∧ Faithful document widths

variable {α β : Type}

/-- Two computations that are settled without a look at the state, one after the other. -/
theorem settle_bind (first : Except Failure α) (next : α → Except Failure β) :
    settle (first >>= next) = settle first >>= fun value => settle (next value) := by
  cases first <;> rfl

/-- A changed value of a computation that is settled without a look at the state. -/
theorem map_settle (change : α → β) (outcome : Except Failure α) :
    change <$> settle outcome = settle (outcome.map change) := by
  cases outcome <;> rfl

/-- A step that agrees with a settled outcome comes to it. -/
theorem Agree.comes_to {before after : Condition} {step : Render α} {outcome : Except Failure α}
    (same : Agree before after step (settle outcome)) {state : State} (meets : state.Meets before) :
    (∃ value last, step.run state = .ok value last ∧ outcome = .ok value) ∨
      ∃ failure last, step.run state = .error failure last ∧ outcome = .error failure := by
  rcases same.outcome (.refl state) meets with
    ⟨value, last, _, run, settled, -⟩ | ⟨failure, last, _, run, settled⟩
  · cases outcome with
    | ok given =>
      obtain ⟨rfl, -⟩ := EStateM.Result.ok.inj settled
      exact .inl ⟨_, last, run, rfl⟩
    | error failure => cases settled
  · cases outcome with
    | ok given => cases settled
    | error given =>
      obtain ⟨rfl, -⟩ := EStateM.Result.error.inj settled
      exact .inr ⟨_, last, run, rfl⟩

end Markup

/-! ## Visits of a node alone -/

/-- What a new renderer writes for a node on its own, without line feeds at the end. -/
def visitAlone (options : Options) (node : Node) : Except Failure String :=
  (({ options } : Renderer).run (block (node.writer (tableWriter .remembering) options) none)).1

variable (options : Options) {document inner : Node}

/-- A node of a document is visited alone as with tables that are written without any memory. -/
theorem visitAlone_eq_aligned (inline : document.Everywhere (·.hasInlineCells = true))
    (identified : document.KeysIdentify) (within : Node.Within inner document) :
    visitAlone options inner =
      match (block (inner.writer alignedTable options) none).run {} with
      | .ok text _ => .ok text
      | .error failure _ => .error failure := by
  have same := (agree_aligned options inline identified within).block
  have clean : ({ options } : Renderer).state = {} := rfl
  rw [visitAlone, Renderer.run, clean]
  rcases same.outcome (.refl {}) (faithful_empty document {} rfl) with
    ⟨text, _, _, run, alignedRun, -⟩ | ⟨failure, _, _, run, alignedRun⟩
  · rw [run, alignedRun]
  · rw [run, alignedRun]

/-- Between two blocks a node of the document is written as in a visit of it alone, and after it no list
is open and only own widths are remembered once more. -/
theorem agree_visitAlone (inline : document.Everywhere (·.hasInlineCells = true))
    (identified : document.KeysIdentify) (within : Node.Within inner document) :
    Agree (Between document) (Between document)
      (block (inner.writer (tableWriter .remembering) options) none) (settle (visitAlone options inner)) := by
  have same := (agree_aligned options inline identified within).block
  have undisturbed := (undisturbed_alignedTable options inner (0, [])).block
  rintro first second alike ⟨level, numbers, faithful⟩
  -- With aligned tables the node is written alike from here and from the state of a new renderer.
  have clean : first.Alike {} := ⟨level, numbers⟩
  rw [visitAlone_eq_aligned options inline identified within]
  rcases same.outcome clean faithful with
    ⟨text, first', last, run, alignedRun, alike', faithful'⟩ | ⟨failure, first', last, run, alignedRun⟩
  · rw [alignedRun]
    rcases undisturbed.outcome (.refl {}) ⟨rfl, rfl⟩ with
      ⟨_, last', _, undisturbedRun, -, -, lastLevel, lastNumbers⟩ | ⟨_, _, _, undisturbedRun, -⟩
    · rw [alignedRun] at undisturbedRun
      obtain ⟨-, rfl⟩ := EStateM.Result.ok.inj undisturbedRun
      have atRest : first'.listLevel = 0 ∧ first'.numbers = [] :=
        ⟨alike'.listLevel.trans lastLevel, alike'.numbers.trans (numbersAfterItem_eq_nil lastNumbers)⟩
      refine .inl ⟨text, first', second, run, rfl, ?_, atRest.1, atRest.2, faithful'⟩
      exact ⟨atRest.1.trans (alike.listLevel ▸ level).symm, atRest.2.trans (alike.numbers ▸ numbers).symm⟩
    · rw [alignedRun] at undisturbedRun
      cases undisturbedRun
  · rw [alignedRun]
    exact .inr ⟨failure, first', run, .inr ⟨second, rfl⟩⟩

/-- The blocks of a document are those of its children, each visited alone, up to the first failure. -/
theorem agree_blocks_visitAlone (children : List Node)
    (inline : document.Everywhere (·.hasInlineCells = true)) (identified : document.KeysIdentify)
    (within : ∀ child ∈ children, Node.Within child document) :
    Agree (Between document) (Between document)
      (blocks (Node.writers (tableWriter .remembering) options children) none)
      (settle (children.mapM (visitAlone options))) := by
  induction children with
  | nil => exact .pure []
  | cons child rest inductionHypothesis =>
    have first := agree_visitAlone options inline identified (within child List.mem_cons_self)
    have later := inductionHypothesis fun other inside => within other (List.mem_cons_of_mem child inside)
    rw [List.mapM_cons, settle_bind]
    simp only [Node.writers, blocks, settle_bind]
    exact first.bind fun text => later.bind fun texts => .pure (text :: texts)

/-- A document is rendered by its blocks. -/
theorem renderTree_document (form : TableForm) (options : Options) (attributes : Attributes)
    (children : List Node) :
    renderTree form options (.document attributes children) =
      (fun texts => finishText (joinBlocks texts)) <$> blocks (Node.writers form options children) none := by
  simp [renderTree, Node.writer, documentWriter, capture, inSequence, joinPieces, stringsOf, Except.map,
    settle]

/-- A document is rendered from the visits of its children, each alone, up to the first failure. -/
theorem render_document {attributes : Attributes} {children : List Node}
    (inline : (Node.document attributes children).Everywhere (·.hasInlineCells = true))
    (identified : (Node.document attributes children).KeysIdentify) :
    render options (.document attributes children) =
      (children.mapM (visitAlone options)).map fun texts => finishText (joinBlocks texts) := by
  have each := agree_blocks_visitAlone options children inline identified
    fun child inside => .child inside (.self child)
  have whole := each.map fun texts => finishText (joinBlocks texts)
  rw [← renderTree_document (tableWriter .remembering) options attributes, map_settle] at whole
  rw [render_eq_renderedBy, renderedBy]
  have start : State.Meets {} (Between (.document attributes children)) :=
    ⟨rfl, rfl, faithful_empty _ {} rfl⟩
  rcases Agree.comes_to whole start with ⟨text, _, run, alone⟩ | ⟨failure, _, run, alone⟩
  · rw [run, alone]
  · rw [run, alone]

/-- Blocks are rendered independently of each other. The table cells of a document hold nothing but inline
nodes, and a table may stand in it several times. When each child of the document, visited alone by a new
renderer, gives a text, the document is rendered as those texts that are not blank, in order, with a blank
line between them, no blanks at the end but one line feed. When a child fails alone, and none before it
does, rendering the document fails for the same reason. -/
theorem blocks_independent {attributes : Attributes} {children : List Node}
    (inline : (Node.document attributes children).Everywhere (·.hasInlineCells = true))
    (identified : (Node.document attributes children).KeysIdentify) :
    (∀ texts : List String, children.map (visitAlone options) = texts.map .ok →
      render options (.document attributes children) =
        .ok (Text.stripEnd ("\n\n".intercalate (texts.filter Text.hasInk)) ++ "\n")) ∧
    ∀ before child after failure, children = before ++ child :: after →
      (∀ earlier ∈ before, ∃ text, visitAlone options earlier = .ok text) →
        visitAlone options child = .error failure →
          render options (.document attributes children) = .error failure := by
  rw [render_document options inline identified]
  constructor
  · intro texts visited
    rw [mapM_eq_ok visited]
    rfl
  · rintro before child after failure rfl earlier fails
    rw [mapM_eq_error earlier fails]
    rfl

/-- The very same table stands before and after a numbered list. With a paragraph without text between them
the document is rendered as three blocks, with a stray row it is not rendered. -/
theorem blocks_independent_same_table :
    let table : Node := .table {} 0
      [.tableRow {} 1 [.tableCell {} [.text {} (.string "wide")]],
        .tableRow {} 2 [.tableCell {} [.text {} (.string "x")]]]
    let list : Node := .list {} (.bool true) (.int 3) [.listItem {} [.paragraph {} [.text {} (.string "item")]]]
    render {} (.document {} [table, list, .paragraph {} [], table]) =
        .ok "|| wide ||\n|| x    ||\n\n 3. item\n\n|| wide ||\n|| x    ||\n" ∧
      render {} (.document {} [table, list, .tableRow {} 3 [], table]) = .error .strayRow := by
  intro table list
  have inline : ∀ between : Node, between = .paragraph {} [] ∨ between = .tableRow {} 3 [] →
      (Node.document {} [table, list, between, table]).Everywhere (·.hasInlineCells = true) := by
    rintro between (rfl | rfl) <;> exact Node.everywhere_iff_nodes.mpr (by decide)
  have identified : ∀ between : Node, between = .paragraph {} [] ∨ between = .tableRow {} 3 [] →
      (Node.document {} [table, list, between, table]).KeysIdentify := by
    intro between isBetween attributes key rows attributes' rows' first second
    have isTable : ∀ attributes rows,
        Node.Within (.table attributes key rows) (.document {} [table, list, between, table]) →
          Node.table attributes key rows = table := by
      intro attributes rows within
      have inside := Node.mem_nodes_iff.mpr within
      rcases isBetween with rfl | rfl <;>
        simpa [table, list, Node.nodes, Node.nodesAll] using inside
    have same := (isTable _ _ first).trans (isTable _ _ second).symm
    exact (Node.table.inj same).2.2
  constructor
  · exact (blocks_independent {} (inline _ (.inl rfl)) (identified _ (.inl rfl))).1
      ["|| wide ||\n|| x    ||", " 3. item", "", "|| wide ||\n|| x    ||"] (by decide +kernel)
  · refine (blocks_independent {} (inline _ (.inr rfl)) (identified _ (.inr rfl))).2
      [table, list] (.tableRow {} 3 []) [table] .strayRow rfl ?_ rfl
    intro earlier isEarlier
    rcases List.mem_cons.mp isEarlier with rfl | isEarlier
    · exact ⟨"|| wide ||\n|| x    ||", by decide +kernel⟩
    · obtain rfl := List.mem_singleton.mp isEarlier
      exact ⟨" 3. item", by decide +kernel⟩

end OutlineWiki
