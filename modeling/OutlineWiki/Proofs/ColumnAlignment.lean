import OutlineWiki.Proofs.Widths

/-!
# Aligned columns

In a document whose table cells hold nothing but inline nodes, every visit of a table writes the text
that its layout, its cells and its own widths make, whatever was rendered before it. The invariant is
that the memory of widths, whichever table of the document it is about, holds own widths of that table.
-/

namespace OutlineWiki

open Markup

/-- The memory holds nothing but own widths, if it is about a table of a document. -/
def Faithful (document : Node) (cache : WidthCache) : Prop :=
  ∀ attributes key rows layout, Node.Within (.table attributes key rows) document →
    TableLayout.ofRows rows = .ok layout → cache.table = some key → ∀ column width,
      cache.stored? column = some width → width = layout.ownWidth rows Node.cellContent column

/-- A table written as its layout, its cells and its own widths tell, without any memory. -/
def alignedTable : TableForm := fun _ rows _ _ _ => do
  let layout ← settle (TableLayout.ofRows rows)
  return layout.tablePieces Node.cellContent (layout.ownWidth rows Node.cellContent)

/-- The markup of a tree by a given way to write tables, from a clean state. -/
def renderedBy (form : TableForm) (options : Options) (tree : Node) : Except Failure String :=
  match (renderTree form options tree).run {} with
  | .ok text _ => .ok text
  | .error failure _ => .error failure

/-- A rendering writes tables by widths that are remembered. -/
theorem render_eq_renderedBy (options : Options) (tree : Node) :
    render options tree = renderedBy (tableWriter .remembering) options tree := by
  have clean : ({ options } : Renderer).restarted.state = {} := rfl
  unfold render Renderer.renderToString Renderer.run renderedBy
  rw [clean]
  cases EStateM.run (renderTree (tableWriter .remembering) options tree) {} <;> rfl

/-- Nothing is remembered at first. -/
theorem faithful_empty (document : Node) (cache : WidthCache) (empty : cache.widths = []) :
    Faithful document cache := by
  intro attributes key rows layout _ _ _ column width stored
  rw [WidthCache.stored?, empty] at stored
  cases stored

/-- A faithful memory settles the answers to the questions of a table: they are its own widths. -/
theorem Faithful.answers {document : Node} (identified : document.KeysIdentify)
    {attributes : Attributes} {key : Nat} {rows : List Node} {layout : TableLayout}
    (within : Node.Within (.table attributes key rows) document)
    (made : TableLayout.ofRows rows = .ok layout) :
    Answers key (layout.ownWidth rows Node.cellContent) (layout.ownWidth rows Node.cellContent)
      (Faithful document) where
  answer := by
    intro cache faithful column
    by_cases about : cache.table = some key
    · rw [WidthCache.turnTo, if_pos about]
      cases stored : cache.stored? column with
      | none => rfl
      | some width =>
        rw [Option.getD_some]
        exact faithful attributes key rows layout within made about column width stored
    · rw [WidthCache.turnTo, if_neg about]
      rfl
  turn := by
    intro cache faithful
    by_cases about : cache.table = some key
    · rwa [WidthCache.turnTo, if_pos about]
    · rw [WidthCache.turnTo, if_neg about]
      exact faithful_empty document _ rfl
  store := by
    intro cache column faithful about _ attributes' key' rows' layout' within' made' about' other width
      stored
    rw [WidthCache.table_store] at about'
    obtain rfl : key = key' := Option.some.inj (about.symm.trans about')
    obtain rfl := identified _ _ _ _ _ within within'
    obtain rfl := Except.ok.inj (made.symm.trans made')
    by_cases same : other = column
    · subst same
      rw [WidthCache.stored?_store_self] at stored
      exact (Option.some.inj stored).symm
    · rw [WidthCache.stored?_store_of_ne _ _ same] at stored
      exact faithful attributes key rows layout within made about other width stored

/-- A visit of a table of the document writes the aligned table and keeps the memory faithful. -/
theorem agree_alignedTable (options : Options) {document : Node}
    (inline : document.Everywhere (·.hasInlineCells = true)) (identified : document.KeysIdentify)
    {attributes : Attributes} {key : Nat} {rows : List Node}
    (within : Node.Within (.table attributes key rows) document) (around : Option Surroundings) :
    Agree (Remembered (Faithful document)) (Remembered (Faithful document))
      ((Node.table attributes key rows).writer (tableWriter .remembering) options around)
      ((Node.table attributes key rows).writer alignedTable options around) := by
  cases made : TableLayout.ofRows rows with
  | error failure =>
    simp only [Node.writer, tableWriter, alignedTable, made, settle]
    exact .throw failure
  | ok layout =>
    have rowsInline : ∀ row ∈ rows, row.hasInlineCells = true := fun row inside =>
      inline row (Node.Within.trans (.child inside (.self row)) within)
    have aligned : (Node.table attributes key rows).writer alignedTable options around =
        pure (layout.tablePieces Node.cellContent (layout.ownWidth rows Node.cellContent)) := by
      simp only [Node.writer, alignedTable, made, settle, pure_bind]
    rw [aligned]
    exact agree_inlineTable made rowsInline (Faithful.answers identified within made) around

/-- The states that rendering nodes of a document leads to, in any order and from any list level. -/
inductive Reached (options : Options) (document : Node) : State → Prop where
  | start (state : State) : state.widths = {} → Reached options document state
  | elsewhere {before after : State} :
    Reached options document before → after.widths = before.widths → Reached options document after
  | visit {before after : State} {inner : Node} {pieces : List Json} :
    Reached options document before → Node.Within inner document →
      (inner.writer (tableWriter .remembering) options none).run before = .ok pieces after →
        Reached options document after

/-- Every node of a document agrees with the rendering of aligned tables. -/
theorem agree_aligned (options : Options) {document : Node}
    (inline : document.Everywhere (·.hasInlineCells = true)) (identified : document.KeysIdentify)
    {inner : Node} (within : Node.Within inner document) :
    Agree (Remembered (Faithful document)) (Remembered (Faithful document))
      (inner.writer (tableWriter .remembering) options none) (inner.writer alignedTable options none) :=
  agree_writer_of_tables fun _ _ _ inside =>
    agree_alignedTable options inline identified (inside.trans within) none

/-- In every state that rendering nodes of a document leads to, the memory is faithful. -/
theorem Reached.faithful {options : Options} {document : Node}
    (inline : document.Everywhere (·.hasInlineCells = true)) (identified : document.KeysIdentify)
    {state : State} (reached : Reached options document state) : Faithful document state.widths := by
  induction reached with
  | start state empty => exact faithful_empty document _ (by rw [empty])
  | elsewhere _ same inductionHypothesis => rwa [same]
  | @visit before after inner pieces _ within run inductionHypothesis =>
    rcases (agree_aligned options inline identified within).outcome (State.Alike.refl before)
        inductionHypothesis with
      ⟨_, _, _, run', -, -, faithful⟩ | ⟨_, _, _, run', -⟩
    · rw [run] at run'
      obtain ⟨-, rfl⟩ := EStateM.Result.ok.inj run'
      exact faithful
    · rw [run] at run'
      cases run'

/-- What comes of whole renderings whose trees agree: the same text, after which the condition is met, or
a failure of the first. -/
theorem renderedBy_of_agreeOr {mayFail : Prop} {left right : TableForm} {options : Options} {tree : Node}
    {before after : Condition} (start : State.Meets {} before)
    (same : AgreeOr mayFail before after (tree.writer left options none) (tree.writer right options none)) :
    (∃ text last, renderedBy left options tree = .ok text ∧ renderedBy right options tree = .ok text ∧
      State.Meets last after) ∨
    ∃ failure, renderedBy left options tree = .error failure ∧
      (mayFail ∨ renderedBy right options tree = .error failure) := by
  have whole : AgreeOr mayFail before after (renderTree left options tree) (renderTree right options tree) :=
    (AgreeAllOr.single same).capture.map finishText
  unfold renderedBy
  rcases whole {} {} (State.Alike.refl {}) start with
    ⟨text, last, _, leftRun, rightRun, -, meets⟩ | ⟨failure, _, leftRun, failed⟩
  · rw [leftRun, rightRun]
    exact .inl ⟨text, last, rfl, rfl, meets⟩
  · rw [leftRun]
    refine .inr ⟨failure, rfl, failed.imp_right ?_⟩
    rintro ⟨_, rightRun⟩
    rw [rightRun]

/-- Whole renderings agree when their trees do. -/
theorem renderedBy_congr {left right : TableForm} {options : Options} {tree : Node}
    {before after : Condition} (start : State.Meets {} before)
    (same : Agree before after (tree.writer left options none) (tree.writer right options none)) :
    renderedBy left options tree = renderedBy right options tree := by
  rcases renderedBy_of_agreeOr start same with ⟨_, _, onLeft, onRight, -⟩ | ⟨_, onLeft, own | onRight⟩
  · rw [onLeft, onRight]
  · exact own.elim
  · rw [onLeft, onRight]

/-- A content of a column is no wider than the widest. -/
theorem displayWidth_le_widest {texts : List String} {text : String} (inside : text ∈ texts) :
    Text.displayWidth text ≤ TableLayout.widest texts := by
  induction texts with
  | nil => cases inside
  | cons first rest inductionHypothesis =>
    rw [TableLayout.widest, List.map_cons, List.foldr_cons]
    rcases List.mem_cons.mp inside with rfl | later
    · exact Nat.le_max_left _ _
    · exact Nat.le_trans (inductionHypothesis later) (Nat.le_max_right _ _)

/-- Without a cookie, no exported cell of a column is wider than the column. -/
theorem displayWidth_le_ownWidth {layout : TableLayout} {rows : List Node} {content : Node → String}
    {row cell : Node} {column : Nat} (inside : row ∈ layout.rows)
    (isCell : (layout.cells row)[column]? = some cell)
    (noCookie : layout.firstCookie? rows column = none) :
    Text.displayWidth (content cell) ≤ layout.ownWidth rows content column := by
  have inColumn : content cell ∈ layout.columnContents content column :=
    List.mem_filterMap.mpr ⟨row, inside, by rw [isCell, Option.map_some]⟩
  rw [TableLayout.ownWidth, noCookie, Option.getD_none]
  exact displayWidth_le_widest inColumn

/-- The columns of every table are aligned. When the table cells of a document hold nothing but inline
nodes, the document is rendered as if each table were written by its layout, the contents of its cells
and its own widths alone; and in every state that rendering its nodes leads to, a visit of a table that
has a layout appends that text. There each cell is padded to the width of its column, each run of a
drawn rule or a dummy header has that width or three, and a column without a cookie has the same width,
content and padding together, in every row. -/
theorem columns_aligned (options : Options) {document : Node}
    (inline : document.Everywhere (·.hasInlineCells = true)) (identified : document.KeysIdentify) :
    render options document = renderedBy alignedTable options document ∧
      ∀ state, Reached options document state →
        ∀ attributes key rows layout, Node.Within (.table attributes key rows) document →
          TableLayout.ofRows rows = .ok layout →
            (∀ around, ∃ after,
              ((Node.table attributes key rows).writer (tableWriter .remembering) options around).run
                state = .ok (layout.tablePieces Node.cellContent
                  (layout.ownWidth rows Node.cellContent)) after) ∧
            ∀ row ∈ layout.rows, ∀ column cell, (layout.cells row)[column]? = some cell →
              layout.firstCookie? rows column = none →
                Text.displayWidth cell.cellContent + (layout.ownWidth rows Node.cellContent column -
                  Text.displayWidth cell.cellContent) = layout.ownWidth rows Node.cellContent column := by
  constructor
  · rw [render_eq_renderedBy]
    have start : State.Meets {} (Remembered (Faithful document)) := faithful_empty document {} rfl
    exact renderedBy_congr start (agree_aligned options inline identified (.self document))
  · intro state reached attributes key rows layout within made
    constructor
    · intro around
      have faithful := reached.faithful inline identified
      rcases (agree_alignedTable options inline identified within around).outcome (State.Alike.refl state)
          faithful with
        ⟨pieces, after, _, run, alignedRun, -, -⟩ | ⟨_, _, _, _, alignedRun⟩
      · simp only [Node.writer, alignedTable, made, settle, pure_bind] at alignedRun
        obtain ⟨rfl, -⟩ := EStateM.Result.ok.inj alignedRun
        exact ⟨after, run⟩
      · simp only [Node.writer, alignedTable, made, settle, pure_bind] at alignedRun
        cases alignedRun
    · intro row inside column cell isCell noCookie
      exact Nat.add_sub_cancel' (displayWidth_le_ownWidth inside isCell noCookie)

/-- The columns of two rows with a rule between them are aligned, from a clean state on. -/
theorem columns_aligned_ruled :
    let rows : List Node :=
      [.tableRow {} 1 [.tableCell {} [.text {} (.string "wide")]], .ruleRow {} 2,
        .tableRow {} 3 [.tableCell {} [.styled {} .strong [.text {} (.string "x")]]]]
    let document : Node := .document {} [.table {} 0 rows]
    render {} document = renderedBy alignedTable {} document ∧
      ∃ layout, TableLayout.ofRows rows = .ok layout ∧
        (∃ after, ((Node.table {} 0 rows).writer (tableWriter .remembering) {} none).run {} =
          .ok (layout.tablePieces Node.cellContent (layout.ownWidth rows Node.cellContent)) after) ∧
        ∀ row ∈ layout.rows, ∀ column cell, (layout.cells row)[column]? = some cell →
          layout.firstCookie? rows column = none →
            Text.displayWidth cell.cellContent + (layout.ownWidth rows Node.cellContent column -
              Text.displayWidth cell.cellContent) = layout.ownWidth rows Node.cellContent column := by
  intro rows document
  have inline : document.Everywhere (·.hasInlineCells = true) :=
    Node.everywhere_iff_nodes.mpr (by decide)
  have identified : document.KeysIdentify := Node.keysIdentify_of_nodup (by decide)
  obtain ⟨aligned, visits⟩ := columns_aligned {} inline identified
  have within : Node.Within (.table {} 0 rows) document := .child List.mem_cons_self (.self _)
  have made : TableLayout.ofRows rows = .ok
      { specialColumn := false, special := [false, false, false], rows := rows, rowCount := 2,
        columnCount := 1, cookies := [], markers := [] } := by rfl
  obtain ⟨visit, padded⟩ := visits {} (.start {} rfl) {} 0 rows _ within made
  exact ⟨aligned, _, made, visit none, padded⟩

end OutlineWiki
