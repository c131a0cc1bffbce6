import OutlineWiki.Proofs.ColumnAlignment
import OutlineWiki.Proofs.TableVisits

/-!
# Tables inside tables

A table inside a cell is visited when the column around it is measured and again when the cell is
written. In a document whose visited tables are all steady it writes the same each time: what its
layout, its cells and its own widths make at its place. In any other document some table is visited
while the memory is still about it, with a width in it that was measured for another table.
-/

namespace OutlineWiki

open Markup

variable {options : Options} {document : Node}

namespace Markup

/-- A step that fails at a value that does not pass a check. -/
def checking {Value : Type} (passes : Value → Prop) [DecidablePred passes] (failure : Failure)
    (value : Value) : Render Value :=
  if passes value then return value else throw failure

/-- A step that agrees with one whose values pass a check agrees with it after the check. -/
theorem AgreeOr.checking {Value : Type} {before after : Condition} {left right : Render Value}
    {passes : Value → Prop} [DecidablePred passes] {failure : Failure}
    (step : Agree before after left right)
    (known : ∀ first second : State, ∀ value last, first.Alike second → first.Meets before →
      right.run second = .ok value last → passes value) :
    Agree before after (left >>= Markup.checking passes failure) right := by
  intro first second alike meets
  rw [EStateM.run_bind]
  rcases step.outcome alike meets with
    ⟨value, first', second', leftRun, rightRun, alike', meets'⟩ |
      ⟨failure', first', second', leftRun, rightRun⟩
  · have passed := known first second value second' alike meets rightRun
    simp only [leftRun, Markup.checking, if_pos passed]
    exact .inl ⟨value, first', second', rfl, rightRun, alike', meets'⟩
  · simp only [leftRun]
    exact .inr ⟨failure', first', rfl, .inr ⟨second', rightRun⟩⟩

end Markup

/-- A table written by widths that are remembered, with a check: the rendering fails at a table that
wrote other pieces than those given for its key. -/
noncomputable def checkedTable (pieces : Nat → List Json) (failure : Failure) : TableForm :=
  open Classical in fun key rows writers cells around =>
    tableWriter .remembering key rows writers cells around >>= checking (· = pieces key) failure

/-- A table written by widths that are remembered, if it is visited afresh: the rendering fails at a
table whose first question would find the memory still about the table that asks. -/
def freshTable (failure : Failure) : TableForm := fun key rows writers cells around => do
  let cache ← getThe WidthCache
  if Node.startsOver cache.table (Node.table {} key rows).turns then
    tableWriter .remembering key rows writers cells around
  else
    throw failure

/-- What comes of rendering a document that keeps to its turns: the same text as without a memory of
widths, in which case every table that was visited is steady, or a failure. -/
theorem renderedBy_of_keepsTurns {mayFail : Prop} {form : TableForm}
    (keeps : KeepsTurns mayFail form (tableWriter .measuring) options .ofTurns 0 [] document)
    (fits : mayFail ∨ document.Steady) :
    (∃ text, renderedBy form options document = .ok text ∧
      renderedBy (tableWriter .measuring) options document = .ok text ∧ document.Steady) ∨
    ∃ failure, renderedBy form options document = .error failure ∧
      (mayFail ∨ renderedBy (tableWriter .measuring) options document = .error failure) := by
  have start : State.Meets {} (At 0 [] none fun _ => True) := ⟨rfl, rfl, rfl, trivial⟩
  have same := keeps [] none _ (.inl rfl) (fun _ _ _ _ => trivial)
    (fits.imp_right fun steady => ⟨Node.startsOver_none _, steady⟩) none none
  refine (renderedBy_of_agreeOr start same).imp_left ?_
  rintro ⟨text, last, onLeft, onRight, -, -, steady⟩
  exact ⟨text, onLeft, onRight, steady⟩

/-- A document whose visited tables are steady is rendered as without a memory of widths. -/
theorem renderedBy_of_steady (steady : document.Steady) {form : TableForm}
    (keeps : KeepsTurns False form (tableWriter .measuring) options .ofTurns 0 [] document) :
    renderedBy form options document = renderedBy (tableWriter .measuring) options document := by
  rcases renderedBy_of_keepsTurns keeps (.inr steady) with
    ⟨text, onLeft, onRight, -⟩ | ⟨failure, onLeft, own | onRight⟩
  · rw [onLeft, onRight]
  · exact own.elim
  · rw [onLeft, onRight]

namespace Node.Nests

/-- A document keeps to its turns when its tables are written by widths that are remembered, and also
with a check of each table, if the check passes at tables that are visited afresh. -/
theorem keepsTurns (nests : document.Nests) {mayFail : Prop} {form : TableForm}
    (written : ∀ place ∈ document.places 0 [], ∀ (writers : List Writer) (cells : List (List Writer))
      (leftAround rightAround : Option Surroundings) (about : Option Nat) (known : WidthCache → Prop)
      (after : Condition),
      let starts := startsOver about (Node.table {} place.key place.rows).turns = true
      (mayFail ∨ starts) →
      (starts → AgreeOr mayFail (At place.level place.numbers about known) after
        (tableWriter .remembering place.key place.rows writers cells leftAround)
        (place.visit options rightAround)) →
        AgreeOr mayFail (At place.level place.numbers about known) (after.knowing starts)
          (form place.key place.rows writers cells leftAround) (place.visit options rightAround)) :
    KeepsTurns mayFail form (tableWriter .measuring) options .ofTurns 0 [] document := by
  refine keepsTurns_of_tables rfl nests.noRow nests.holds nests.once ?_
  intro attributes place isPlace within settled cells started about known begins free fits
    leftAround rightAround
  obtain rfl : started = place.numbers := by simpa [Node.isItem] using begins
  simp only [Node.writer]
  refine (written place isPlace _ _ leftAround rightAround about known _ (fits.imp_right And.left)
    fun starts => agree_rememberingTable (nests.once.sublist (tableKeys_sublist within)) cells
      (nests.cells_again options within settled) free starts (fits.imp_right And.right) leftAround
        rightAround).weaken (fun _ _ _ meets => meets) ?_
  rintro _ _ _ ⟨⟨meets, steady⟩, starts⟩
  exact ⟨meets, starts, steady⟩

/-- A document keeps to its turns when its tables are written by widths that are remembered. -/
theorem keepsTurns_remembering (nests : document.Nests) (options : Options) :
    KeepsTurns False (tableWriter .remembering) (tableWriter .measuring) options .ofTurns 0 [] document := by
  refine nests.keepsTurns ?_
  intro place _ writers cells leftAround rightAround about known after starts given same
  have isStart : starts := given.resolve_left id
  exact (same isStart).weaken (fun _ _ _ meets => meets) fun _ _ _ meets => ⟨meets, isStart⟩

/-- A document keeps to its turns also when its tables are checked to write what they write on their
own. -/
theorem keepsTurns_checkedTable (nests : document.Nests) (options : Options) (failure : Failure) :
    KeepsTurns False (checkedTable (document.piecesOf options) failure) (tableWriter .measuring) options
      .ofTurns 0 [] document := by
  classical
  refine nests.keepsTurns ?_
  intro place isPlace writers cells leftAround rightAround about known after starts given same
  have isStart : starts := given.resolve_left id
  refine ((same isStart).checking ?_).weaken (fun _ _ _ meets => meets)
    fun _ _ _ meets => ⟨meets, isStart⟩
  rintro first second value last alike ⟨atLevel, atNumbers, -⟩ run
  obtain ⟨⟨attributes, within⟩, settled⟩ := Node.of_mem_places rfl isPlace
  rw [Node.piecesOf_place nests.once isPlace]
  exact nests.pieces_eq within settled (alike.meets ⟨atLevel, atNumbers⟩) run

/-- A document keeps to its turns when its tables are visited afresh, or else the rendering fails. -/
theorem keepsTurns_freshTable (nests : document.Nests) (mayFail : Prop) (options : Options)
    (failure : Failure) :
    KeepsTurns mayFail (freshTable failure) (tableWriter .measuring) options .ofTurns 0 [] document := by
  refine nests.keepsTurns ?_
  intro place _ writers cells leftAround rightAround about known after starts given same
  rintro first second alike ⟨atLevel, atNumbers, rfl, isKnown⟩
  have looked : (freshTable failure place.key place.rows writers cells leftAround).run first =
      (if starts then tableWriter .remembering place.key place.rows writers cells leftAround
        else throw failure : Render (List Json)).run first := by
    rw [freshTable, EStateM.run_bind, (run_memory first default id default).1]
  rw [looked]
  by_cases isStart : starts
  · rw [if_pos isStart]
    exact ((same isStart).weaken (fun _ _ _ meets => meets) fun _ _ _ meets => ⟨meets, isStart⟩)
      first second alike ⟨atLevel, atNumbers, rfl, isKnown⟩
  · rw [if_neg isStart]
    exact .inr ⟨failure, first, rfl, .inl (given.resolve_right isStart)⟩

/-- A rendering in which every table is visited afresh succeeds if the visited tables are steady and the
document can be rendered at all, and not otherwise. -/
theorem renderedBy_freshTable_iff (nests : document.Nests) (options : Options) (failure : Failure) :
    (∃ text, renderedBy (freshTable failure) options document = .ok text) ↔
      document.Steady ∧ ∃ text, render options document = .ok text := by
  constructor
  · rintro ⟨text, fresh⟩
    rcases renderedBy_of_keepsTurns (nests.keepsTurns_freshTable True options failure) (.inl trivial) with
      ⟨written, -, measured, steady⟩ | ⟨_, failed, -⟩
    · refine ⟨steady, written, ?_⟩
      rw [render_eq_renderedBy, renderedBy_of_steady steady (nests.keepsTurns_remembering options)]
      exact measured
    · rw [fresh] at failed
      cases failed
  · rintro ⟨steady, text, rendered⟩
    refine ⟨text, ?_⟩
    rw [renderedBy_of_steady steady (nests.keepsTurns_freshTable False options failure),
      ← renderedBy_of_steady steady (nests.keepsTurns_remembering options), ← render_eq_renderedBy]
    exact rendered

end Node.Nests

/-- After a question the next one about the same column is answered with the same width, also when it is
put by another table, which the cells that were measured have left the memory about. -/
theorem width_disturbed {table other column width : Nat} {cookie? : Option Nat} {measure : Render Nat}
    {state after : State}
    (run : (WidthFinder.remembering table cookie? column measure).run state = .ok width after)
    (about : after.widths.table = some other) (otherCookie? : Option Nat) (otherMeasure : Render Nat) :
    ∃ last, (WidthFinder.remembering other otherCookie? column otherMeasure).run after =
      .ok width last := by
  have turned : after.widths.turnTo other = after.widths := by rw [WidthCache.turnTo, if_pos about]
  have stored : after.widths.stored? column = some width := by
    rw [run_remembering] at run
    cases known : (state.widths.turnTo table).stored? column with
    | some found =>
      rw [known] at run
      obtain ⟨rfl, rfl⟩ := EStateM.Result.ok.inj run
      exact known
    | none =>
      rw [known] at run
      cases measured : (cookieOrMeasure cookie? measure).run (state.turned table) with
      | ok found last =>
        simp only [measured] at run
        obtain ⟨rfl, rfl⟩ := EStateM.Result.ok.inj run
        exact WidthCache.stored?_store_self _ _ _
      | error failure last =>
        simp only [measured] at run
        cases run
  rw [run_remembering, turned, stored]
  exact ⟨_, rfl⟩

/-- Tables inside tables are not disturbed if every table that is visited is steady. The document is then
rendered as if each width were measured anew, and every table appends the same pieces each time it is
visited, whether the cell around it is measured or written, since no check of them ever fails. If some
visited table is not steady, a rendering succeeds only because it goes on where a table's first question
finds the memory still about it; a question about a column that left it so is then answered for that
table too, with the width of the other. The pieces of a table on its own are the text that its layout,
the contents of its cells at its place and its own widths make, with each cell padded to the width of
its column and each run of a rule or a dummy header as long as the width or three. -/
theorem nested_tables_undisturbed (options : Options) {document : Node} (nests : document.Nests) :
    (document.Steady →
      render options document = renderedBy (tableWriter .measuring) options document ∧
        ∀ failure, renderedBy (checkedTable (document.piecesOf options) failure) options document =
          render options document) ∧
      (∀ failure, (∃ text, renderedBy (freshTable failure) options document = .ok text) ↔
        document.Steady ∧ ∃ text, render options document = .ok text) ∧
      (∀ (table other column width : Nat) (cookie? otherCookie? : Option Nat) (measure otherMeasure : Render Nat)
        (state after : State),
        (WidthFinder.remembering table cookie? column measure).run state = .ok width after →
          after.widths.table = some other →
            ∃ last, (WidthFinder.remembering other otherCookie? column otherMeasure).run after =
              .ok width last) ∧
      ∀ place ∈ document.places 0 [], ∀ layout, TableLayout.ofRows place.rows = .ok layout →
        layout.columnCount ≠ 0 →
          ∀ pieces after, (place.visit options none).run place.state = .ok pieces after →
            document.piecesOf options place.key = layout.tablePieces (place.content options)
              (layout.ownWidth place.rows (place.content options)) ∧
            ∀ row ∈ layout.rows,
              HaveContents (tableWriter .measuring) options (Standing place.level place.numbers)
                (place.content options) (layout.cells row) := by
  refine ⟨fun steady => ?_, nests.renderedBy_freshTable_iff options,
    fun _ _ _ _ _ otherCookie? _ otherMeasure _ _ run about =>
      width_disturbed run about otherCookie? otherMeasure, ?_⟩
  · have measured : render options document = renderedBy (tableWriter .measuring) options document := by
      rw [render_eq_renderedBy]
      exact renderedBy_of_steady steady (nests.keepsTurns_remembering options)
    refine ⟨measured, fun failure => ?_⟩
    rw [measured]
    exact renderedBy_of_steady steady (nests.keepsTurns_checkedTable options failure)
  · intro place isPlace layout made columns pieces after run
    obtain ⟨⟨attributes, within⟩, settled⟩ := Node.of_mem_places rfl isPlace
    obtain ⟨contents, text⟩ := nests.text_of_visit within settled made columns run
    refine ⟨?_, contents⟩
    rw [Node.piecesOf_place nests.once isPlace, ← nests.pieces_eq within settled ⟨rfl, rfl⟩ run]
    exact text

/-- A table in the first column of two is not disturbed, because the second column is asked about before
the next row. -/
theorem nested_tables_undisturbed_two_columns :
    let inner : Node := .table {} 3 [.tableRow {} 4 [.tableCell {} [.text {} (.string "y")]]]
    let document : Node := .document {} [.table {} 0
      [.tableRow {} 1 [.tableCell {} [.text {} (.string "x")], .tableCell {} []],
        .tableRow {} 2 [.tableCell {} [inner], .tableCell {} []]]]
    document.Nests ∧ document.Steady ∧
      render {} document = renderedBy (tableWriter .measuring) {} document ∧
        ∀ failure, renderedBy (checkedTable (document.piecesOf {}) failure) {} document =
          render {} document := by
  intro inner document
  have nests : document.Nests := {
    noRow := rfl
    holds := Node.everywhere_iff_nodes.mpr (by decide)
    once := by decide }
  have steady : document.Steady := .of_everywhere (Node.everywhere_iff_nodes.mpr (by decide))
  obtain ⟨undisturbed, -, -, -⟩ := nested_tables_undisturbed {} nests
  exact ⟨nests, steady, undisturbed steady⟩

/-- A table in the only column is disturbed when it is not in the first row: the rule that it draws has
the width of the outer column. -/
theorem nested_table_disturbed :
    let inner : Node := .table {} 3 [.tableRow {} 4 [.tableCell {} [.text {} (.string "y")]]]
    let outer : Node := .table {} 0 [.tableRow {} 1 [.tableCell {} [.text {} (.string "x")]],
      .tableRow {} 2 [.tableCell {} [inner]]]
    outer.isSteady = false ∧
      render {} (.document {} [outer]) =
        .ok "|| x                     ||\n|| || || ||---------------------|| || y || ||\n" ∧
      renderedBy (tableWriter .measuring) {} (.document {} [outer]) =
        .ok "|| x                     ||\n|| || || ||---|| || y || ||\n" := by
  decide +kernel

end OutlineWiki
