import OutlineWiki.Proofs.NestedWidths

/-!
# Tables written on their own

A table that measures its columns each time writes the same at each visit. What it writes is determined
by its place: the list level and the numbers of the open lists there settle the contents of its cells,
and these settle its own widths.
-/

namespace OutlineWiki

open Markup

variable {options : Options} {document : Node}

namespace TablePlace

/-- The visit of a table on its own, without a memory of widths. -/
def visit (options : Options) (place : TablePlace) (around : Option Surroundings) : Render (List Json) :=
  tableWriter .measuring place.key place.rows (Node.writers (tableWriter .measuring) options place.rows)
    (Node.cellWriters (tableWriter .measuring) options place.rows) around

/-- The surroundings inside the table, for a visit on its own. -/
def inside (options : Options) (place : TablePlace) (layout : TableLayout) : Surroundings :=
  insideTable .measuring (tableWriter .measuring) options place.key place.rows layout

/-- A state in which the table is visited. -/
def state (place : TablePlace) : State :=
  { listLevel := place.level, numbers := place.numbers }

/-- A cell of the table was written at its place. -/
def Wrote (options : Options) (place : TablePlace) (layout : TableLayout) (cell : Node) : Prop :=
  ∃ first text last, State.Meets first (Standing place.level place.numbers) ∧
    (capture [cell.writer (tableWriter .measuring) options] (some (place.inside options layout))).run first =
      .ok text last

/-- The table is visited at its place, and its cells were written at the moments that are done. -/
def Told (options : Options) (place : TablePlace) (layout : TableLayout) (done : List (Moment Node)) :
    Condition :=
  (Standing place.level place.numbers).knowing (∀ cell, .cell cell ∈ done → place.Wrote options layout cell)

/-- What a cell of the table writes there, on one line; nothing if it fails. -/
def content (options : Options) (place : TablePlace) : Node → String
  | .tableCell _ inner =>
    match (capture (Node.writers (tableWriter .measuring) options inner) none).run place.state with
    | .ok written _ => Text.collapse written
    | .error _ _ => ""
  | _ => ""

/-- What a cell writes is on one line. -/
theorem oneLine_content (options : Options) (place : TablePlace) (cell : Node) :
    Text.OneLine (place.content options cell) := by
  unfold content
  split
  · split
    · exact Text.oneLine_collapse _
    · simp [Text.OneLine]
  · simp [Text.OneLine]

/-- What a cell writes at the place is its content there. -/
theorem content_of_run {options : Options} {place : TablePlace} {cell : Node} (isCell : cell.isCell = true)
    {written : String} {last : State}
    (run : (capture [cell.writer (tableWriter .measuring) options] none).run place.state = .ok written last) :
    place.content options cell = written := by
  cases cell with
  | tableCell attributes inner =>
    rw [capture_cell, map_eq_pure_bind, EStateM.run_bind] at run
    simp only [content]
    cases inside : (capture (Node.writers (tableWriter .measuring) options inner) none).run place.state with
    | ok text last =>
      rw [inside] at run
      exact (EStateM.Result.ok.inj run).1
    | error =>
      rw [inside] at run
      cases run
  | _ => cases isCell

/-- What the table writes there on its own; nothing if it fails. -/
def pieces (options : Options) (place : TablePlace) : List Json :=
  match (place.visit options none).run place.state with
  | .ok pieces _ => pieces
  | .error _ _ => []

end TablePlace

/-- A document in which tables may stand inside tables: nodes hold what their fields are for, and no
table stands in it twice. -/
structure Node.Nests (document : Node) : Prop where
  noRow : document.rowKey? = none
  holds : document.Everywhere (·.holdsItsKinds = true)
  once : document.tableKeys.Nodup

namespace Node.Nests

/-- The cells of a table of the document agree with themselves when every width is measured. -/
theorem cells_again (nests : document.Nests) (options : Options) {attributes : Attributes}
    {place : TablePlace} (within : Within (.table attributes place.key place.rows) document)
    (settled : numbersAfterItem place.numbers = place.numbers) :
    CellsAgain options place.level place.numbers place.rows := by
  intro layout made cell isMoment
  obtain ⟨row, isExported, isExportedCell⟩ := layout.mem_of_mem_ownMoments isMoment
  obtain ⟨isRow, isCell⟩ := TableLayout.mem_rows_of_mem_cells made isExported isExportedCell
  have rowWithin : Within row document := Within.trans (.child isRow (.self row)) within
  have cellWithin : Within cell document := (within_of_cell isCell).trans rowWithin
  have noRow : cell.rowKey? = none := by
    cases row with
    | tableRow => exact rowKey?_of_holdsItsKinds (nests.holds _ rowWithin) rfl isCell
    | _ => cases isCell
  exact keepsTurns_measuring settled noRow (fun inner inCell => nests.holds inner (inCell.trans cellWithin))
    (nests.once.sublist (tableKeys_sublist cellWithin))

/-- A table of the document writes the same on its own in every state with the level and the numbers of
its place. -/
theorem pieces_eq (nests : document.Nests) {attributes : Attributes} {place : TablePlace}
    (within : Within (.table attributes place.key place.rows) document)
    (settled : numbersAfterItem place.numbers = place.numbers) {around : Option Surroundings}
    {state after : State} {pieces : List Json} (stands : state.Meets (Standing place.level place.numbers))
    (run : (place.visit options around).run state = .ok pieces after) : pieces = place.pieces options := by
  have tableOnce := nests.once.sublist (tableKeys_sublist within)
  rw [tableKeys_table] at tableOnce
  have again : Agree (Standing place.level place.numbers) (Standing place.level place.numbers)
      (place.visit options around) (place.visit options none) := Agree.standing fun about =>
    agree_measuringTable tableOnce.tail (nests.cells_again options within settled)
      (fun _ _ _ _ => trivial) around none
  have start : place.state.Meets (Standing place.level place.numbers) := ⟨rfl, rfl⟩
  obtain ⟨_, ownRun, -⟩ := (again.pure_left stands run).symm.gives start
  rw [TablePlace.pieces, ownRun]

/-- The widths and the cells of a table of the document agree with themselves at its place. -/
theorem agree_standing (nests : document.Nests) (options : Options) {attributes : Attributes}
    {place : TablePlace} (within : Within (.table attributes place.key place.rows) document)
    (settled : numbersAfterItem place.numbers = place.numbers) {layout : TableLayout}
    (made : TableLayout.ofRows place.rows = .ok layout) (columns : layout.columnCount ≠ 0) :
    (∀ column, Agree (Standing place.level place.numbers) (Standing place.level place.numbers)
      ((place.inside options layout).width column) ((place.inside options layout).width column)) ∧
    ∀ cell, .cell cell ∈ layout.ownMoments → ∀ leftAround rightAround,
      Agree (Standing place.level place.numbers) (Standing place.level place.numbers)
        (capture [cell.writer (tableWriter .measuring) options] leftAround)
        (capture [cell.writer (tableWriter .measuring) options] rightAround) := by
  have tableOnce := nests.once.sublist (tableKeys_sublist within)
  rw [tableKeys_table] at tableOnce
  have cells := nests.cells_again options within settled
  constructor
  · intro column
    exact Agree.standing fun about =>
      agree_measuredWidth made columns tableOnce.tail cells (fun _ _ _ _ => trivial) column
  · intro cell isMoment leftAround rightAround
    refine Agree.standing fun about => ?_
    have fits : Forecast.nothing.Fits about cell := ⟨rfl, trivial⟩
    exact ((cells layout made cell isMoment).capture (fun _ _ _ _ => trivial) (.inr fits) leftAround
      rightAround).weaken (fun _ _ _ meets => meets) fun _ _ _ meets => meets.1

/-- A visit that gives pieces has written the cell of each of its moments. -/
theorem wrote_of_visit (nests : document.Nests) {attributes : Attributes} {place : TablePlace}
    (within : Within (.table attributes place.key place.rows) document)
    (settled : numbersAfterItem place.numbers = place.numbers) {layout : TableLayout}
    (made : TableLayout.ofRows place.rows = .ok layout) (columns : layout.columnCount ≠ 0)
    {pieces : List Json} {after : State}
    (run : (place.visit options none).run place.state = .ok pieces after) :
    ∀ cell, .cell cell ∈ layout.ownMoments → place.Wrote options layout cell := by
  obtain ⟨widths, cells⟩ := nests.agree_standing options within settled made columns
  have each : ∀ moments done : List (Moment Node), (∀ moment ∈ moments, moment ∈ layout.ownMoments) →
      AgreeMoments False (tableWriter .measuring) (tableWriter .measuring) options
        (place.inside options layout) (place.inside options layout) (place.Told options layout done)
        (place.Told options layout (done ++ moments)) moments := by
    intro moments
    induction moments with
    | nil =>
      intro done _
      rw [List.append_nil]
      exact .nil fun _ _ _ meets => meets
    | cons moment rest inductionHypothesis =>
      intro done inside
      have later := inductionHypothesis (done ++ [moment]) fun other isLater =>
        inside other (List.mem_cons_of_mem moment isLater)
      rw [List.append_assoc, List.singleton_append] at later
      cases moment with
      | cell cell =>
        have again := cells cell (inside _ List.mem_cons_self) (some (place.inside options layout))
          (some (place.inside options layout))
        have written : ∀ first : State, ∀ text last,
            first.Meets (Standing place.level place.numbers) →
              (capture [cell.writer (tableWriter .measuring) options]
                (some (place.inside options layout))).run first = .ok text last →
                  place.Wrote options layout cell := fun first text last stands run =>
          ⟨first, text, last, stands, run⟩
        refine .cell (((again.telling written).keeping _).weaken (fun _ _ _ told => told) ?_) later
        rintro level numbers widths ⟨⟨stands, wrote⟩, before⟩
        refine ⟨stands, fun other inDone => ?_⟩
        rcases List.mem_append.mp inDone with isBefore | isHere
        · exact before other isBefore
        · obtain rfl := Moment.cell.inj (List.mem_singleton.mp isHere)
          exact wrote
      | question column =>
        refine .question (((widths column).keeping _).weaken (fun _ _ _ told => told) ?_) later
        rintro level numbers widths ⟨stands, before⟩
        refine ⟨stands, fun other inDone => before other ?_⟩
        simpa using inDone
  have whole := AgreeMoments.table made (each layout.ownMoments [] fun _ inside => inside) none none
  have start : place.state.Meets (place.Told options layout []) :=
    ⟨⟨rfl, rfl⟩, fun cell none => absurd none List.not_mem_nil⟩
  rcases whole.outcome (State.Alike.refl place.state) start with
    ⟨_, last, _, leftRun, -, -, -, wrote⟩ | ⟨_, _, _, leftRun, -⟩
  · exact wrote
  · rw [← TablePlace.visit, run] at leftRun
    cases leftRun

/-- A table of the document that is written on its own writes its text: what its layout, the contents of
its cells at its place and its own widths make. -/
theorem text_of_visit (nests : document.Nests) {attributes : Attributes} {place : TablePlace}
    (within : Within (.table attributes place.key place.rows) document)
    (settled : numbersAfterItem place.numbers = place.numbers) {layout : TableLayout}
    (made : TableLayout.ofRows place.rows = .ok layout) (columns : layout.columnCount ≠ 0)
    {pieces : List Json} {after : State}
    (run : (place.visit options none).run place.state = .ok pieces after) :
    (∀ row ∈ layout.rows, HaveContents (tableWriter .measuring) options
      (Standing place.level place.numbers) (place.content options) (layout.cells row)) ∧
      pieces = layout.tablePieces (place.content options)
        (layout.ownWidth place.rows (place.content options)) := by
  obtain ⟨-, cells⟩ := nests.agree_standing options within settled made columns
  have wrote := nests.wrote_of_visit within settled made columns run
  have isCell : ∀ row ∈ layout.rows, ∀ cell ∈ layout.cells row, cell.isCell = true := by
    intro row isRow cell inside
    obtain ⟨inRows, inCells⟩ := TableLayout.mem_rows_of_mem_cells made isRow inside
    have rowWithin : Within row document := Within.trans (.child inRows (.self row)) within
    cases row with
    | tableRow => exact List.all_eq_true.mp (nests.holds _ rowWithin) cell inCells
    | _ => cases inCells
  have start : place.state.Meets (Standing place.level place.numbers) := ⟨rfl, rfl⟩
  have contents : ∀ row ∈ layout.rows, HaveContents (tableWriter .measuring) options
      (Standing place.level place.numbers) (place.content options) (layout.cells row) := by
    intro row isRow cell inside around
    have isMoment := layout.mem_ownMoments columns isRow inside
    obtain ⟨first, written, last, stands, found⟩ := wrote cell isMoment
    have again := cells cell isMoment (some (place.inside options layout))
    obtain ⟨_, ownRun, -⟩ := ((again none).pure_left stands found).symm.gives start
    rw [TablePlace.content_of_run (isCell row isRow cell inside) ownRun]
    exact ((again around).pure_left stands found).symm
  refine ⟨contents, ?_⟩
  have asks : ∀ column, Agree (Standing place.level place.numbers) (Standing place.level place.numbers)
      ((place.inside options layout).width column)
      (pure (layout.ownWidth place.rows (place.content options) column)) := by
    intro column
    obtain ⟨inner, asks⟩ := width_insideTable .measuring (tableWriter .measuring) options place.key made
    rw [TablePlace.inside, asks, measuring_eq]
    exact agree_ownWidth made contents column (some inner)
  have whole : Agree (Standing place.level place.numbers) (Standing place.level place.numbers)
      (place.visit options none) (pure (layout.tablePieces (place.content options)
        (layout.ownWidth place.rows (place.content options)))) :=
    agree_tableWriter made asks contents (TablePlace.oneLine_content options place)
  obtain ⟨_, visitRun, -⟩ := whole.gives start
  rw [run] at visitRun
  exact (EStateM.Result.ok.inj visitRun).1

end Node.Nests

/-- What each table of a document writes on its own, by its key. -/
def Node.piecesOf (options : Options) (document : Node) (key : Nat) : List Json :=
  match (document.places 0 []).find? (·.key == key) with
  | some place => place.pieces options
  | none => []

/-- Where no table stands twice, a table is found by its key. -/
theorem Node.piecesOf_place (once : document.tableKeys.Nodup) {place : TablePlace}
    (isPlace : place ∈ document.places 0 []) :
    document.piecesOf options place.key = place.pieces options := by
  rw [piecesOf]
  cases found : (document.places 0 []).find? (·.key == place.key) with
  | some other =>
    have same : other.key = place.key := by simpa using List.find?_some found
    obtain rfl := places_unique once (List.mem_of_find?_eq_some found) isPlace same
    rfl
  | none =>
    have nowhere := List.find?_eq_none.mp found place isPlace
    simp at nowhere

end OutlineWiki
