import Mathlib.Data.List.Forall2
import OutlineWiki.Proofs.ListForms

/-!
# Steps that are linked

Two steps are linked when, from states that differ in nothing but their notices, they give values that are
related and leave such states again, or fail for the same reason. What is known of the list level and of the
numbers of the open lists is known after them as before. Linked to itself, a step tells what it keeps of the
state; and two renderings whose steps are linked write the same, also when one of them gives more notices.
-/

namespace OutlineWiki

namespace Markup

variable {α β γ δ : Type}

/-- Two states differ in nothing but their notices. -/
structure State.Twins (first second : State) : Prop extends first.Alike second where
  widths : first.widths = second.widths

/-- A state is its own twin. -/
theorem State.Twins.refl (state : State) : state.Twins state :=
  ⟨.refl state, rfl⟩

/-- What is known of the list level and of the numbers of the open lists. -/
abbrev Footing := Nat → List Json → Prop

/-- A footing that an item does not disturb when it takes its number. -/
def Footing.LetsTake (known : Footing) : Prop :=
  ∀ level numbers, known level numbers → known level (numbersAfterItem numbers)

/-- The footing of the items of a list that is opened at a level, before and after they take its number. -/
def Footing.inside (level : Nat) (number : Json) (outer : List Json) : Footing := fun deeper numbers =>
  deeper = level + 1 ∧ (numbers = number :: outer ∨ numbers = numbersAfterItem (number :: outer))

/-- Items may take the number of the list they are in. -/
theorem Footing.letsTake_inside (level : Nat) (number : Json) (outer : List Json) :
    (Footing.inside level number outer).LetsTake := by
  rintro deeper numbers ⟨isDeeper, rfl | rfl⟩
  · exact ⟨isDeeper, .inr rfl⟩
  · exact ⟨isDeeper, .inr (numbersAfterItem_numbersAfterItem _)⟩

/-- Two steps have ended alike: with related values in twin states, or for the same reason. -/
inductive LinkedEnds (known : Footing) (related : α → β → Prop) :
    EStateM.Result Failure State α → EStateM.Result Failure State β → Prop where
  | ok {value : α} {other : β} {after last : State} :
      related value other → after.Twins last → known after.listLevel after.numbers →
        LinkedEnds known related (.ok value after) (.ok other last)
  | error {failure : Failure} {after last : State} :
      LinkedEnds known related (.error failure after) (.error failure last)

/-- Two steps end alike from twin states of which something is known. -/
def Linked (known : Footing) (related : α → β → Prop) (left : Render α) (right : Render β) : Prop :=
  ∀ first second : State, first.Twins second → known first.listLevel first.numbers →
    LinkedEnds known related (left.run first) (right.run second)

variable {known : Footing} {related : α → β → Prop} {after : γ → δ → Prop}

/-! ## Steps -/

namespace Linked

/-- Linked steps give related values in twin states, or fail for the same reason. -/
theorem comes_to {left : Render α} {right : Render β} (linked : Linked known related left right)
    {first second : State} (twins : first.Twins second) (isKnown : known first.listLevel first.numbers) :
    (∃ value other after last, left.run first = .ok value after ∧ right.run second = .ok other last ∧
        related value other ∧ after.Twins last ∧ known after.listLevel after.numbers) ∨
      ∃ failure after last, left.run first = .error failure after ∧ right.run second = .error failure last := by
  have ends := linked first second twins isKnown
  revert ends
  generalize left.run first = ended
  generalize right.run second = otherEnded
  intro ends
  cases ends with
  | ok same twins isKnown => exact .inl ⟨_, _, _, _, rfl, rfl, same, twins, isKnown⟩
  | error => exact .inr ⟨_, _, _, rfl, rfl⟩

/-- Steps that only give values. -/
theorem pure {value : α} {other : β} (same : related value other) :
    Linked known related (Pure.pure value) (Pure.pure other) :=
  fun _ _ twins isKnown => .ok same twins isKnown

/-- Steps that only fail. -/
theorem throw (failure : Failure) :
    Linked known related (MonadExcept.throw failure) (MonadExcept.throw failure) :=
  fun _ _ _ _ => .error

/-- Steps that are settled without a look at the state. -/
theorem settle (outcome : Except Failure α) :
    Linked known Eq (Markup.settle outcome) (Markup.settle outcome) := by
  cases outcome with
  | ok value => exact pure rfl
  | error failure => exact throw failure

/-- Linked steps, one after the other. -/
theorem bind {left : Render α} {right : Render β} {leftNext : α → Render γ} {rightNext : β → Render δ}
    (first : Linked known related left right)
    (second : ∀ value other, related value other → Linked known after (leftNext value) (rightNext other)) :
    Linked known after (left >>= leftNext) (right >>= rightNext) := by
  intro state other twins isKnown
  rw [EStateM.run_bind, EStateM.run_bind]
  rcases first.comes_to twins isKnown with
    ⟨_, _, _, _, run, otherRun, same, twins, isKnown⟩ | ⟨_, _, _, run, otherRun⟩
  · rw [run, otherRun]
    exact second _ _ same _ _ twins isKnown
  · rw [run, otherRun]
    exact .error

/-- Steps that give the same value, one after the other. -/
theorem bind_eq {left right : Render α} {leftNext : α → Render γ} {rightNext : α → Render δ}
    (first : Linked known Eq left right)
    (second : ∀ value, Linked known after (leftNext value) (rightNext value)) :
    Linked known after (left >>= leftNext) (right >>= rightNext) :=
  first.bind fun value _ same => same ▸ second value

/-- Changing the values of linked steps. -/
theorem map {left : Render α} {right : Render β} {change : α → γ} {otherChange : β → δ}
    (linked : Linked known related left right)
    (changed : ∀ value other, related value other → after (change value) (otherChange other)) :
    Linked known after (change <$> left) (otherChange <$> right) := by
  rw [map_eq_pure_bind, map_eq_pure_bind]
  exact linked.bind fun value other same => pure (changed value other same)

/-- Giving notices, whatever they say. -/
theorem note (notice other : Notice) : Linked known Eq (Markup.note notice) (Markup.note other) :=
  fun _ _ twins isKnown => .ok rfl ⟨⟨twins.listLevel, twins.numbers⟩, twins.widths⟩ isKnown

/-- A notice that only the first step gives. -/
theorem note_left (notice : Notice) {left : Unit → Render α} {right : Render β}
    (linked : Linked known related (left ()) right) :
    Linked known related (Markup.note notice >>= left) right :=
  fun _ second twins isKnown => linked _ second ⟨⟨twins.listLevel, twins.numbers⟩, twins.widths⟩ isKnown

/-- Looking at the list level. -/
theorem listLevel :
    Linked known Eq (getThe State >>= fun state => Pure.pure state.listLevel : Render Nat)
      (getThe State >>= fun state => Pure.pure state.listLevel) :=
  fun _ _ twins isKnown => .ok twins.listLevel twins isKnown

/-- Taking the number of an item. -/
theorem takeNumber (lets : known.LetsTake) : Linked known Eq Markup.takeNumber Markup.takeNumber := by
  intro first second twins isKnown
  rw [run_takeNumber, run_takeNumber, twins.numbers]
  exact .ok rfl ⟨⟨twins.listLevel, rfl⟩, twins.widths⟩ (twins.numbers ▸ lets _ _ isKnown)

/-- A question that is answered by the memory of widths, when the measures are linked. -/
theorem remembering {left right : Render Nat} (linked : Linked known Eq left right) (table column : Nat)
    (cookie? : Option Nat) :
    Linked known Eq (WidthFinder.remembering table cookie? column left)
      (WidthFinder.remembering table cookie? column right) := by
  have answer : Linked known Eq (cookieOrMeasure cookie? left) (cookieOrMeasure cookie? right) := by
    cases cookie? with
    | none => exact linked
    | some width => exact pure rfl
  intro first second twins isKnown
  have turned : (first.turned table).Twins (second.turned table) :=
    ⟨⟨twins.listLevel, twins.numbers⟩, congrArg (·.turnTo table) twins.widths⟩
  rw [run_remembering, run_remembering, twins.widths]
  cases (second.widths.turnTo table).stored? column with
  | some width => exact .ok rfl turned isKnown
  | none =>
    rcases answer.comes_to turned isKnown with
      ⟨width, _, _, _, run, otherRun, rfl, twins, isKnown⟩ | ⟨_, _, _, run, otherRun⟩
    · rw [run, otherRun]
      exact .ok rfl ⟨⟨twins.listLevel, twins.numbers⟩, congrArg (·.store column width) twins.widths⟩ isKnown
    · rw [run, otherRun]
      exact .error

/-- Steps inside a list. -/
theorem inList {left : Render α} {right : Render β} (ordered start : Json)
    (linked : ∀ level number outer, Linked (.inside level number outer) related left right) :
    Linked known related (Markup.inList ordered start left) (Markup.inList ordered start right) := by
  intro first second twins isKnown
  have entered : (first.entering ordered start).Twins (second.entering ordered start) :=
    ⟨⟨congrArg (· + 1) twins.listLevel, congrArg (_ :: ·) twins.numbers⟩, twins.widths⟩
  rw [run_inList, run_inList]
  rcases (linked first.listLevel _ first.numbers).comes_to entered ⟨rfl, .inl rfl⟩ with
    ⟨_, _, after, _, run, otherRun, same, twins, deeper, numbers⟩ | ⟨_, _, _, run, otherRun⟩
  · have level : after.leaving.listLevel = first.listLevel := by
      show after.listLevel - 1 = first.listLevel
      rw [deeper, Nat.add_sub_cancel]
    have outer : after.leaving.numbers = first.numbers := by
      show after.numbers.drop 1 = first.numbers
      rcases numbers with kept | taken
      · rw [kept]
        rfl
      · rw [taken, drop_numbersAfterItem]
    rw [run, otherRun]
    refine .ok same ⟨⟨congrArg (· - 1) twins.listLevel, congrArg (List.drop 1) twins.numbers⟩, twins.widths⟩ ?_
    rw [level, outer]
    exact isKnown
  · rw [run, otherRun]
    exact .error

end Linked

/-! ## Writers -/

variable {lefts rights : List Writer} {leftAround rightAround : Option Surroundings}

/-- Writers that are linked, one to one, in their surroundings. -/
abbrev LinkedEach (known : Footing) (leftAround rightAround : Option Surroundings) :
    List Writer → List Writer → Prop :=
  List.Forall₂ fun left right => Linked known Eq (left leftAround) (right rightAround)

/-- Linked writers in sequence. -/
theorem linked_inSequence (each : LinkedEach known leftAround rightAround lefts rights) :
    Linked known Eq (inSequence lefts leftAround) (inSequence rights rightAround) := by
  induction each with
  | nil => exact .pure rfl
  | cons first _ inductionHypothesis =>
    exact first.bind_eq fun pieces => inductionHypothesis.bind_eq fun more => .pure rfl

/-- Capturing what linked writers write. -/
theorem linked_capture (each : LinkedEach known leftAround rightAround lefts rights) :
    Linked known Eq (capture lefts leftAround) (capture rights rightAround) :=
  (linked_inSequence each).bind_eq fun pieces => .settle (joinPieces pieces)

/-- Capturing what one of two linked writers writes. -/
theorem Linked.captureOne {left right : Writer} (linked : Linked known Eq (left leftAround) (right rightAround)) :
    Linked known Eq (capture [left] leftAround) (capture [right] rightAround) :=
  linked_capture (.cons linked .nil)

/-- The blocks of two linked writers. -/
theorem Linked.block {left right : Writer} (linked : Linked known Eq (left leftAround) (right rightAround)) :
    Linked known Eq (Markup.block left leftAround) (Markup.block right rightAround) :=
  linked.captureOne.bind_eq fun _ => .pure rfl

/-- The blocks of linked writers. -/
theorem linked_blocks (each : LinkedEach known leftAround rightAround lefts rights) :
    Linked known Eq (blocks lefts leftAround) (blocks rights rightAround) := by
  induction each with
  | nil => exact .pure rfl
  | cons first _ inductionHypothesis =>
    exact first.block.bind_eq fun text => inductionHypothesis.bind_eq fun texts => .pure rfl

/-- Items whose leading texts and other children are linked. -/
theorem linked_itemWriter (options : Options) {otherLefts otherRights : List Writer} (lets : known.LetsTake)
    (leading : LinkedEach known leftAround rightAround lefts rights)
    (others : LinkedEach known leftAround rightAround otherLefts otherRights) :
    Linked known Eq (itemWriter options lefts otherLefts leftAround)
      (itemWriter options rights otherRights rightAround) := by
  rw [itemWriter_eq, itemWriter_eq]
  exact Linked.listLevel.bind_eq fun level => (Linked.takeNumber lets).bind_eq fun number =>
    (linked_capture leading).bind_eq fun text => (linked_inSequence others).bind_eq fun pieces => .pure rfl

/-- Lists whose items are linked inside them. -/
theorem linked_listWriter (ordered start : Json)
    (items : ∀ level number outer, LinkedEach (.inside level number outer) leftAround rightAround lefts rights) :
    Linked known Eq (listWriter ordered start lefts leftAround)
      (listWriter ordered start rights rightAround) := by
  rw [listWriter_eq_inList, listWriter_eq_inList]
  exact .inList ordered start fun level number outer => linked_inSequence (items level number outer)

/-! ## Tables -/

end Markup

/-- Two layouts differ in nothing but what stands in their exported rows, whose keys are the same. -/
structure TableLayout.SameShape (left right : TableLayout) : Prop where
  shape : { left with rows := [] } = { right with rows := [] }
  keys : left.rows.map Node.rowKey? = right.rows.map Node.rowKey?

namespace TableLayout.SameShape

variable {left right : TableLayout}

/-- A layout has its own shape. -/
theorem refl (layout : TableLayout) : layout.SameShape layout :=
  ⟨rfl, rfl⟩

/-- What a layout tells without its rows. -/
theorem told {Told : Type} (same : left.SameShape right) (tell : TableLayout → Told)
    (rowless : ∀ layout, tell { layout with rows := [] } = tell layout) : tell left = tell right := by
  rw [← rowless left, ← rowless right, same.shape]

/-- Rows have the same positions in layouts of the same shape. -/
theorem rowIndex (same : left.SameShape right) (row : Node) : left.rowIndex row = right.rowIndex row := by
  have position (layout : TableLayout) :
      (layout.rows.findIdx? fun other => other.rowKey? == row.rowKey?) =
        (layout.rows.map Node.rowKey?).findIdx? (· == row.rowKey?) := by
    rw [List.findIdx?_map]
    rfl
  rw [TableLayout.rowIndex, TableLayout.rowIndex, position, position, same.keys]

end TableLayout.SameShape

namespace Markup

variable {asks : Prop} {leftAround rightAround : Option Surroundings} {known : Footing}

/-- Two tables around a node are linked: there are none, or their layouts have the same shape and their
widths are found by linked steps. Where questions for widths may let items take numbers, this is so where
items do not disturb what is known. -/
inductive AroundLinked (asks : Prop) : Option Surroundings → Option Surroundings → Prop where
  | outside : AroundLinked asks none none
  | inside {left right : Surroundings} :
      left.layout.SameShape right.layout →
      (∀ known : Footing, (asks → known.LetsTake) → ∀ column,
        Linked known Eq (left.width column) (right.width column)) →
      AroundLinked asks (some left) (some right)

/-- Two writers are linked in all surroundings that are linked, if questions do not disturb what is known. -/
def LinkedCells (asks : Prop) (left right : Writer) : Prop :=
  ∀ leftAround rightAround, AroundLinked asks leftAround rightAround →
    ∀ known : Footing, (asks → known.LetsTake) → Linked known Eq (left leftAround) (right rightAround)

/-- Measuring a column of linked cells. -/
theorem linked_measureColumn {lefts rights : List (List Writer)}
    (cells : List.Forall₂ (LinkedEach known leftAround rightAround) lefts rights) (column : Nat) :
    Linked known Eq (measureColumn column leftAround lefts) (measureColumn column rightAround rights) := by
  induction cells with
  | nil => exact .pure rfl
  | @cons left right leftRest rightRest row _ inductionHypothesis =>
    have sameLength := row.length_eq
    have rest {leftWidth rightWidth : Render Nat} (width : Linked known Eq leftWidth rightWidth) :
        Linked known Eq
          (leftWidth >>= fun width => measureColumn column leftAround leftRest >>= fun widest =>
            pure (max width widest))
          (rightWidth >>= fun width => measureColumn column rightAround rightRest >>= fun widest =>
            pure (max width widest)) :=
      width.bind_eq fun width => inductionHypothesis.bind_eq fun widest => .pure rfl
    by_cases inside : column < left.length
    · have cell := row.get inside (sameLength ▸ inside)
      simp only [measureColumn, List.getElem?_eq_getElem inside, List.getElem?_eq_getElem (sameLength ▸ inside)]
      exact rest (cell.captureOne.map fun text other same => congrArg Text.displayWidth same)
    · simp only [measureColumn, List.getElem?_eq_none (Nat.le_of_not_lt inside),
        List.getElem?_eq_none (sameLength ▸ Nat.le_of_not_lt inside)]
      exact rest (.pure rfl)

/-- The surroundings inside tables of linked cells are linked, however far questions nest. -/
theorem linked_surroundings {left right : TableLayout} {lefts rights : List (List Writer)}
    (same : left.SameShape right) (cells : List.Forall₂ (List.Forall₂ (LinkedCells asks)) lefts rights)
    (table bound : Nat) :
    AroundLinked asks (some (surroundings .remembering table left lefts bound))
      (some (surroundings .remembering table right rights bound)) := by
  have cookie (column : Nat) : left.cookie? column = right.cookie? column :=
    same.told (·.cookie? column) fun _ => rfl
  induction bound with
  | zero =>
    refine .inside same fun known _ column => ?_
    simp only [surroundings, cookie]
    exact (Linked.throw .endless).remembering table column _
  | succ bound inductionHypothesis =>
    refine .inside same fun known lets column => ?_
    simp only [surroundings, cookie]
    refine (linked_measureColumn (cells.imp fun _ _ row => row.imp fun _ _ cell => ?_) column).remembering
      table column _
    exact cell _ _ inductionHypothesis known lets

variable {left right : Surroundings}

/-- The widths of columns that are found by linked steps. -/
theorem linked_columnWidthsFrom (widths : ∀ column, Linked known Eq (left.width column) (right.width column))
    (first count : Nat) :
    Linked known Eq (columnWidthsFrom left first count) (columnWidthsFrom right first count) := by
  induction count generalizing first with
  | zero => exact .pure rfl
  | succ count inductionHypothesis =>
    exact (widths first).bind_eq fun width => (inductionHypothesis (first + 1)).bind_eq fun others => .pure rfl

/-- The widths of all columns of tables of the same shape. -/
theorem linked_columnWidths (same : left.layout.SameShape right.layout)
    (widths : ∀ column, Linked known Eq (left.width column) (right.width column)) :
    Linked known Eq (columnWidths left) (columnWidths right) := by
  rw [columnWidths, columnWidths, same.told (·.columnCount) fun _ => rfl]
  exact linked_columnWidthsFrom widths 0 _

/-- Cells that are linked in tables of the same shape. -/
theorem linked_writeCells {lefts rights : List Writer} (same : left.layout.SameShape right.layout)
    (widths : ∀ column, Linked known Eq (left.width column) (right.width column))
    (cells : LinkedEach known (some left) (some right) lefts rights) (column : Nat) :
    Linked known Eq (writeCells left column lefts) (writeCells right column rights) := by
  induction cells generalizing column with
  | nil => exact .pure rfl
  | cons cell _ inductionHypothesis =>
    refine cell.captureOne.bind_eq fun content => (widths column).bind_eq fun width =>
      (inductionHypothesis (column + 1)).bind_eq fun boxes => .pure ?_
    rw [same.told (·.startsGroup column) fun _ => rfl]

/-- Rows of linked cells. -/
theorem linked_rowWriter {lefts rights : List Writer} (around : AroundLinked asks leftAround rightAround)
    (lets : asks → known.LetsTake) (cells : LinkedEach known leftAround rightAround lefts rights) :
    Linked known Eq (rowWriter lefts leftAround) (rowWriter rights rightAround) := by
  cases around with
  | outside => exact .throw .strayRow
  | inside same widths =>
    simp only [rowWriter, same.told (·.specialColumn) fun _ => rfl]
    split
    · exact linked_writeCells same (widths known lets) (List.forall₂_drop 1 cells) 0
    · exact linked_writeCells same (widths known lets) cells 0

/-- Rule rows with the same key. -/
theorem linked_ruleWriter (around : AroundLinked asks leftAround rightAround) (lets : asks → known.LetsTake)
    (row : Node) : Linked known Eq (ruleWriter row leftAround) (ruleWriter row rightAround) := by
  cases around with
  | outside => exact .throw .strayRow
  | inside same widths =>
    simp only [ruleWriter, same.rowIndex]
    refine (Linked.settle _).bind_eq fun index => ?_
    split
    · exact (linked_columnWidths same (widths known lets)).bind_eq fun found => .pure rfl
    · exact .pure rfl

/-- Dummy headers of tables of the same shape. -/
theorem linked_dummyHeader (same : left.layout.SameShape right.layout)
    (widths : ∀ column, Linked known Eq (left.width column) (right.width column)) :
    Linked known Eq (dummyHeader left) (dummyHeader right) := by
  unfold dummyHeader
  rw [same.told (·.rowCount) fun _ => rfl]
  split
  · exact (linked_columnWidths same widths).bind_eq fun found => .pure rfl
  · exact .pure rfl

/-- What is selected from lists that are related one to one is related one to one. -/
theorem forall₂_select {Item Other : Type} {matched : Item → Other → Prop} {items : List Item}
    {others : List Other} (each : List.Forall₂ matched items others) (status : Bool) (special : List Bool) :
    List.Forall₂ matched (TableLayout.select status special items)
      (TableLayout.select status special others) := by
  induction each generalizing special with
  | nil => cases special <;> exact .nil
  | cons first _ inductionHypothesis =>
    cases special with
    | nil => exact .nil
    | cons flag flags =>
      rw [TableLayout.select_cons, TableLayout.select_cons]
      split
      · exact .cons first (inductionHypothesis flags)
      · exact inductionHypothesis flags

/-- The exported cells of rows whose cells are related one to one are so, if they are by the same layout. -/
theorem forall₂_exportedCells {Cell Other : Type} {matched : Cell → Other → Prop} {cells : List (List Cell)}
    {others : List (List Other)} (each : List.Forall₂ (List.Forall₂ matched) cells others)
    {left right : TableLayout} (same : left.SameShape right) :
    List.Forall₂ (List.Forall₂ matched) (exportedCells left cells) (exportedCells right others) := by
  rw [exportedCells, exportedCells, same.told (·.specialColumn) fun _ => rfl, TableLayout.exported,
    TableLayout.exported, same.told (·.special) fun _ => rfl, List.forall₂_map_left_iff,
    List.forall₂_map_right_iff]
  refine (forall₂_select each false right.special).imp fun row other related => ?_
  split
  · exact List.forall₂_drop 1 related
  · exact related

/-- Rows that are related one to one, cell by cell, have the same lengths. -/
theorem lengths_congr {Cell Other : Type} {matched : Cell → Other → Prop} {cells : List (List Cell)}
    {others : List (List Other)} (each : List.Forall₂ (List.Forall₂ matched) cells others) :
    cells.map List.length = others.map List.length := by
  induction each with
  | nil => rfl
  | cons row _ inductionHypothesis => rw [List.map_cons, List.map_cons, row.length_eq, inductionHypothesis]

/-- Tables of linked rows and cells, whose layouts have the same shape. -/
theorem linked_tableWriter {leftRows rightRows : List Node} {lefts rights : List Writer}
    {leftCells rightCells : List (List Writer)}
    (layouts : Linked known TableLayout.SameShape (settle (TableLayout.ofRows leftRows))
      (settle (TableLayout.ofRows rightRows)))
    (lets : asks → known.LetsTake)
    (rows : ∀ leftAround rightAround, AroundLinked asks leftAround rightAround →
      LinkedEach known leftAround rightAround lefts rights)
    (cells : List.Forall₂ (List.Forall₂ (LinkedCells asks)) leftCells rightCells) (table : Nat) :
    Linked known Eq (tableWriter .remembering table leftRows lefts leftCells leftAround)
      (tableWriter .remembering table rightRows rights rightCells rightAround) := by
  refine layouts.bind fun left right same => (Linked.note _ _).bind_eq fun _ => ?_
  rw [same.told (·.columnCount) fun _ => rfl]
  split
  · exact .pure rfl
  · have exported := forall₂_exportedCells cells same
    have around := linked_surroundings same exported table (questionBound (exportedCells right rightCells))
    have sameBound : questionBound (exportedCells left leftCells) =
        questionBound (exportedCells right rightCells) := by
      rw [questionBound, questionBound, lengths_congr exported]
    simp only [sameBound]
    have linesInside {leftInside rightInside : Option Surroundings}
        (around : AroundLinked asks leftInside rightInside) :
        LinkedEach known leftInside rightInside (left.exported lefts) (right.exported rights) := by
      rw [TableLayout.exported, TableLayout.exported, same.told (·.special) fun _ => rfl]
      exact forall₂_select (rows _ _ around) false right.special
    have lines := linked_blocks (linesInside around)
    cases around with
    | inside sameInside widths =>
      exact (linked_dummyHeader sameInside (widths known lets)).bind_eq fun header =>
        lines.bind_eq fun texts => .pure rfl

end Markup

end OutlineWiki
