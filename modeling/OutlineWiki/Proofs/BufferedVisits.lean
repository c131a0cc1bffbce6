import OutlineWiki.Proofs.LinkedNodes

/-!
# Visits that write to a buffer

A renderer has one buffer, to which every visit of a node appends, and remembers the table that it is
writing. Some visits work with a buffer of their own and set the old one back, a table does so with the
table around it, and a list puts its number on those of the lists around it and takes it off again. Here
these visits are given as such; a visit writes to the buffer just the pieces that the writer of its node
gives.
-/

namespace OutlineWiki

namespace Markup

variable {α β γ : Type}

/-- What visits work on: the state of the rendering, the pieces in the buffer, and the table being
written. -/
structure Desk where
  state : State := {}
  output : List Json := []
  current : Option CurrentTable := none

/-- A visit: it may fail, and what it changed before stays changed. -/
abbrev Buffered := EStateM Failure Desk

/-- A step that looks at the state of the rendering alone. -/
def ofStep (step : Render α) : Buffered α := fun desk =>
  match step.run desk.state with
  | .ok value state => .ok value { desk with state }
  | .error failure state => .error failure { desk with state }

instance : MonadStateOf WidthCache Buffered where
  get := ofStep (getThe WidthCache)
  set widths := ofStep (set widths)
  modifyGet change := ofStep (modifyGetThe WidthCache change)

/-- Appends a piece to the buffer. -/
def append (piece : Json) : Buffered Unit :=
  modifyThe Desk fun desk => { desk with output := desk.output ++ [piece] }

/-- What a visit writes to a buffer of its own. The old buffer is set back, also after a failure. -/
def captured (visit : Buffered Unit) : Buffered String := fun desk =>
  match visit.run { desk with output := [] } with
  | .ok _ after => (ofStep (settle (joinPieces after.output))).run { after with output := desk.output }
  | .error failure after => .error failure { after with output := desk.output }

/-- A visit of what stands in a table. The table around is set back, also after a failure. -/
def withTable (table : CurrentTable) (visit : Buffered α) : Buffered α := fun desk =>
  match visit.run { desk with current := some table } with
  | .ok value after => .ok value { after with current := desk.current }
  | .error failure after => .error failure { after with current := desk.current }

/-- A way to find the width of a column of the table being written. -/
abbrev Ask := Nat → Buffered Nat

/-- How a node is visited, given how the widths of columns are found. -/
abbrev Visitor := Ask → Buffered Unit

/-- Visits one after the other. -/
def visitAll : List Visitor → Visitor
  | [], _ => return ()
  | first :: rest, ask => do
    first ask
    visitAll rest ask

/-- What a visit writes on its own, without line feeds at its end. -/
def visitedBlock (visitor : Visitor) (ask : Ask) : Buffered String := do
  return Text.stripNewlinesEnd (← captured (visitAll [visitor] ask))

/-- The blocks of several visits. -/
def visitedBlocks : List Visitor → Ask → Buffered (List String)
  | [], _ => return []
  | first :: rest, ask => do
    let text ← visitedBlock first ask
    let texts ← visitedBlocks rest ask
    return text :: texts

/-- A visit that captures what others write and appends one text. -/
def textVisitor (change : String → String) (content : List Visitor) : Visitor := fun ask => do
  append (.string (change (← captured (visitAll content ask))))

/-- A visit of an item: its line with the text of a leading paragraph, then its other children. -/
def itemVisitor (options : Options) (leading others : List Visitor) : Visitor := fun ask => do
  let level := (← ofStep (getThe State)).listLevel
  let number ← ofStep takeNumber
  let text := reflow options (← captured (visitAll leading ask))
  append (.string (itemLine level number text))
  visitAll others ask

/-- A visit of a child of an item that is not a list. -/
def lineVisitor (child : Visitor) : Visitor := fun ask => do
  append (.string ((← visitedBlock child ask) ++ "\n"))

/-- A visit of a list: its items one level deeper, and the level and the numbers set back after them. -/
def listVisitor (ordered start : Json) (items : List Visitor) : Visitor := fun ask => do
  ofStep (modifyThe State (·.entering ordered start))
  visitAll items ask
  ofStep (modifyThe State State.leaving)

/-! ## Tables -/

/-- The width of the widest cell of a column. -/
def visitedWidth (column : Nat) (ask : Ask) : List (List Visitor) → Buffered Nat
  | [] => return 0
  | cells :: rest => do
    let width ←
      match cells[column]? with
      | some cell => Text.displayWidth <$> captured (visitAll [cell] ask)
      | none => pure 0
    let widest ← visitedWidth column ask rest
    return max width widest

/-- A question for the width of a column, answered by the memory of widths. -/
def rememberedWidth (table : CurrentTable) (column : Nat) (measure : Buffered Nat) : Buffered Nat :=
  WidthCache.width (fun count => ofStep (note (.widthsDropped count))) (pure (table.layout.cookie? column))
    measure table.key column

/-- The questions for the columns of a table, with a bound on nested ones. -/
def askAbout (table : CurrentTable) (grid : List (List Visitor)) : Nat → Ask
  | 0, column => rememberedWidth table column (throw .endless)
  | bound + 1, column => rememberedWidth table column (visitedWidth column (askAbout table grid bound) grid)

/-- The questions for the columns of a table with the given cells. -/
def askWithin (table : CurrentTable) (grid : List (List Visitor)) : Ask :=
  askAbout table grid ((grid.map List.length).foldl max 0 + 1)

/-- The widths of columns from one on. -/
def askFrom (ask : Ask) (first : Nat) : Nat → Buffered (List Nat)
  | 0 => return []
  | count + 1 => do
    let width ← ask first
    let widths ← askFrom ask (first + 1) count
    return width :: widths

/-- The cells of a row from a column on. A cell is visited before its column is measured. -/
def cellsVisitor (layout : TableLayout) (column : Nat) : List Visitor → Visitor
  | [], _ => return ()
  | cell :: rest, ask => do
    let content ← captured (visitAll [cell] ask)
    let width ← ask column
    append (.string (cellBox (layout.startsGroup column) content width))
    cellsVisitor layout (column + 1) rest ask

/-- A visit of a row of cells, in the table being written. -/
def rowVisitor (cells : List Visitor) : Visitor := fun ask => do
  match (← getThe Desk).current with
  | none => throw .strayRow
  | some table => cellsVisitor table.layout 0 (if table.layout.specialColumn then cells.drop 1 else cells) ask

/-- A visit of a rule row, in the table being written. -/
def ruleVisitor (row : Node) : Visitor := fun ask => do
  match (← getThe Desk).current with
  | none => throw .strayRow
  | some table =>
    if (← ofStep (settle (table.layout.rowIndex row))) = drawnRuleIndex then
      append (.string (ruleLine (← askFrom ask 0 table.layout.columnCount)))

/-- The dummy header of a table with at most one row of content. -/
def visitedHeader (layout : TableLayout) (ask : Ask) : Buffered (List String) := do
  if layout.rowCount ≤ 1 then
    let widths ← askFrom ask 0 layout.columnCount
    return [blankLine widths ++ "\n", ruleLine widths ++ "\n"]
  else
    return []

/-- A visit of a table: its rows are visited as those of the table being written. -/
def tableVisitor (key : Nat) (rows : List Node) (visitors : List Visitor) (cells : List (List Visitor)) :
    Visitor := fun _ => do
  let layout ← ofStep (settle (TableLayout.ofRows rows))
  ofStep (note (.renderingTable layout.rowCount layout.columnCount))
  if layout.columnCount = 0 then return ()
  let ask := askWithin ⟨key, layout⟩ (exportedCells layout cells)
  let parts ← withTable ⟨key, layout⟩ do
    let header ← visitedHeader layout ask
    let lines ← visitedBlocks (layout.exported visitors) ask
    return header ++ lines.map (· ++ "\n")
  append (.string (Text.dropEmptyLines (String.join parts)))

end Markup

open Markup

namespace Node

mutual

/-- How a node is visited. -/
def visitor (options : Options) : Node → Visitor
  | .document _ children => fun ask => do
    append (.string (joinBlocks (← visitedBlocks (visitors options children) ask)))
  | .heading _ level content => fun ask => do
    let text := Text.collapse (← captured (visitAll (visitors options content) ask))
    let mark ← ofStep (settle (headingMark level))
    append (.string (mark ++ " " ++ text))
  | .paragraph _ content =>
    textVisitor (fun text => escapeHash (reflow options text)) (visitors options content)
  | .codeBlock _ content language => fun _ => do
    append (.string (← ofStep (settle (codeBlockText options content language))))
  | .blockQuote _ children => fun ask => do
    append (.string (quoteLines (joinBlocks (← visitedBlocks (visitors options children) ask))))
  | .list _ ordered start items => listVisitor ordered start (visitors options items)
  | .listItem _ (.paragraph _ content :: others) =>
    itemVisitor options (visitors options content) (itemVisitors options others)
  | .listItem _ children => itemVisitor options [] (itemVisitors options children)
  | .table _ key rows => tableVisitor key rows (visitors options rows) (cellVisitors options rows)
  | .tableRow _ _ cells => rowVisitor (visitors options cells)
  | .ruleRow attributes key => ruleVisitor (.ruleRow attributes key)
  | .tableCell _ content => textVisitor Text.collapse (visitors options content)
  | .thematicBreak _ => fun _ => append (.string thematicBreakText)
  | .text _ content => fun _ => append content
  | .styled _ style content => textVisitor (styledText style) (visitors options content)
  | .code _ content => fun _ => append (.string (codeText content))
  | .link _ url content => textVisitor (linkText url) (visitors options content)
  | .image _ url _ => fun _ => append (.string (imageText url))
  | .lineBreak _ soft => fun _ => append (.string (lineBreakText soft))

/-- How nodes are visited. -/
def visitors (options : Options) : List Node → List Visitor
  | [] => []
  | node :: rest => visitor options node :: visitors options rest

/-- How an item's children are visited: lists as they are, all others as blocks on lines. -/
def itemVisitors (options : Options) : List Node → List Visitor
  | [] => []
  | .list attributes ordered start items :: rest =>
    visitor options (.list attributes ordered start items) :: itemVisitors options rest
  | node :: rest => lineVisitor (visitor options node) :: itemVisitors options rest

/-- How the cells of each row are visited. -/
def cellVisitors (options : Options) : List Node → List (List Visitor)
  | [] => []
  | .tableRow _ _ cells :: rest => visitors options cells :: cellVisitors options rest
  | _ :: rest => [] :: cellVisitors options rest

end

/-- A visit of a node, in the table being written if there is one. -/
def visit (options : Options) (node : Node) : Buffered Unit := do
  match (← getThe Desk).current with
  | none => node.visitor options fun _ => throw .strayRow
  | some around => node.visitor options (askWithin around (around.layout.rows.map fun row =>
      visitors options (around.layout.cells row)))

end Node

namespace Markup

open Node

variable {α β γ δ : Type} {current : Option CurrentTable}

/-! ## Visits that enact steps -/

/-- A visit and a step have ended alike: with values that belong together and the same state, where the visit
has appended what belongs to the value and left the table being written as it was; or for the same reason. -/
inductive EnactedEnds (current : Option CurrentTable) (output : List Json) (emits : β → α × List Json) :
    EStateM.Result Failure Desk α → EStateM.Result Failure State β → Prop where
  | ok {value : β} {after : State} :
      EnactedEnds current output emits (.ok (emits value).1 ⟨after, output ++ (emits value).2, current⟩)
        (.ok value after)
  | error {failure : Failure} {desk : Desk} {after : State} :
      EnactedEnds current output emits (.error failure desk) (.error failure after)

/-- A visit ends like a step from the same state, whatever is in the buffer. -/
def Enacts (current : Option CurrentTable) (emits : β → α × List Json) (visit : Buffered α)
    (step : Render β) : Prop :=
  ∀ state output, EnactedEnds current output emits (visit.run ⟨state, output, current⟩) (step.run state)

/-- A visit gives the value of a step and appends nothing. -/
abbrev Yields (current : Option CurrentTable) (visit : Buffered α) (step : Render α) : Prop :=
  Enacts current (fun value => (value, [])) visit step

/-- A visit appends the pieces that a step gives. -/
abbrev Appends (current : Option CurrentTable) (visit : Buffered Unit) (step : Render (List Json)) : Prop :=
  Enacts current (fun pieces => ((), pieces)) visit step

/-- A visit that enacts a step gives what belongs to the value of the step, or fails for the same reason. -/
theorem Enacts.comes_to {emits : β → α × List Json} {visit : Buffered α} {step : Render β}
    (enacts : Enacts current emits visit step) (state : State) (output : List Json) :
    (∃ value last, step.run state = .ok value last ∧ visit.run ⟨state, output, current⟩ =
        .ok (emits value).1 ⟨last, output ++ (emits value).2, current⟩) ∨
      ∃ failure last desk, step.run state = .error failure last ∧
        visit.run ⟨state, output, current⟩ = .error failure desk := by
  have ends := enacts state output
  revert ends
  generalize visit.run ⟨state, output, current⟩ = ended
  generalize step.run state = stepEnded
  intro ends
  cases ends with
  | ok => exact .inl ⟨_, _, rfl, rfl⟩
  | error => exact .inr ⟨_, _, _, rfl, rfl⟩

/-- A step that looks at the state alone. -/
theorem yields_ofStep (step : Render α) : Yields current (ofStep step) step := by
  intro state output
  have run : (ofStep step).run ⟨state, output, current⟩ =
      match step.run state with
      | .ok value after => .ok value ⟨after, output, current⟩
      | .error failure after => .error failure ⟨after, output, current⟩ := rfl
  rw [run]
  cases step.run state with
  | ok value after =>
    have ends : EnactedEnds current output (fun value : α => (value, []))
      (.ok value ⟨after, output ++ [], current⟩) (.ok value after) := .ok
    rwa [List.append_nil] at ends
  | error failure after => exact .error

/-- A value that is given. -/
theorem yields_pure (value : α) : Yields current (pure value) (pure value) :=
  yields_ofStep (pure value)

/-- A failure. -/
theorem enacts_throw (failure : Failure) (emits : β → α × List Json) :
    Enacts current emits (throw failure) (throw failure) :=
  fun _ _ => .error

/-- A piece that is appended. -/
theorem appends_piece (piece : Json) : Appends current (append piece) (pure [piece]) :=
  fun _ _ => .ok

/-- Nothing that is appended. -/
theorem appends_nothing : Appends current (pure ()) (pure []) := by
  intro state output
  have ends : EnactedEnds current output (fun pieces => ((), pieces)) (.ok () ⟨state, output ++ [], current⟩)
    (.ok [] state) := .ok
  rwa [List.append_nil] at ends

variable {emits : γ → δ × List Json} {visit : Buffered α} {step : Render α} {after : Buffered Unit}
  {writes next : Render (List Json)} {leave : Render Unit}

/-- A visit that gives a value, and another that is made with the value. -/
theorem Enacts.bind {next : α → Buffered δ} {nextStep : α → Render γ} (first : Yields current visit step)
    (second : ∀ value, Enacts current emits (next value) (nextStep value)) :
    Enacts current emits (visit >>= next) (step >>= nextStep) := by
  intro state output
  rw [EStateM.run_bind, EStateM.run_bind]
  rcases first.comes_to state output with ⟨value, last, run, visited⟩ | ⟨_, _, _, run, visited⟩
  · rw [run, visited, List.append_nil]
    exact second value last output
  · rw [run, visited]
    exact .error

/-- Two visits, each of which appends pieces. -/
theorem Enacts.andThen {visit : Buffered Unit} (first : Appends current visit writes)
    (second : Appends current after next) :
    Appends current (visit >>= fun _ => after)
      (writes >>= fun pieces => next >>= fun more => pure (pieces ++ more)) := by
  intro state output
  rw [EStateM.run_bind, EStateM.run_bind]
  rcases first.comes_to state output with ⟨pieces, between, run, visited⟩ | ⟨_, _, _, run, visited⟩
  · rw [run, visited]
    simp only [EStateM.run_bind]
    rcases second.comes_to between (output ++ pieces) with ⟨more, last, run, visited⟩ | ⟨_, _, _, run, visited⟩
    · have ends : EnactedEnds current output (fun pieces => ((), pieces))
        (.ok () ⟨last, output ++ (pieces ++ more), current⟩) (.ok (pieces ++ more) last) := .ok
      rw [run, visited, List.append_assoc]
      exact ends
    · rw [run, visited]
      exact .error
  · rw [run, visited]
    exact .error

/-- A piece before others. -/
theorem Enacts.behind (piece : Json) (rest : Appends current after next) :
    Appends current (append piece >>= fun _ => after) (next >>= fun pieces => pure (piece :: pieces)) :=
  (appends_piece piece).andThen rest

/-- A visit that appends pieces, and a step that looks at the state alone. -/
theorem Enacts.leaving {visit : Buffered Unit} (first : Appends current visit writes) :
    Appends current (visit >>= fun _ => ofStep leave)
      (writes >>= fun pieces => leave >>= fun _ => pure pieces) := by
  have left : Appends current (ofStep leave) (leave >>= fun _ => pure []) := by
    have both : Appends current (ofStep leave >>= fun _ => pure ()) _ :=
      (yields_ofStep leave).bind fun _ => appends_nothing
    rwa [bind_pure] at both
  have both := first.andThen left
  simpa only [bind_assoc, pure_bind, List.append_nil] using both

/-- What is written to a buffer of its own. -/
theorem yields_captured {visit : Buffered Unit} (visited : Appends current visit writes) :
    Yields current (captured visit) (writes >>= fun pieces => settle (joinPieces pieces)) := by
  intro state output
  have run : (captured visit).run ⟨state, output, current⟩ =
      match visit.run ⟨state, [], current⟩ with
      | .ok _ after => (ofStep (settle (joinPieces after.output))).run { after with output := output }
      | .error failure after => .error failure { after with output := output } := rfl
  rw [run, EStateM.run_bind]
  rcases visited.comes_to state [] with ⟨pieces, last, run, visited⟩ | ⟨_, _, _, run, visited⟩
  · rw [run, visited, List.nil_append]
    exact yields_ofStep (settle (joinPieces pieces)) last output
  · rw [run, visited]
    exact .error

/-- A visit of what stands in a table, as that of a table being written. -/
theorem yields_withTable {table : CurrentTable} (inside : Yields (some table) visit step) :
    Yields current (withTable table visit) step := by
  intro state output
  have run : (withTable table visit).run ⟨state, output, current⟩ =
      match visit.run ⟨state, output, some table⟩ with
      | .ok value after => .ok value { after with current := current }
      | .error failure after => .error failure { after with current := current } := rfl
  rw [run]
  rcases inside.comes_to state output with ⟨_, _, run, visited⟩ | ⟨_, _, _, run, visited⟩
  · rw [run, visited]
    exact .ok
  · rw [run, visited]
    exact .error

/-- A question for a width that is answered by the memory. -/
theorem yields_rememberedWidth {measure : Buffered Nat} {measureStep : Render Nat} (table : CurrentTable)
    (column : Nat) (measured : Yields current measure measureStep) :
    Yields current (rememberedWidth table column measure)
      (WidthFinder.remembering table.key (table.layout.cookie? column) column measureStep) := by
  have stored {width : Buffered Nat} {widthStep : Render Nat} (found : Yields current width widthStep) :
      Yields current (width >>= fun width => modifyThe WidthCache (·.store column width) >>= fun _ => pure width)
        (widthStep >>= fun width => modifyThe WidthCache (·.store column width) >>= fun _ => pure width) :=
    found.bind fun width => (yields_ofStep _).bind fun _ => yields_pure width
  unfold rememberedWidth WidthFinder.remembering WidthCache.width
  refine Enacts.bind (yields_ofStep _) fun before => Enacts.bind (yields_ofStep _) fun _ => ?_
  cases before.droppedBy? table.key
  case' some count => refine Enacts.bind (yields_ofStep _) fun _ => ?_
  all_goals
    simp only [pure_bind]
    cases (before.turnTo table.key).stored? column with
    | some width => exact yields_pure width
    | none =>
      cases table.layout.cookie? column with
      | some width => exact stored (yields_pure width)
      | none => exact stored measured

/-! ## Visits of several nodes -/

variable {visitors : List Visitor} {writers : List Writer} {ask : Ask} {around : Option Surroundings}

/-- Visits that append what writers give, one to one. -/
abbrev AppendEach (current : Option CurrentTable) (ask : Ask) (around : Option Surroundings) :
    List Visitor → List Writer → Prop :=
  List.Forall₂ fun visitor writer => Appends current (visitor ask) (writer around)

/-- Visits one after the other. -/
theorem appends_visitAll (each : AppendEach current ask around visitors writers) :
    Appends current (visitAll visitors ask) (inSequence writers around) := by
  induction each with
  | nil => exact appends_nothing
  | cons first _ inductionHypothesis => exact first.andThen inductionHypothesis

/-- What visits write to a buffer of their own. -/
theorem yields_capture (each : AppendEach current ask around visitors writers) :
    Yields current (captured (visitAll visitors ask)) (capture writers around) :=
  yields_captured (appends_visitAll each)

/-- The block that a visit writes. -/
theorem yields_visitedBlock {visitor : Visitor} {writer : Writer}
    (visited : Appends current (visitor ask) (writer around)) :
    Yields current (visitedBlock visitor ask) (block writer around) :=
  (yields_capture (.cons visited .nil)).bind fun _ => yields_pure _

/-- The blocks that visits write. -/
theorem yields_visitedBlocks (each : AppendEach current ask around visitors writers) :
    Yields current (visitedBlocks visitors ask) (blocks writers around) := by
  induction each with
  | nil => exact yields_pure []
  | cons first _ inductionHypothesis =>
    exact (yields_visitedBlock first).bind fun text => inductionHypothesis.bind fun texts => yields_pure _

/-- A text that is made of a value and appended. -/
theorem appends_text (given : Yields current visit step) (text : α → String) :
    Appends current (visit >>= fun value => append (.string (text value)))
      (step >>= fun value => pure [.string (text value)]) :=
  given.bind fun _ => appends_piece _

/-- A visit of an item. -/
theorem appends_itemVisitor (options : Options) {otherVisitors : List Visitor} {otherWriters : List Writer}
    (leading : AppendEach current ask around visitors writers)
    (others : AppendEach current ask around otherVisitors otherWriters) :
    Appends current (itemVisitor options visitors otherVisitors ask)
      (itemWriter options writers otherWriters around) :=
  (yields_ofStep _).bind fun _ => (yields_ofStep _).bind fun _ => (yields_capture leading).bind fun _ =>
    (appends_visitAll others).behind _

/-- A visit of a list. -/
theorem appends_listVisitor (ordered start : Json) (items : AppendEach current ask around visitors writers) :
    Appends current (listVisitor ordered start visitors ask) (listWriter ordered start writers around) :=
  (yields_ofStep _).bind fun _ => (appends_visitAll items).leaving

/-! ## Visits of tables -/

/-- A visit and a writer are seated alike: there is no table around, or its layout is that of the table being
written and questions are answered by the same steps. -/
inductive Seated : Option CurrentTable → Ask → Option Surroundings → Prop where
  | outside {ask : Ask} : Seated none ask none
  | inside {table : CurrentTable} {ask : Ask} {width : Nat → Render Nat} :
      (∀ column, Yields (some table) (ask column) (width column)) →
        Seated (some table) ask (some ⟨table.layout, width⟩)

/-- A visit appends what a writer gives wherever they are seated alike. -/
def Enacted (visitor : Visitor) (writer : Writer) : Prop :=
  ∀ current ask around, Seated current ask around → Appends current (visitor ask) (writer around)

/-- Visits that append what writers give do so where they are seated alike. -/
theorem Seated.appendEach (seated : Seated current ask around)
    (each : List.Forall₂ Enacted visitors writers) : AppendEach current ask around visitors writers :=
  each.imp fun _ _ enacted => enacted current ask around seated

/-- Measuring a column. -/
theorem yields_visitedWidth {grid : List (List Visitor)} {rows : List (List Writer)} (column : Nat)
    (cells : List.Forall₂ (AppendEach current ask around) grid rows) :
    Yields current (visitedWidth column ask grid) (measureColumn column around rows) := by
  induction cells with
  | nil => exact yields_pure 0
  | @cons left right leftRest rightRest row _ inductionHypothesis =>
    have sameLength := row.length_eq
    have rest {width : Buffered Nat} {widthStep : Render Nat} (found : Yields current width widthStep) :
        Yields current
          (width >>= fun width => visitedWidth column ask leftRest >>= fun widest => pure (max width widest))
          (widthStep >>= fun width => measureColumn column around rightRest >>= fun widest =>
            pure (max width widest)) :=
      found.bind fun width => inductionHypothesis.bind fun widest => yields_pure _
    by_cases inside : column < left.length
    · have cell := row.get inside (sameLength ▸ inside)
      simp only [visitedWidth, measureColumn, List.getElem?_eq_getElem inside,
        List.getElem?_eq_getElem (sameLength ▸ inside), map_eq_pure_bind]
      exact rest ((yields_capture (.cons cell .nil)).bind fun text => yields_pure _)
    · simp only [visitedWidth, measureColumn, List.getElem?_eq_none (Nat.le_of_not_lt inside),
        List.getElem?_eq_none (sameLength ▸ Nat.le_of_not_lt inside)]
      exact rest (yields_pure 0)

/-- Questions inside a table, however far they nest. -/
theorem seated_askAbout (table : CurrentTable) {grid : List (List Visitor)} {rows : List (List Writer)}
    (cells : List.Forall₂ (List.Forall₂ Enacted) grid rows) (bound : Nat) :
    Seated (some table) (askAbout table grid bound)
      (some (surroundings .remembering table.key table.layout rows bound)) := by
  induction bound with
  | zero => exact .inside fun column => yields_rememberedWidth table column (enacts_throw .endless _)
  | succ bound inductionHypothesis =>
    exact .inside fun column => yields_rememberedWidth table column (yields_visitedWidth column
      (cells.imp fun _ _ row => inductionHypothesis.appendEach row))

variable {table : CurrentTable} {width : Nat → Render Nat}

/-- The widths of columns. -/
theorem yields_askFrom (layout : TableLayout) (widths : ∀ column, Yields current (ask column) (width column))
    (first count : Nat) :
    Yields current (askFrom ask first count) (columnWidthsFrom ⟨layout, width⟩ first count) := by
  induction count generalizing first with
  | zero => exact yields_pure []
  | succ count inductionHypothesis =>
    exact (widths first).bind fun width => (inductionHypothesis (first + 1)).bind fun widths => yields_pure _

/-- The cells of a row. -/
theorem appends_cellsVisitor {layout : TableLayout}
    (widths : ∀ column, Yields current (ask column) (width column))
    (cells : AppendEach current ask (some ⟨layout, width⟩) visitors writers) (column : Nat) :
    Appends current (cellsVisitor layout column visitors ask) (writeCells ⟨layout, width⟩ column writers) := by
  induction cells generalizing column with
  | nil => exact appends_nothing
  | cons cell _ inductionHypothesis =>
    exact (yields_capture (.cons cell .nil)).bind fun content => (widths column).bind fun width =>
      (inductionHypothesis (column + 1)).behind _

/-- A visit of a row of cells. -/
theorem appends_rowVisitor (seated : Seated current ask around)
    (cells : AppendEach current ask around visitors writers) :
    Appends current (rowVisitor visitors ask) (rowWriter writers around) := by
  cases seated with
  | outside => exact enacts_throw .strayRow _
  | @inside table _ width widths =>
    show Appends (some table)
      (cellsVisitor table.layout 0 (if table.layout.specialColumn then visitors.drop 1 else visitors) ask)
      (writeCells ⟨table.layout, width⟩ 0 (if table.layout.specialColumn then writers.drop 1 else writers))
    split
    · exact appends_cellsVisitor widths (List.forall₂_drop 1 cells) 0
    · exact appends_cellsVisitor widths cells 0

/-- A visit of a rule row. -/
theorem appends_ruleVisitor (seated : Seated current ask around) (row : Node) :
    Appends current (ruleVisitor row ask) (ruleWriter row around) := by
  cases seated with
  | outside => exact enacts_throw .strayRow _
  | @inside table _ width widths =>
    show Appends (some table)
      (ofStep (settle (table.layout.rowIndex row)) >>= fun index =>
        if index = drawnRuleIndex then
          askFrom ask 0 table.layout.columnCount >>= fun widths => append (.string (ruleLine widths))
        else pure ())
      (ruleWriter row (some ⟨table.layout, width⟩))
    refine (yields_ofStep _).bind fun index => ?_
    split
    · exact (yields_askFrom table.layout widths 0 _).bind fun found => appends_piece _
    · exact appends_nothing

/-- The dummy header of a table. -/
theorem yields_visitedHeader (layout : TableLayout)
    (widths : ∀ column, Yields current (ask column) (width column)) :
    Yields current (visitedHeader layout ask) (dummyHeader ⟨layout, width⟩) := by
  unfold visitedHeader dummyHeader
  split
  · exact (yields_askFrom layout widths 0 _).bind fun found => yields_pure _
  · exact yields_pure []

/-- A visit of a table. -/
theorem appends_tableVisitor {cellVisitors : List (List Visitor)} {cellWriters : List (List Writer)}
    (rows : List.Forall₂ Enacted visitors writers)
    (cells : List.Forall₂ (List.Forall₂ Enacted) cellVisitors cellWriters) (key : Nat) (nodes : List Node) :
    Appends current (tableVisitor key nodes visitors cellVisitors ask)
      (tableWriter .remembering key nodes writers cellWriters around) := by
  refine (yields_ofStep _).bind fun layout => (yields_ofStep _).bind fun _ => ?_
  split
  · exact appends_nothing
  · have exported := forall₂_exportedCells cells (.refl layout)
    have sameBound : ((exportedCells layout cellVisitors).map List.length).foldl max 0 + 1 =
        questionBound (exportedCells layout cellWriters) := by
      rw [questionBound, lengths_congr exported]
    have seated := seated_askAbout ⟨key, layout⟩ exported (questionBound (exportedCells layout cellWriters))
    have rowsSeated {inside : Option Surroundings} {ask : Ask} (seated : Seated (some ⟨key, layout⟩) ask inside) :
        AppendEach (some ⟨key, layout⟩) ask inside (layout.exported visitors) (layout.exported writers) :=
      seated.appendEach (forall₂_select rows false layout.special)
    have lines := yields_visitedBlocks (rowsSeated seated)
    simp only [askWithin, sameBound]
    revert seated lines
    show Seated _ _ (some (surroundings .remembering key layout _ _)) → _
    generalize surroundings .remembering key layout (exportedCells layout cellWriters)
      (questionBound (exportedCells layout cellWriters)) = inside
    generalize askAbout ⟨key, layout⟩ (exportedCells layout cellVisitors) _ = askInside
    intro seated lines
    cases seated with
    | inside widths =>
      have parts : Yields current _ _ := yields_withTable
        ((yields_visitedHeader layout widths).bind fun header => lines.bind fun texts =>
          yields_pure (header ++ texts.map (· ++ "\n")))
      have text := appends_text parts fun parts => Text.dropEmptyLines (String.join parts)
      simpa only [bind_assoc, pure_bind] using text

/-! ## Visits of nodes -/

variable {options : Options} {nodes : List Node}

/-- How nodes are visited, one by one. -/
theorem visitors_eq_map (nodes : List Node) : Node.visitors options nodes = nodes.map (Node.visitor options) := by
  induction nodes with
  | nil => simp only [Node.visitors, List.map_nil]
  | cons node rest inductionHypothesis => simp only [Node.visitors, inductionHypothesis, List.map_cons]

/-- Nodes are visited as they are written when each of them is. -/
theorem enacted_visitors
    (each : ∀ node ∈ nodes, Enacted (node.visitor options) (node.writer (tableWriter .remembering) options)) :
    List.Forall₂ Enacted (Node.visitors options nodes)
      (Node.writers (tableWriter .remembering) options nodes) := by
  rw [visitors_eq_map, writers_eq_map, List.forall₂_map_left_iff, List.forall₂_map_right_iff, List.forall₂_same]
  exact each

/-- Nodes are visited as they are written, as children of an item. -/
theorem enacted_itemVisitors
    (each : ∀ node ∈ nodes, Enacted (node.visitor options) (node.writer (tableWriter .remembering) options)) :
    List.Forall₂ Enacted (itemVisitors options nodes) (itemWriters (tableWriter .remembering) options nodes) := by
  induction nodes with
  | nil =>
    simp only [itemVisitors, itemWriters]
    exact .nil
  | cons node rest inductionHypothesis =>
    have first := each node List.mem_cons_self
    have others := inductionHypothesis fun later inside => each later (List.mem_cons_of_mem node inside)
    have line : Enacted (lineVisitor (node.visitor options))
        (lineWriter (node.writer (tableWriter .remembering) options)) := fun current ask around seated =>
      appends_text (yields_visitedBlock (first current ask around seated)) (· ++ "\n")
    cases node with
    | list =>
      simp only [itemVisitors, itemWriters]
      simp only [writer] at first
      exact .cons first others
    | _ =>
      simp only [itemVisitors, itemWriters]
      exact .cons line others

/-- The cells of rows are visited as they are written. -/
theorem enacted_cellVisitors
    (each : ∀ row ∈ nodes, ∀ cell ∈ row.children,
      Enacted (cell.visitor options) (cell.writer (tableWriter .remembering) options)) :
    List.Forall₂ (List.Forall₂ Enacted) (cellVisitors options nodes)
      (cellWriters (tableWriter .remembering) options nodes) := by
  induction nodes with
  | nil =>
    simp only [cellVisitors, cellWriters]
    exact .nil
  | cons row rest inductionHypothesis =>
    have others := inductionHypothesis fun later inside => each later (List.mem_cons_of_mem row inside)
    cases row with
    | tableRow =>
      simp only [cellVisitors, cellWriters]
      exact .cons (enacted_visitors (each _ List.mem_cons_self)) others
    | _ =>
      simp only [cellVisitors, cellWriters]
      exact .cons .nil others

/-- Every node is visited as it is written. -/
theorem enacted_visitor (node : Node) :
    Enacted (node.visitor options) (node.writer (tableWriter .remembering) options) := by
  induction node using Node.inductionInside with
  | step node inductionHypothesis =>
    intro current ask around seated
    have children := fun child isChild => inductionHypothesis child isChild child (.self child)
    have each : AppendEach current ask around (Node.visitors options node.children)
        (Node.writers (tableWriter .remembering) options node.children) :=
      seated.appendEach (enacted_visitors children)
    cases node with
    | list attributes ordered start items =>
      simp only [visitor, writer]
      exact appends_listVisitor ordered start each
    | listItem attributes own =>
      have items (nodes : List Node) (isChild : ∀ child ∈ nodes, child ∈ own) :
          AppendEach current ask around (itemVisitors options nodes)
            (itemWriters (tableWriter .remembering) options nodes) :=
        seated.appendEach (enacted_itemVisitors fun child inside => children child (isChild child inside))
      cases own with
      | nil =>
        simp only [visitor, writer]
        exact appends_itemVisitor options .nil (items [] (List.forall_mem_nil _))
      | cons first rest =>
        cases first with
        | paragraph paragraphAttributes content =>
          have leading : AppendEach current ask around (Node.visitors options content)
              (Node.writers (tableWriter .remembering) options content) :=
            seated.appendEach (enacted_visitors fun inner inside =>
              inductionHypothesis _ List.mem_cons_self inner (.child inside (.self inner)))
          simp only [visitor, writer]
          exact appends_itemVisitor options leading (items rest fun child inside => List.mem_cons_of_mem _ inside)
        | _ =>
          simp only [visitor, writer]
          exact appends_itemVisitor options .nil (items _ fun child inside => inside)
    | table attributes key rows =>
      simp only [visitor, writer]
      refine appends_tableVisitor (enacted_visitors children)
        (enacted_cellVisitors fun row isRow cell isCell => ?_) key rows
      exact inductionHypothesis row isRow cell (.child isCell (.self cell))
    | tableRow attributes key cells =>
      simp only [visitor, writer]
      exact appends_rowVisitor seated each
    | ruleRow attributes key =>
      simp only [visitor, writer]
      exact appends_ruleVisitor seated _
    | document attributes own | blockQuote attributes own =>
      simp only [visitor, writer]
      exact appends_text (yields_visitedBlocks each) _
    | heading attributes level content =>
      simp only [visitor, writer]
      exact (yields_capture each).bind fun text => (yields_ofStep _).bind fun mark => appends_piece _
    | codeBlock attributes content language =>
      simp only [visitor, writer]
      exact appends_text (yields_ofStep _) fun text => text
    | paragraph | tableCell | styled | link =>
      simp only [visitor, writer]
      exact appends_text (yields_capture each) _
    | _ =>
      simp only [visitor, writer]
      exact appends_piece _

/-- Questions for the widths of the table being written are answered by the same steps. -/
theorem seated_current (table : CurrentTable) :
    Seated (some table) (askWithin table (table.layout.rows.map fun row =>
      Node.visitors options (table.layout.cells row))) (some (table.surroundings options)) := by
  have cells : List.Forall₂ (List.Forall₂ Enacted)
      (table.layout.rows.map fun row => Node.visitors options (table.layout.cells row)) (table.grid options) := by
    rw [CurrentTable.grid, List.forall₂_map_left_iff, List.forall₂_map_right_iff, List.forall₂_same]
    exact fun row _ => enacted_visitors fun cell _ => enacted_visitor cell
  rw [askWithin, lengths_congr cells]
  exact seated_askAbout table cells _

/-- A visit of a node appends the pieces that its writer gives, whatever table is being written. -/
theorem appends_visit (options : Options) (node : Node) (current : Option CurrentTable) :
    Appends current (node.visit options)
      (node.writer (tableWriter .remembering) options (current.map (CurrentTable.surroundings · options))) := by
  cases current with
  | none =>
    show Appends none (node.visitor options fun _ => throw .strayRow) _
    exact enacted_visitor node _ _ _ .outside
  | some table =>
    show Appends (some table) (node.visitor options (askWithin table (table.layout.rows.map fun row =>
      Node.visitors options (table.layout.cells row)))) _
    exact enacted_visitor node _ _ _ (seated_current table)

/-- A rendering is a visit of the tree from a clean desk, whose text is finished. -/
theorem render_eq_visit (options : Options) (tree : Node) :
    render options tree =
      match (captured (tree.visit options)).run {} with
      | .ok written _ => .ok (finishText written)
      | .error failure _ => .error failure := by
  have pieces : Appends none (tree.visit options) (tree.writer (tableWriter .remembering) options none) :=
    appends_visit options tree none
  have written : Yields none (captured (tree.visit options))
      (capture [tree.writer (tableWriter .remembering) options] none) := by
    simpa only [capture, inSequence, bind_assoc, pure_bind, List.append_nil] using yields_captured pieces
  rw [render_eq_renderedBy, renderedBy, renderTree, map_eq_pure_bind, EStateM.run_bind]
  rcases written.comes_to {} [] with ⟨_, _, run, visited⟩ | ⟨_, _, _, run, visited⟩
  · rw [run, visited]
    rfl
  · rw [run, visited]

end Markup

end OutlineWiki
