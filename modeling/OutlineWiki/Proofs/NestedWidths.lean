import OutlineWiki.Proofs.TurnAgreement
import OutlineWiki.Proofs.Widths

/-!
# Widths of nested tables

A table that measures its columns each time writes the same whenever the list level and the numbers of
the open lists are the same. A table that remembers its widths agrees with it as long as it is steady:
while the memory is about the table, it holds nothing but widths that measuring gives, because a
question that leaves the memory about another table makes the next question of this one start over.
-/

namespace OutlineWiki.Markup

variable {mayFail : Prop} {left right : TableForm} {options : Options} {level : Nat} {numbers : List Json}

/-- Measures of a column agree when its cells do, one after the other. -/
theorem agree_measures {layout : TableLayout} {rows : List Node} {column : Nat} {before after : Condition}
    {leftAround rightAround : Option Surroundings}
    (each : AgreeAllOr mayFail leftAround rightAround before after
      (Node.writers left options (TableLayout.inColumn (rows.map layout.cells) column))
      (Node.writers right options (TableLayout.inColumn (rows.map layout.cells) column))) :
    AgreeOr mayFail before after
      (measureColumn column leftAround (rows.map fun row => Node.writers left options (layout.cells row)))
      (measureColumn column rightAround
        (rows.map fun row => Node.writers right options (layout.cells row))) := by
  induction rows generalizing before with
  | nil =>
    simp only [List.map_nil, TableLayout.inColumn, List.filterMap_nil, Node.writers] at each
    cases each with
    | nil stays => exact .give 0 stays
  | cons row rest inductionHypothesis =>
    have cell_written : ∀ form, (Node.writers form options (layout.cells row))[column]? =
        (layout.cells row)[column]?.map (Node.writer form options) := by
      intro form
      rw [writers_eq_map, List.getElem?_map]
    simp only [List.map_cons, measureColumn, cell_written]
    rw [List.map_cons, TableLayout.inColumn, List.filterMap_cons] at each
    cases found : (layout.cells row)[column]? with
    | none =>
      rw [found] at each
      simp only [Option.map_none, pure_bind]
      exact (inductionHypothesis each).bind fun widest => .pure _
    | some cell =>
      rw [found] at each
      simp only [Node.writers] at each
      cases each with
      | cons first others =>
        have measured := (AgreeAllOr.single first).capture.map Text.displayWidth
        exact measured.bind fun width => (inductionHypothesis others).bind fun widest => .pure _

/-! ## Measuring each time -/

/-- Without a memory every question is answered by the cookie or the measure. -/
theorem measuring_eq (table column : Nat) (cookie? : Option Nat) (measure : Render Nat) :
    WidthFinder.measuring table cookie? column measure = cookieOrMeasure cookie? measure := by
  cases cookie? <;> rfl

/-- A list level and numbers of open lists, whatever the memory of widths holds. -/
def Standing (level : Nat) (numbers : List Json) : Condition := fun level' numbers' _ =>
  level' = level ∧ numbers' = numbers

/-- Steps that agree whatever the memory is about agree without a look at it. -/
theorem Agree.standing {Value : Type} {first second : Render Value}
    (same : ∀ about, Agree (At level numbers about fun _ => True) (At level numbers about fun _ => True)
      first second) :
    Agree (Standing level numbers) (Standing level numbers) first second := by
  refine AgreeOr.of_states fun level' numbers' widths stands => ?_
  obtain ⟨rfl, rfl⟩ := stands
  refine (same widths.table).weaken ?_ ?_
  · rintro _ _ _ ⟨rfl, rfl, rfl⟩
    exact ⟨rfl, rfl, rfl, trivial⟩
  · rintro level numbers widths ⟨sameLevel, sameNumbers, -⟩
    exact ⟨sameLevel, sameNumbers⟩

/-- Where a list level and numbers of open lists are given, states are alike. -/
theorem State.Meets.alike {first second : State} (firstStands : first.Meets (Standing level numbers))
    (secondStands : second.Meets (Standing level numbers)) : first.Alike second :=
  ⟨firstStands.1.trans secondStands.1.symm, firstStands.2.trans secondStands.2.symm⟩

/-- What is alike has the same list level and numbers of open lists. -/
theorem State.Alike.meets {first second : State} (alike : first.Alike second)
    (stands : first.Meets (Standing level numbers)) : second.Meets (Standing level numbers) :=
  ⟨alike.listLevel.symm.trans stands.1, alike.numbers.symm.trans stands.2⟩

/-- Steps that agree without a look at the memory agree the other way round. -/
theorem Agree.symm {Value : Type} {left right : Render Value}
    (same : Agree (Standing level numbers) (Standing level numbers) left right) :
    Agree (Standing level numbers) (Standing level numbers) right left := by
  intro first second alike stands
  rcases same.outcome ((alike.meets stands).alike stands) (alike.meets stands) with
    ⟨value, second', first', leftRun, rightRun, alike', stands'⟩ |
      ⟨failure, second', first', leftRun, rightRun⟩
  · exact .inl ⟨value, first', second', rightRun, leftRun, (alike'.meets stands').alike stands',
      alike'.meets stands'⟩
  · exact .inr ⟨failure, first', rightRun, .inr ⟨second', leftRun⟩⟩

/-- A value that one of two such steps gave once is given by the other each time. -/
theorem Agree.pure_left {Value : Type} {step again : Render Value} {value : Value} {state last : State}
    (same : Agree (Standing level numbers) (Standing level numbers) step again)
    (stands : state.Meets (Standing level numbers)) (found : step.run state = .ok value last) :
    Agree (Standing level numbers) (Standing level numbers) (Pure.pure value) again := by
  intro first second alike meets
  have secondStands := alike.meets meets
  rcases same.outcome (stands.alike secondStands) stands with
    ⟨_, last', second', run, againRun, alike', stands'⟩ | ⟨_, _, _, run, _⟩
  · rw [found] at run
    obtain ⟨rfl, rfl⟩ := EStateM.Result.ok.inj run
    exact .inl ⟨_, first, second', rfl, againRun, meets.alike (alike'.meets stands'), meets⟩
  · rw [found] at run
    cases run

/-- No turns of several nodes are no turns. -/
theorem flatMap_nothing (nodes : List Node) : nodes.flatMap Forecast.nothing.turns = [] :=
  List.flatMap_eq_nil_iff.mpr fun _ _ => rfl

/-- The cells of a table agree with themselves when every width is measured. -/
abbrev CellsAgain (options : Options) (level : Nat) (numbers : List Json) (rows : List Node) : Prop :=
  CellsKeepTurns False (tableWriter .measuring) (tableWriter .measuring) options .nothing level numbers rows

/-- A width that is measured each time agrees with itself, when the table's cells do. -/
theorem agree_measuredWidth {key : Nat} {rows : List Node} {layout : TableLayout}
    (made : TableLayout.ofRows rows = .ok layout) (columns : layout.columnCount ≠ 0)
    (once : (rows.flatMap Node.tableKeys).Nodup) (cells : CellsAgain options level numbers rows)
    {about : Option Nat} {known : WidthCache → Prop} (free : Free (rows.flatMap Node.tableKeys) known)
    (column : Nat) :
    Agree (At level numbers about known) (At level numbers about known)
      ((insideTable .measuring (tableWriter .measuring) options key rows layout).width column)
      ((insideTable .measuring (tableWriter .measuring) options key rows layout).width column) := by
  obtain ⟨inner, asks⟩ := width_insideTable .measuring (tableWriter .measuring) options key made
  rw [asks, measuring_eq]
  cases layout.cookie? column with
  | some width => exact .pure width
  | none =>
    have fits : Forecast.nothing.FitsAll about (layout.columnCells column) := Forecast.nothing_fitsAll _
    have all := cells.column made columns once free (.inr fits) (some inner) (some inner)
    rw [flatMap_nothing] at all
    exact agree_measures (all.weaken (fun _ _ _ meets => meets) fun _ _ _ meets => meets.1)

/-- A table that measures its columns each time agrees with itself, when its cells do. -/
theorem agree_measuringTable {key : Nat} {rows : List Node} (once : (rows.flatMap Node.tableKeys).Nodup)
    (cells : CellsAgain options level numbers rows) {about : Option Nat} {known : WidthCache → Prop}
    (free : Free (rows.flatMap Node.tableKeys) known) (leftAround rightAround : Option Surroundings) :
    Agree (At level numbers about known) (At level numbers about known)
      (tableWriter .measuring key rows (Node.writers (tableWriter .measuring) options rows)
        (Node.cellWriters (tableWriter .measuring) options rows) leftAround)
      (tableWriter .measuring key rows (Node.writers (tableWriter .measuring) options rows)
        (Node.cellWriters (tableWriter .measuring) options rows) rightAround) := by
  cases made : TableLayout.ofRows rows with
  | error failure =>
    simp only [tableWriter, made, settle]
    exact .throw failure
  | ok layout =>
    have each : ∀ moments : List (Moment Node), (∀ moment ∈ moments, moment ∈ layout.ownMoments) →
        AgreeMoments False (tableWriter .measuring) (tableWriter .measuring) options
          (insideTable .measuring (tableWriter .measuring) options key rows layout)
          (insideTable .measuring (tableWriter .measuring) options key rows layout)
          (At level numbers about known) (At level numbers about known) moments := by
      intro moments inside
      induction moments with
      | nil => exact .nil fun _ _ _ meets => meets
      | cons moment rest inductionHypothesis =>
        have later := inductionHypothesis fun other isLater =>
          inside other (List.mem_cons_of_mem moment isLater)
        have isMoment := inside _ List.mem_cons_self
        cases moment with
        | cell cell =>
          have cellFree := free.mono (Node.tableKeys_subset_of_moment made isMoment)
          have written := (cells layout made cell isMoment).capture cellFree
            (.inr (⟨rfl, trivial⟩ : Forecast.nothing.Fits about cell))
            (some (insideTable .measuring (tableWriter .measuring) options key rows layout))
            (some (insideTable .measuring (tableWriter .measuring) options key rows layout))
          exact .cell (written.weaken (fun _ _ _ meets => meets) fun _ _ _ meets => meets.1) later
        | question column =>
          exact .question (agree_measuredWidth made (layout.columnCount_ne_zero isMoment) once cells free
            column) later
    exact AgreeMoments.table made (each layout.ownMoments fun _ inside => inside) leftAround rightAround

/-- A node whose tables measure their columns each time agrees with itself. -/
theorem keepsTurns_measuring {node : Node} (settled : numbersAfterItem numbers = numbers)
    (noRow : node.rowKey? = none) (holds : node.Everywhere (·.holdsItsKinds = true))
    (once : node.tableKeys.Nodup) :
    KeepsTurns False (tableWriter .measuring) (tableWriter .measuring) options .nothing level numbers
      node := by
  refine keepsTurns_of_tables settled noRow holds once ?_
  intro attributes place isPlace within placeSettled cells started about known begins free fits
    leftAround rightAround
  have tableOnce := once.sublist (Node.tableKeys_sublist within)
  rw [Node.tableKeys_table] at tableOnce free
  obtain rfl : started = place.numbers := by simpa [Node.isItem] using begins
  simp only [Node.writer]
  refine (agree_measuringTable tableOnce.tail cells (free.mono (List.subset_cons_self _ _)) leftAround
    rightAround).weaken (fun _ _ _ meets => meets) fun _ _ _ meets => ⟨meets, rfl, trivial⟩

/-! ## Remembering -/

/-- A visit of a table: where the table stands, what the memory was about and what was known of it, the
key of the table and those of the tables in its rows, and for each column how its width is found without
a memory and the turns of the cells that this measures. -/
structure Visit where
  level : Nat
  numbers : List Json
  about : Option Nat
  known : WidthCache → Prop
  key : Nat
  inner : List Nat
  own : Nat → Render Nat
  nested : Nat → List Nat

namespace Visit

/-- A width that is found for a column each time it is measured, and without another table. -/
def Trusts (visit : Visit) (column width : Nat) : Prop :=
  visit.nested column = [] ∧ Agree (Standing visit.level visit.numbers) (Standing visit.level visit.numbers)
    (pure width) (visit.own column)

/-- The memory holds nothing but own widths of the table, if it is about it. -/
def OwnWidths (visit : Visit) (cache : WidthCache) : Prop :=
  cache.table = some visit.key → ∀ column width, cache.stored? column = some width →
    visit.Trusts column width

/-- What is known in a visit after some turns. Before the first one the memory is as it was found. -/
def After (visit : Visit) (turns : List Nat) : Condition :=
  At visit.level visit.numbers (turns.getLast?.or visit.about) fun cache =>
    visit.known cache ∧ (turns ≠ [] → visit.OwnWidths cache)

/-- The tables of a visit are different ones, what was known before says nothing about them, and a column
has the same width each time it is measured. -/
structure Sound (visit : Visit) : Prop where
  other : visit.key ∉ visit.inner
  free : Free (visit.key :: visit.inner) visit.known
  inside : ∀ column, visit.nested column ⊆ visit.inner
  repeats : ∀ column, Agree (Standing visit.level visit.numbers) (Standing visit.level visit.numbers)
    (visit.own column) (visit.own column)

variable {visit : Visit}

/-- The memory holds nothing but own widths when it has just been turned to the table. -/
theorem ownWidths_turnTo {cache : WidthCache}
    (own : cache.table = some visit.key → visit.OwnWidths cache) :
    visit.OwnWidths (cache.turnTo visit.key) := by
  by_cases about : cache.table = some visit.key
  · rw [WidthCache.turnTo, if_pos about]
    exact own about
  · rw [WidthCache.turnTo, if_neg about]
    intro _ column width stored
    cases stored

/-- A width that the memory may be trusted with can be stored. -/
theorem ownWidths_store {cache : WidthCache} {column width : Nat} (own : visit.OwnWidths cache)
    (trusted : cache.table = some visit.key → visit.Trusts column width) :
    visit.OwnWidths (cache.store column width) := by
  intro about other found stored
  by_cases same : other = column
  · subst same
    rw [WidthCache.stored?_store_self] at stored
    obtain rfl := Option.some.inj stored
    exact trusted about
  · rw [WidthCache.stored?_store_of_ne _ _ same] at stored
    exact own about other found stored

/-- The last turn of a question is that of the last cell that asks, or else its own. -/
theorem getLast?_question (turns nested : List Nat) (key : Nat) (about : Option Nat) :
    (turns ++ key :: nested).getLast?.or about = nested.getLast?.or (some key) := by
  rw [List.getLast?_append, List.getLast?_cons]
  cases nested.getLast? <;> rfl

/-- After the cells of a column have been measured, what was known before the visit is known again. -/
theorem Sound.known_after (sound : visit.Sound) {column : Nat} {cache : WidthCache}
    (turned : cache.table = (visit.nested column).getLast?.or (some visit.key)) : visit.known cache := by
  cases last : (visit.nested column).getLast? with
  | none =>
    rw [last] at turned
    exact sound.free visit.key List.mem_cons_self _ turned
  | some key =>
    rw [last] at turned
    exact sound.free key (List.mem_cons_of_mem _ (sound.inside column (List.mem_of_getLast? last))) _ turned

/-- Only a measure without another table leaves the memory about the table of the visit. -/
theorem Sound.measured_alone (sound : visit.Sound) {column : Nat} {cache : WidthCache}
    (turned : cache.table = (visit.nested column).getLast?.or (some visit.key))
    (about : cache.table = some visit.key) : visit.nested column = [] := by
  cases last : (visit.nested column).getLast? with
  | none => exact List.getLast?_eq_none_iff.mp last
  | some key =>
    rw [last, about] at turned
    obtain rfl := Option.some.inj turned
    exact absurd (sound.inside column (List.mem_of_getLast? last)) sound.other

/-- A question is answered with the column's own width, and the memory stays sound: when the cells that
are measured leave it about another table, the width that is then stored is none of this table's. -/
theorem Sound.question (sound : visit.Sound) {column : Nat} {cookie? : Option Nat} {measure : Render Nat}
    {turns : List Nat}
    (measured : ∀ known, Free visit.inner known →
      AgreeOr mayFail (At visit.level visit.numbers (some visit.key) known)
        (At visit.level visit.numbers ((visit.nested column).getLast?.or (some visit.key)) known)
        (cookieOrMeasure cookie? measure) (visit.own column))
    (starts : turns = [] → visit.about ≠ some visit.key) :
    AgreeOr mayFail (visit.After turns) (visit.After (turns ++ visit.key :: visit.nested column))
      (WidthFinder.remembering visit.key cookie? column measure) (visit.own column) := by
  rintro first second alike ⟨atLevel, atNumbers, isAbout, -, own⟩
  have turnedAlike : (first.turned visit.key).Alike second := ⟨alike.listLevel, alike.numbers⟩
  have turnedOwn : visit.OwnWidths (first.widths.turnTo visit.key) := by
    refine ownWidths_turnTo fun about => own ?_
    rintro rfl
    exact starts rfl (isAbout.symm.trans about)
  have turnedKnown : visit.known (first.widths.turnTo visit.key) :=
    sound.free visit.key List.mem_cons_self _ (WidthCache.table_turnTo _ _)
  rw [run_remembering]
  cases stored : (first.widths.turnTo visit.key).stored? column with
  | some width =>
    obtain ⟨alone, again⟩ := turnedOwn (WidthCache.table_turnTo _ _) column width stored
    have stands : (first.turned visit.key).Meets (Standing visit.level visit.numbers) :=
      ⟨atLevel, atNumbers⟩
    rcases again.outcome turnedAlike stands with
      ⟨_, _, second', run, ownRun, alike', -⟩ | ⟨_, _, _, run, -⟩
    · obtain ⟨rfl, rfl⟩ := EStateM.Result.ok.inj run
      refine .inl ⟨_, _, second', rfl, ownRun, alike', atLevel, atNumbers, ?_, turnedKnown,
        fun _ => turnedOwn⟩
      rw [getLast?_question, alone]
      exact WidthCache.table_turnTo _ _
    · cases run
  | none =>
    have free : Free visit.inner fun cache => visit.known cache ∧ visit.OwnWidths cache := by
      intro key inside cache about
      refine ⟨sound.free key (List.mem_cons_of_mem _ inside) cache about, fun isOwn => ?_⟩
      obtain rfl := Option.some.inj (about.symm.trans isOwn)
      exact absurd inside sound.other
    rcases measured _ free (first.turned visit.key) second turnedAlike
        ⟨atLevel, atNumbers, WidthCache.table_turnTo _ _, turnedKnown, turnedOwn⟩ with
      ⟨width, after, second', run, ownRun, alike', afterLevel, afterNumbers, afterAbout, -, afterOwn⟩ |
        ⟨failure, after, run, failed⟩
    · rw [run]
      refine .inl ⟨width, _, second', rfl, ownRun, ⟨alike'.listLevel, alike'.numbers⟩, afterLevel,
        afterNumbers, ?_, sound.known_after afterAbout, fun _ => ownWidths_store afterOwn fun about => ?_⟩
      · rw [getLast?_question]
        exact afterAbout
      · have stands : second.Meets (Standing visit.level visit.numbers) :=
          ⟨alike.listLevel ▸ atLevel, alike.numbers ▸ atNumbers⟩
        exact ⟨sound.measured_alone afterAbout about, (sound.repeats column).pure_left stands ownRun⟩
    · rw [run]
      exact .inr ⟨failure, _, rfl, failed⟩

/-- A cell is written alike in a visit when it keeps to its turns. -/
theorem Sound.cell (sound : visit.Sound) {left right : TableForm} {options : Options} {cell : Node}
    {turns : List Nat}
    (keeps : KeepsTurns mayFail left right options .ofTurns visit.level visit.numbers cell)
    (inside : cell.tableKeys ⊆ visit.inner)
    (fits : mayFail ∨ Forecast.ofTurns.Fits (turns.getLast?.or visit.about) cell)
    (leftAround rightAround : Option Surroundings) :
    AgreeOr mayFail (visit.After turns)
      ((visit.After (turns ++ cell.turns)).knowing
        (Forecast.ofTurns.Fits (turns.getLast?.or visit.about) cell))
      (capture [cell.writer left options] leftAround) (capture [cell.writer right options] rightAround) := by
  have notOwn : ∀ key ∈ cell.tableKeys, key ≠ visit.key := by
    rintro key isKey rfl
    exact sound.other (inside isKey)
  have free : Free cell.tableKeys fun cache =>
      visit.known cache ∧ (turns ≠ [] → visit.OwnWidths cache) := by
    intro key isKey cache about
    refine ⟨sound.free key (List.mem_cons_of_mem _ (inside isKey)) cache about, fun _ isOwn => ?_⟩
    exact absurd (Option.some.inj (about.symm.trans isOwn)) (notOwn key isKey)
  refine (keeps.capture free fits leftAround rightAround).weaken (fun _ _ _ meets => meets) ?_
  rintro level numbers widths ⟨⟨atLevel, atNumbers, isAbout, isKnown, own⟩, cellFits⟩
  refine ⟨⟨atLevel, atNumbers, ?_, isKnown, fun some => ?_⟩, cellFits⟩
  · rw [List.getLast?_append, Option.or_assoc]
    exact isAbout
  · -- The first turns of the visit may be those of this cell, which leave the memory about another table.
    have cellAbout : widths.table = cell.turns.getLast?.or (turns.getLast?.or visit.about) := isAbout
    cases last : cell.turns.getLast? with
    | none =>
      obtain none := List.getLast?_eq_none_iff.mp last
      rw [none, List.append_nil] at some
      exact own some
    | some key =>
      intro isOwn
      rw [last, isOwn] at cellAbout
      have isKey := Node.turns_subset cell (List.mem_of_getLast? last)
      exact absurd (Option.some.inj cellAbout).symm (notOwn key isKey)

/-- The moments of a visit agree when its questions and its cells do, if no cell begins with a question
of the table that the memory is about, or else the first visit may fail. -/
theorem moments {left right : TableForm} {options : Options} {leftAround rightAround : Surroundings}
    {layout : TableLayout}
    (question : ∀ column turns, (turns = [] → visit.about ≠ some visit.key) →
      AgreeOr mayFail (visit.After turns)
        (visit.After (turns ++ layout.ownTurns visit.key (.question column)))
        (leftAround.width column) (rightAround.width column))
    (cell : ∀ cell, .cell cell ∈ layout.ownMoments → ∀ turns : List Nat,
      mayFail ∨ Forecast.ofTurns.Fits (turns.getLast?.or visit.about) cell →
        AgreeOr mayFail (visit.After turns)
          ((visit.After (turns ++ cell.turns)).knowing
            (Forecast.ofTurns.Fits (turns.getLast?.or visit.about) cell))
          (capture [cell.writer left options] (some leftAround))
          (capture [cell.writer right options] (some rightAround)))
    {moments : List (Moment Node)} (inside : ∀ moment ∈ moments, moment ∈ layout.ownMoments)
    (turns : List Nat)
    (steady : mayFail ∨ layout.steadyFrom visit.key turns.getLast? moments = true ∧
      ∀ cell, .cell cell ∈ moments → cell.Steady)
    (starts : Node.startsOver visit.about (turns ++ moments.flatMap (layout.ownTurns visit.key)) = true) :
    AgreeMoments mayFail left right options leftAround rightAround (visit.After turns)
      ((visit.After (turns ++ moments.flatMap (layout.ownTurns visit.key))).knowing
        (layout.steadyFrom visit.key turns.getLast? moments = true ∧
          ∀ cell, .cell cell ∈ moments → cell.Steady)) moments := by
  induction moments generalizing turns with
  | nil =>
    rw [List.flatMap_nil, List.append_nil]
    exact .nil fun _ _ _ meets => ⟨meets, rfl, fun cell none => absurd none List.not_mem_nil⟩
  | cons moment rest inductionHypothesis =>
    rw [List.flatMap_cons, ← List.append_assoc] at starts ⊢
    have later := fun steady => inductionHypothesis
      (fun other isLater => inside other (List.mem_cons_of_mem moment isLater))
      (turns ++ layout.ownTurns visit.key moment) steady starts
    rw [List.getLast?_append] at later
    cases moment with
    | cell cell' =>
      -- Where no turn of the visit came before, the cell begins the visit.
      have begins : turns.getLast? = none → Node.startsOver visit.about cell'.turns = true := by
        intro none
        obtain rfl := List.getLast?_eq_none_iff.mp none
        exact Node.startsOver_left (show Node.startsOver visit.about (cell'.turns ++ _) = true from starts)
      have overHere : Node.startsOver turns.getLast? cell'.turns = true ↔
          Node.startsOver (turns.getLast?.or visit.about) cell'.turns = true := by
        cases last : turns.getLast? with
        | none => exact ⟨fun _ => begins last, fun _ => Node.startsOver_none _⟩
        | some key => exact .rfl
      simp only [TableLayout.steadyFrom, Bool.and_eq_true, List.mem_cons, Moment.cell.injEq,
        forall_eq_or_imp, overHere] at steady ⊢
      have fits : mayFail ∨ Forecast.ofTurns.Fits (turns.getLast?.or visit.about) cell' :=
        steady.imp_right fun ⟨⟨begun, _⟩, own, _⟩ => ⟨begun, own⟩
      have others := later (steady.imp_right fun ⟨⟨_, steadyLater⟩, _, cells⟩ => ⟨steadyLater, cells⟩)
      refine .cell (cell cell' (inside _ List.mem_cons_self) turns fits) ((others.keeping
        (Forecast.ofTurns.Fits (turns.getLast?.or visit.about) cell')).weaken (fun _ _ _ meets => meets) ?_)
      rintro _ _ _ ⟨⟨meets, steadyLater, cells⟩, begun, own⟩
      exact ⟨meets, ⟨begun, steadyLater⟩, own, cells⟩
    | question column =>
      simp only [TableLayout.steadyFrom, List.mem_cons, reduceCtorEq, false_or] at steady ⊢
      refine .question (question column turns ?_) (later steady)
      rintro rfl
      exact Node.startsOver_iff.mp starts visit.key rfl

end Visit

/-- A table with a layout is steady when its moments are, and the cells among them. -/
theorem steady_table_of_ofRows {attributes : Attributes} {key : Nat} {rows : List Node} {layout : TableLayout}
    (made : TableLayout.ofRows rows = .ok layout) :
    (Node.table attributes key rows).Steady ↔ layout.steadyFrom key none layout.ownMoments = true ∧
      ∀ cell, .cell cell ∈ layout.ownMoments → cell.Steady := by
  simp only [Node.steady_table_iff, Node.isSteady, made, Except.ok.injEq, forall_eq']

/-- The cells of a column of steady cells ask afresh when the memory is about their table. -/
theorem fitsAll_columnCells {rows : List Node} {layout : TableLayout} {key : Nat}
    (made : TableLayout.ofRows rows = .ok layout) (columns : layout.columnCount ≠ 0)
    (other : key ∉ rows.flatMap Node.tableKeys) (steady : ∀ cell, .cell cell ∈ layout.ownMoments → cell.Steady)
    (column : Nat) : Forecast.ofTurns.FitsAll (some key) (layout.columnCells column) := by
  refine ⟨?_, fun cell inColumn => ?_⟩
  · show Node.startsOver (some key) ((layout.columnCells column).flatMap Node.turns) = true
    rw [Node.startsOver_iff]
    rintro first isFirst same
    obtain rfl := Option.some.inj same
    have inColumn := Forecast.ofTurns.insideAll _ (List.mem_of_head? isFirst)
    exact other ((TableLayout.column_sublist made column).subset inColumn)
  · obtain ⟨row, isRow, isCell⟩ := TableLayout.mem_cells_of_mem_column inColumn
    exact steady cell (layout.mem_ownMoments columns isRow isCell)

/-- A width that is measured while the memory is about the table agrees with the one that is measured each
time, when the table's cells do and are steady. -/
theorem agree_rememberedMeasure {key : Nat} {rows : List Node} {layout : TableLayout}
    (made : TableLayout.ofRows rows = .ok layout) (columns : layout.columnCount ≠ 0)
    (once : (key :: rows.flatMap Node.tableKeys).Nodup)
    (cells : CellsKeepTurns mayFail left (tableWriter .measuring) options .ofTurns level numbers rows)
    (steady : mayFail ∨ ∀ cell, .cell cell ∈ layout.ownMoments → cell.Steady) {known : WidthCache → Prop}
    (free : Free (rows.flatMap Node.tableKeys) known) (column : Nat) (leftAround : Option Surroundings) :
    AgreeOr mayFail (At level numbers (some key) known)
      (At level numbers ((layout.measureTurns column).getLast?.or (some key)) known)
      (cookieOrMeasure (layout.cookie? column) (measureColumn column leftAround
        (layout.rows.map fun row => Node.writers left options (layout.cells row))))
      ((insideTable .measuring (tableWriter .measuring) options key rows layout).width column) := by
  obtain ⟨other, innerOnce⟩ := List.nodup_cons.mp once
  obtain ⟨inner, asks⟩ := width_insideTable .measuring (tableWriter .measuring) options key made
  rw [asks, measuring_eq, TableLayout.measureTurns]
  cases layout.cookie? column with
  | some width => exact .pure width
  | none =>
    have fits := steady.imp_right fun isSteady => fitsAll_columnCells made columns other isSteady column
    exact agree_measures ((cells.column made columns innerOnce free fits _ _).weaken
      (fun _ _ _ meets => meets) fun _ _ _ meets => meets.1)

/-- A steady table that remembers its widths agrees with the one that measures them each time, when its
cells do, in every visit that starts over. A table that is not steady fails when one of its cells does
that is not visited afresh. -/
theorem agree_rememberingTable {attributes : Attributes} {key : Nat} {rows : List Node}
    (once : (Node.table attributes key rows).tableKeys.Nodup)
    (cells : CellsKeepTurns mayFail left (tableWriter .measuring) options .ofTurns level numbers rows)
    (again : CellsAgain options level numbers rows)
    {about : Option Nat} {known : WidthCache → Prop}
    (free : Free (Node.table attributes key rows).tableKeys known)
    (starts : Node.startsOver about (Node.table attributes key rows).turns = true)
    (steady : mayFail ∨ (Node.table attributes key rows).Steady)
    (leftAround rightAround : Option Surroundings) :
    AgreeOr mayFail (At level numbers about known)
      ((At level numbers ((Node.table attributes key rows).turns.getLast?.or about) known).knowing
        (Node.table attributes key rows).Steady)
      (tableWriter .remembering key rows (Node.writers left options rows)
        (Node.cellWriters left options rows) leftAround)
      (tableWriter .measuring key rows (Node.writers (tableWriter .measuring) options rows)
        (Node.cellWriters (tableWriter .measuring) options rows) rightAround) := by
  rw [Node.tableKeys_table] at once free
  obtain ⟨other, innerOnce⟩ := List.nodup_cons.mp once
  cases made : TableLayout.ofRows rows with
  | error failure =>
    simp only [tableWriter, made, settle]
    exact .throw failure
  | ok layout =>
    rw [TableLayout.turns_table made] at starts ⊢
    rw [steady_table_of_ofRows made] at steady ⊢
    let visit : Visit := {
      level, numbers, about, known, key
      inner := rows.flatMap Node.tableKeys
      own := (insideTable .measuring (tableWriter .measuring) options key rows layout).width
      nested := layout.measureTurns }
    have found : ∀ level' numbers' widths, At level numbers about known level' numbers' widths →
        visit.After [] level' numbers' widths := by
      rintro _ _ widths ⟨atLevel, atNumbers, isAbout, isKnown⟩
      exact ⟨atLevel, atNumbers, isAbout, isKnown, fun some => absurd rfl some⟩
    suffices all : AgreeMoments mayFail left (tableWriter .measuring) options
        (insideTable .remembering left options key rows layout)
        (insideTable .measuring (tableWriter .measuring) options key rows layout) (visit.After [])
        ((visit.After ([] ++ layout.ownMoments.flatMap (layout.ownTurns key))).knowing
          (layout.steadyFrom key none layout.ownMoments = true ∧
            ∀ cell, .cell cell ∈ layout.ownMoments → cell.Steady)) layout.ownMoments by
      refine (AgreeMoments.table made all leftAround rightAround).weaken found ?_
      rintro _ _ widths ⟨⟨atLevel, atNumbers, isAbout, isKnown, -⟩, isSteady⟩
      exact ⟨⟨atLevel, atNumbers, isAbout, isKnown⟩, isSteady⟩
    by_cases columns : layout.columnCount = 0
    · have none : layout.ownMoments = [] := by rw [layout.ownMoments_eq, if_pos columns]
      rw [none]
      exact .nil fun _ _ _ meets => ⟨meets, rfl, fun cell none => absurd none List.not_mem_nil⟩
    have sound : visit.Sound := {
      other, free
      inside := Node.measureTurns_subset made
      repeats := fun column => Agree.standing fun about =>
        agree_measuredWidth made columns innerOnce again (fun _ _ _ _ => trivial) column }
    obtain ⟨leftInner, leftAsks⟩ := width_insideTable .remembering left options key made
    have question : ∀ column (turns : List Nat), (turns = [] → visit.about ≠ some visit.key) →
        AgreeOr mayFail (visit.After turns)
          (visit.After (turns ++ layout.ownTurns visit.key (.question column)))
          ((insideTable .remembering left options key rows layout).width column)
          ((insideTable .measuring (tableWriter .measuring) options key rows layout).width column) := by
      intro column turns starts
      rw [leftAsks]
      exact sound.question (fun _ free => agree_rememberedMeasure made columns once cells
        (steady.imp_right And.right) free column _) starts
    exact Visit.moments question
      (fun cell isMoment turns fits => sound.cell (cells layout made cell isMoment)
        (Node.tableKeys_subset_of_moment made isMoment) fits _ _)
      (fun _ isMoment => isMoment) [] steady starts

end OutlineWiki.Markup
