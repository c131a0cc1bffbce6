import OutlineWiki.Proofs.MemoryTurns
import OutlineWiki.Proofs.TablePlaces

/-!
# Nodes that keep to their turns

Two renderings of a node keep to its turns when they agree, leave the memory of widths about the table
that asked last, and leave alone what is known of a memory about any table outside the node. A whole
tree keeps to its turns when its tables do, each at its place.
-/

namespace OutlineWiki

open Markup

namespace Node

/-- Turns start over when the memory is not about the first of them. -/
theorem startsOver_iff {about : Option Nat} {turns : List Nat} :
    startsOver about turns = true ↔ ∀ first, turns.head? = some first → about ≠ some first := by
  rw [startsOver]
  cases turns with
  | nil => simp
  | cons first rest => simp

/-- A memory that is about no table starts over with any turns. -/
@[simp] theorem startsOver_none (turns : List Nat) : startsOver none turns = true := by
  rw [startsOver_iff]
  exact fun first _ => (Option.some_ne_none first).symm

/-- What starts over does so in its first part. -/
theorem startsOver_left {about : Option Nat} {turns more : List Nat}
    (starts : startsOver about (turns ++ more) = true) : startsOver about turns = true := by
  cases turns with
  | nil => rfl
  | cons first rest => exact starts

/-- Turns start over when those before them do and they do so after those, if no table turns up in both. -/
theorem startsOver_append {about : Option Nat} {turns more keys moreKeys : List Nat}
    (once : (keys ++ moreKeys).Nodup) (inside : turns ⊆ keys) (moreInside : more ⊆ moreKeys) :
    startsOver about (turns ++ more) = true ↔
      startsOver about turns = true ∧ startsOver (turns.getLast?.or about) more = true := by
  cases turns with
  | nil => exact ⟨fun starts => ⟨rfl, starts⟩, And.right⟩
  | cons first rest =>
    refine ⟨fun starts => ⟨starts, ?_⟩, And.left⟩
    obtain ⟨-, -, apart⟩ := List.nodup_append.mp once
    rw [startsOver_iff]
    intro key isFirst same
    rw [List.getLast?_eq_some_getLast (List.cons_ne_nil first rest), Option.some_or] at same
    obtain rfl := Option.some.inj same
    exact apart _ (inside (List.getLast_mem _)) _ (moreInside (List.mem_of_head? isFirst)) rfl

end Node

namespace Markup

/-- A list level, numbers of open lists, the table that the memory is about, and what is known of it. -/
def At (level : Nat) (numbers : List Json) (about : Option Nat) (known : WidthCache → Prop) : Condition :=
  fun level' numbers' widths =>
    level' = level ∧ numbers' = numbers ∧ widths.table = about ∧ known widths

/-- What is known says nothing about a memory that is about one of the given tables. -/
def Free (keys : List Nat) (known : WidthCache → Prop) : Prop :=
  ∀ key ∈ keys, ∀ cache : WidthCache, cache.table = some key → known cache

/-- What says nothing about some tables says nothing about a part of them. -/
theorem Free.mono {keys fewer : List Nat} {known : WidthCache → Prop} (free : Free keys known)
    (within : fewer ⊆ keys) : Free fewer known :=
  fun key inside => free key (within inside)

/-- What is foretold of nodes: the turns of each, and a fact that the writing of each relies on. Both go
by the children of a node that is no table. -/
structure Forecast where
  turns : Node → List Nat
  steady : Node → Prop
  inside : ∀ node, turns node ⊆ node.tableKeys
  turns_children : ∀ node : Node, node.tableKey? = none → turns node = node.children.flatMap turns
  steady_children : ∀ node : Node, node.tableKey? = none →
    (steady node ↔ ∀ child ∈ node.children, steady child)

namespace Forecast

variable (forecast : Forecast) {about : Option Nat}

/-- What is foretold of a node fits a memory that is about a table. -/
def Fits (about : Option Nat) (node : Node) : Prop :=
  Node.startsOver about (forecast.turns node) = true ∧ forecast.steady node

/-- What is foretold of nodes side by side fits a memory that is about a table. -/
def FitsAll (about : Option Nat) (nodes : List Node) : Prop :=
  Node.startsOver about (nodes.flatMap forecast.turns) = true ∧ ∀ node ∈ nodes, forecast.steady node

/-- Turns of several nodes name tables inside them. -/
theorem insideAll (nodes : List Node) : nodes.flatMap forecast.turns ⊆ nodes.flatMap Node.tableKeys := by
  intro key isTurn
  obtain ⟨node, inside, inNode⟩ := List.mem_flatMap.mp isTurn
  exact List.mem_flatMap.mpr ⟨node, inside, forecast.inside node inNode⟩

/-- Nothing is foretold of no nodes. -/
theorem fitsAll_nil : forecast.FitsAll about [] :=
  ⟨rfl, fun _ none => absurd none List.not_mem_nil⟩

/-- A node that is no table fits when its children do. -/
theorem fits_iff_children {node : Node} (noTable : node.tableKey? = none) :
    forecast.Fits about node ↔ forecast.FitsAll about node.children := by
  rw [Fits, FitsAll, forecast.turns_children node noTable, forecast.steady_children node noTable]

/-- A node and what stands after it fit when the node does and the rest fits what the node leaves, if no
table stands in both. -/
theorem fitsAll_cons {node : Node} {rest : List Node}
    (once : ((node :: rest).flatMap Node.tableKeys).Nodup) :
    forecast.FitsAll about (node :: rest) ↔
      forecast.Fits about node ∧ forecast.FitsAll ((forecast.turns node).getLast?.or about) rest := by
  rw [List.flatMap_cons] at once
  simp only [Fits, FitsAll, List.flatMap_cons, List.forall_mem_cons,
    Node.startsOver_append once (forecast.inside node) (forecast.insideAll rest)]
  exact and_and_and_comm

/-- The turns of the memory of widths, in a tree whose visited tables are all steady. -/
def ofTurns : Forecast where
  turns := Node.turns
  steady := Node.Steady
  inside := Node.turns_subset
  turns_children := fun _ noTable => Node.turns_of_children noTable
  steady_children := fun _ noTable => Node.steady_iff_children noTable

/-- No turns at all. -/
def nothing : Forecast where
  turns := fun _ => []
  steady := fun _ => True
  inside := fun _ => List.nil_subset _
  turns_children := fun _ _ => (List.flatMap_eq_nil_iff.mpr fun _ _ => rfl).symm
  steady_children := fun _ _ => ⟨fun _ _ _ => trivial, fun _ => trivial⟩

/-- No turns fit every memory. -/
theorem nothing_fitsAll (nodes : List Node) : nothing.FitsAll about nodes := by
  have none : nodes.flatMap nothing.turns = [] := List.flatMap_eq_nil_iff.mpr fun _ _ => rfl
  rw [FitsAll, none]
  exact ⟨rfl, fun _ _ => trivial⟩

end Forecast

variable {mayFail : Prop} {left right : TableForm} {options : Options} {forecast : Forecast} {level : Nat}
  {numbers : List Json}

/-- Two renderings of a node keep to its turns at a list level, with numbers of open lists of which the
innermost is taken. An item may still have to take it. What is foretold of the node fits the memory, or
else the first rendering may fail. -/
def KeepsTurns (mayFail : Prop) (left right : TableForm) (options : Options) (forecast : Forecast)
    (level : Nat) (numbers : List Json) (node : Node) : Prop :=
  ∀ started about known, (started = numbers ∨ node.isItem = true ∧ numbersAfterItem started = numbers) →
    Free node.tableKeys known → mayFail ∨ forecast.Fits about node →
      ∀ leftAround rightAround,
        AgreeOr mayFail (At level started about known)
          ((At level numbers ((forecast.turns node).getLast?.or about) known).knowing
            (forecast.Fits about node))
          (node.writer left options leftAround) (node.writer right options rightAround)

/-- A node and what stands after it keep to their turns when both do and no table stands in both. The
first node may be an item that still has to take the number. -/
theorem KeepsTurns.cons {node : Node} {rest : List Node}
    (keeps : KeepsTurns mayFail left right options forecast level numbers node) {started : List Json}
    {about : Option Nat} {known : WidthCache → Prop} (leftAround rightAround : Option Surroundings)
    (begins : started = numbers ∨ node.isItem = true ∧ numbersAfterItem started = numbers)
    (once : ((node :: rest).flatMap Node.tableKeys).Nodup)
    (free : Free ((node :: rest).flatMap Node.tableKeys) known)
    (fits : mayFail ∨ forecast.FitsAll about (node :: rest))
    (others : ∀ about, mayFail ∨ forecast.FitsAll about rest →
      AgreeAllOr mayFail leftAround rightAround (At level numbers about known)
        ((At level numbers ((rest.flatMap forecast.turns).getLast?.or about) known).knowing
          (forecast.FitsAll about rest))
        (Node.writers left options rest) (Node.writers right options rest)) :
    AgreeAllOr mayFail leftAround rightAround (At level started about known)
      ((At level numbers (((node :: rest).flatMap forecast.turns).getLast?.or about) known).knowing
        (forecast.FitsAll about (node :: rest)))
      (Node.writers left options (node :: rest)) (Node.writers right options (node :: rest)) := by
  rw [forecast.fitsAll_cons once] at fits ⊢
  have first := keeps started about known begins (free.mono (List.subset_append_left _ _))
    (fits.imp_right And.left) leftAround rightAround
  have later := others _ (fits.imp_right And.right)
  simp only [Node.writers]
  refine .cons first ((later.keeping (forecast.Fits about node)).weaken (fun _ _ _ meets => meets) ?_)
  rintro _ _ widths ⟨⟨⟨atLevel, atNumbers, isAbout, isKnown⟩, restFits⟩, firstFits⟩
  refine ⟨⟨atLevel, atNumbers, ?_, isKnown⟩, firstFits, restFits⟩
  rw [List.flatMap_cons, List.getLast?_append, Option.or_assoc]
  exact isAbout

/-- Nodes side by side keep to their turns together when each does and no table stands in two. -/
theorem agreeAll_keepsTurns {nodes : List Node}
    (each : ∀ node ∈ nodes, KeepsTurns mayFail left right options forecast level numbers node)
    (once : (nodes.flatMap Node.tableKeys).Nodup) {about : Option Nat} {known : WidthCache → Prop}
    (free : Free (nodes.flatMap Node.tableKeys) known) (fits : mayFail ∨ forecast.FitsAll about nodes)
    (leftAround rightAround : Option Surroundings) :
    AgreeAllOr mayFail leftAround rightAround (At level numbers about known)
      ((At level numbers ((nodes.flatMap forecast.turns).getLast?.or about) known).knowing
        (forecast.FitsAll about nodes))
      (Node.writers left options nodes) (Node.writers right options nodes) := by
  induction nodes generalizing about with
  | nil =>
    simp only [Node.writers]
    exact .nil fun _ _ _ meets => ⟨meets, forecast.fitsAll_nil⟩
  | cons node rest inductionHypothesis =>
    have laterOnce : (rest.flatMap Node.tableKeys).Nodup := (List.nodup_append.mp once).2.1
    have laterFree : Free (rest.flatMap Node.tableKeys) known := free.mono (List.subset_append_right _ _)
    refine (each node List.mem_cons_self).cons leftAround rightAround (.inl rfl) once free fits
      fun about fits => ?_
    exact inductionHypothesis (fun other inside => each other (List.mem_cons_of_mem node inside))
      laterOnce laterFree fits

/-- Nodes that keep to their turns can be written on their own, as captured text. -/
theorem KeepsTurns.capture {node : Node}
    (keeps : KeepsTurns mayFail left right options forecast level numbers node) {about : Option Nat}
    {known : WidthCache → Prop} (free : Free node.tableKeys known)
    (fits : mayFail ∨ forecast.Fits about node) (leftAround rightAround : Option Surroundings) :
    AgreeOr mayFail (At level numbers about known)
      ((At level numbers ((forecast.turns node).getLast?.or about) known).knowing
        (forecast.Fits about node))
      (Markup.capture [node.writer left options] leftAround)
      (Markup.capture [node.writer right options] rightAround) :=
  (AgreeAllOr.single (keeps numbers about known (.inl rfl) free fits leftAround rightAround)).capture

/-! ## Trees -/

variable {about : Option Nat} {known : WidthCache → Prop} {leftAround rightAround : Option Surroundings}

/-- A list keeps to the turns of its items: the first item takes the number that the list starts with,
and the others are written after that. -/
theorem agree_list_keepsTurns {ordered start : Json} {items : List Node}
    (areItems : ∀ item ∈ items, item.isItem = true)
    (each : ∀ item ∈ items, KeepsTurns mayFail left right options forecast (level + 1)
      (numbersAfterItem ((if ordered.isTruthy then start else .null) :: numbers)) item)
    (once : (items.flatMap Node.tableKeys).Nodup) (free : Free (items.flatMap Node.tableKeys) known)
    (fits : mayFail ∨ forecast.FitsAll about items) :
    AgreeOr mayFail (At level numbers about known)
      ((At level numbers ((items.flatMap forecast.turns).getLast?.or about) known).knowing
        (forecast.FitsAll about items))
      (listWriter ordered start (Node.writers left options items) leftAround)
      (listWriter ordered start (Node.writers right options items) rightAround) := by
  have enter : ∀ level' numbers' widths, At level numbers about known level' numbers' widths →
      At (level + 1) ((if ordered.isTruthy then start else .null) :: numbers) about known (level' + 1)
        ((if ordered.isTruthy then start else .null) :: numbers') widths := by
    rintro _ _ widths ⟨rfl, rfl, isAbout, isKnown⟩
    exact ⟨rfl, rfl, isAbout, isKnown⟩
  cases items with
  | nil =>
    simp only [Node.writers]
    refine agree_listWriter enter (.nil fun _ _ _ meets => meets) ?_
    rintro _ _ widths ⟨rfl, rfl, isAbout, isKnown⟩
    exact ⟨⟨rfl, rfl, isAbout, isKnown⟩, forecast.fitsAll_nil⟩
  | cons item rest =>
    have laterOnce : (rest.flatMap Node.tableKeys).Nodup := (List.nodup_append.mp once).2.1
    have laterFree : Free (rest.flatMap Node.tableKeys) known := free.mono (List.subset_append_right _ _)
    have taken : item.isItem = true := areItems item List.mem_cons_self
    have all := (each item List.mem_cons_self).cons leftAround rightAround (.inr ⟨taken, rfl⟩) once
      free fits fun about fits =>
        agreeAll_keepsTurns (fun other inside => each other (List.mem_cons_of_mem item inside))
          laterOnce laterFree fits leftAround rightAround
    refine agree_listWriter enter all ?_
    rintro _ _ widths ⟨⟨rfl, rfl, isAbout, isKnown⟩, itemsFit⟩
    exact ⟨⟨rfl, drop_numbersAfterItem _ _, isAbout, isKnown⟩, itemsFit⟩

/-- An item keeps to the turns of its children, also where it writes the content of a paragraph. -/
theorem agree_item_keepsTurns {attributes : Attributes}
    {children : List Node} {started : List Json} (takes : numbersAfterItem started = numbers)
    (each : ∀ child ∈ children, KeepsTurns mayFail left right options forecast level numbers child)
    (leading : ∀ attributes content, Node.paragraph attributes content ∈ children →
      ∀ inner ∈ content, KeepsTurns mayFail left right options forecast level numbers inner)
    (once : (children.flatMap Node.tableKeys).Nodup) (free : Free (children.flatMap Node.tableKeys) known)
    (fits : mayFail ∨ forecast.FitsAll about children) :
    AgreeOr mayFail (At level started about known)
      ((At level numbers ((children.flatMap forecast.turns).getLast?.or about) known).knowing
        (forecast.FitsAll about children))
      ((Node.listItem attributes children).writer left options leftAround)
      ((Node.listItem attributes children).writer right options rightAround) := by
  have taken : ∀ level' numbers' widths, At level started about known level' numbers' widths →
      At level numbers about known level' (numbersAfterItem numbers') widths := by
    rintro _ _ widths ⟨rfl, rfl, isAbout, isKnown⟩
    exact ⟨rfl, takes, isAbout, isKnown⟩
  have whole : AgreeOr mayFail (At level started about known)
      ((At level numbers ((children.flatMap forecast.turns).getLast?.or about) known).knowing
        (forecast.FitsAll about children))
      (itemWriter options [] (Node.itemWriters left options children) leftAround)
      (itemWriter options [] (Node.itemWriters right options children) rightAround) :=
    agree_itemWriter taken (.nil fun _ _ _ meets => meets)
      (agreeAll_itemWriters (agreeAll_keepsTurns each once free fits leftAround rightAround))
  cases children with
  | nil => simpa only [Node.writer] using whole
  | cons first others =>
    cases first with
    | paragraph paragraphAttributes content =>
      have ofContent : forecast.turns (.paragraph paragraphAttributes content) =
          content.flatMap forecast.turns := forecast.turns_children _ rfl
      have fitsContent : ∀ about, forecast.Fits about (.paragraph paragraphAttributes content) ↔
          forecast.FitsAll about content := fun _ => forecast.fits_iff_children rfl
      have keysOfContent : (Node.paragraph paragraphAttributes content).tableKeys =
          content.flatMap Node.tableKeys := Node.tableKeys_eq _
      rw [forecast.fitsAll_cons once, fitsContent, ofContent] at fits ⊢
      simp only [List.flatMap_cons, keysOfContent] at once free
      obtain ⟨contentOnce, othersOnce, -⟩ := List.nodup_append.mp once
      have text := agreeAll_keepsTurns (leading _ _ List.mem_cons_self) contentOnce
        (free.mono (List.subset_append_left _ _)) (fits.imp_right And.left) leftAround rightAround
      have rest := agreeAll_keepsTurns (fun child inside => each child (List.mem_cons_of_mem _ inside))
        othersOnce (free.mono (List.subset_append_right _ _)) (fits.imp_right And.right) leftAround rightAround
      simp only [Node.writer]
      refine agree_itemWriter taken text (agreeAll_itemWriters ((rest.keeping
        (forecast.FitsAll about content)).weaken (fun _ _ _ meets => meets) ?_))
      rintro _ _ widths ⟨⟨⟨atLevel, atNumbers, isAbout, isKnown⟩, othersFit⟩, contentFits⟩
      refine ⟨⟨atLevel, atNumbers, ?_, isKnown⟩, contentFits, othersFit⟩
      rw [List.flatMap_cons, ofContent, List.getLast?_append, Option.or_assoc]
      exact isAbout
    | _ => simpa only [Node.writer] using whole

/-- The cells that are written at the moments of a table keep to their turns. -/
def CellsKeepTurns (mayFail : Prop) (left right : TableForm) (options : Options) (forecast : Forecast)
    (level : Nat) (numbers : List Json) (rows : List Node) : Prop :=
  ∀ layout, TableLayout.ofRows rows = .ok layout → ∀ cell, .cell cell ∈ layout.ownMoments →
    KeepsTurns mayFail left right options forecast level numbers cell

/-- The cells of a column keep to their turns together. -/
theorem CellsKeepTurns.column {rows : List Node} {layout : TableLayout}
    (cells : CellsKeepTurns mayFail left right options forecast level numbers rows)
    (made : TableLayout.ofRows rows = .ok layout) (columns : layout.columnCount ≠ 0)
    (once : (rows.flatMap Node.tableKeys).Nodup) (free : Free (rows.flatMap Node.tableKeys) known)
    {column : Nat} (fits : mayFail ∨ forecast.FitsAll about (layout.columnCells column))
    (leftAround rightAround : Option Surroundings) :
    AgreeAllOr mayFail leftAround rightAround (At level numbers about known)
      ((At level numbers (((layout.columnCells column).flatMap forecast.turns).getLast?.or about)
        known).knowing (forecast.FitsAll about (layout.columnCells column)))
      (Node.writers left options (layout.columnCells column))
      (Node.writers right options (layout.columnCells column)) := by
  have inRows := TableLayout.column_sublist made column
  refine agreeAll_keepsTurns (fun cell inside => ?_) (once.sublist inRows) (free.mono inRows.subset) fits
    leftAround rightAround
  obtain ⟨row, isRow, isCell⟩ := TableLayout.mem_cells_of_mem_column inside
  exact cells layout made cell (layout.mem_ownMoments columns isRow isCell)

/-- A tree keeps to its turns when its tables do, each at its place and given that its cells do. -/
theorem keepsTurns_of_tables {node : Node} (settled : numbersAfterItem numbers = numbers)
    (noRow : node.rowKey? = none) (holds : node.Everywhere (·.holdsItsKinds = true))
    (once : node.tableKeys.Nodup)
    (tables : ∀ attributes, ∀ place ∈ node.places level numbers,
      Node.Within (.table attributes place.key place.rows) node →
        numbersAfterItem place.numbers = place.numbers →
          CellsKeepTurns mayFail left right options forecast place.level place.numbers place.rows →
            KeepsTurns mayFail left right options forecast place.level place.numbers
              (.table attributes place.key place.rows)) :
    KeepsTurns mayFail left right options forecast level numbers node := by
  induction node using Node.inductionInside generalizing level numbers with
  | step node inductionHypothesis =>
    obtain ⟨own, inside⟩ := Node.everywhere_iff.mp holds
    have below : ∀ child ∈ node.children, ∀ inner, Node.Within inner child → inner.rowKey? = none →
        ∀ level' numbers', numbersAfterItem numbers' = numbers' →
          inner.places level' numbers' ⊆ node.places level numbers →
            KeepsTurns mayFail left right options forecast level' numbers' inner := by
      intro child isChild inner within noRow level' numbers' settled placed
      have inNode : Node.Within inner node := within.trans (.child isChild (.self child))
      refine inductionHypothesis child isChild inner within settled noRow ?_ ?_ ?_
      · exact fun deep withinInner => holds deep (withinInner.trans inNode)
      · exact once.sublist (Node.tableKeys_sublist inNode)
      · intro attributes place isPlace withinInner
        exact tables attributes place (placed isPlace) (withinInner.trans inNode)
    cases isTable : node.tableKey? with
    | some =>
      cases node with
      | table attributes key rows =>
        refine tables attributes { key, rows, level, numbers } List.mem_cons_self (.self _) settled ?_
        intro layout made cell isMoment
        obtain ⟨row, isExported, isExportedCell⟩ := layout.mem_of_mem_ownMoments isMoment
        obtain ⟨isRow, isCell⟩ := TableLayout.mem_rows_of_mem_cells made isExported isExportedCell
        cases row with
        | tableRow rowAttributes rowKey cells =>
          have rowHolds := (inside _ isRow) _ (.self _)
          have inRow := Node.places_child (.tableRow rowAttributes rowKey cells) isCell level numbers
          have inTable := Node.places_child (.table attributes key rows) isRow level numbers
          exact below _ isRow cell (.child isCell (.self cell))
            (Node.rowKey?_of_holdsItsKinds rowHolds rfl isCell) level numbers settled
            (List.Subset.trans inRow inTable)
        | _ => cases isCell
      | _ => cases isTable
    | none =>
      have noRows : ∀ child ∈ node.children, child.rowKey? = none := fun child isChild =>
        Node.rowKey?_of_holdsItsKinds own isTable isChild
      have each : ∀ child ∈ node.children, KeepsTurns mayFail left right options forecast
          (node.levelInside level) (node.numbersInside numbers) child := fun child isChild =>
        below child isChild child (.self child) (noRows child isChild) _ _
          (Node.numbersInside_settled settled node) (Node.places_child node isChild level numbers)
      rw [Node.tableKeys_eq, isTable, Option.toList_none, List.nil_append] at once
      intro started about known begins free fits leftAround rightAround
      rw [Node.tableKeys_eq, isTable, Option.toList_none, List.nil_append] at free
      rw [forecast.fits_iff_children isTable] at fits ⊢
      rw [forecast.turns_children node isTable]
      cases node with
      | table => cases isTable
      | tableRow => cases noRow
      | ruleRow => cases noRow
      | list attributes ordered start items =>
        obtain rfl : started = numbers := by simpa [Node.isItem] using begins
        simp only [Node.writer]
        exact agree_list_keepsTurns (fun item isItem => List.all_eq_true.mp own item isItem) each once free
          fits
      | listItem attributes children =>
        have takes : numbersAfterItem started = numbers := by
          rcases begins with rfl | ⟨-, takes⟩
          · exact settled
          · exact takes
        refine agree_item_keepsTurns takes each ?_ once free fits
        intro paragraphAttributes content isChild inner isInner
        have paragraphHolds := inside _ isChild _ (.self _)
        have inParagraph := Node.places_child (.paragraph paragraphAttributes content) isInner level numbers
        have inItem := Node.places_child (.listItem attributes children) isChild level numbers
        exact below _ isChild inner (.child isInner (.self inner))
          (Node.rowKey?_of_holdsItsKinds paragraphHolds rfl isInner) level numbers settled
          (List.Subset.trans inParagraph inItem)
      | _ =>
        obtain rfl : started = numbers := by simpa [Node.isItem] using begins
        exact agree_writer_of_children trivial
          (agreeAll_keepsTurns each once free fits leftAround rightAround)

end Markup

end OutlineWiki
