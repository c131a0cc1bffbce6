import OutlineWiki.Proofs.ColumnAlignment

/-!
# Ways to write lists

A rendering whose lists are written in a given way, which is told how many lists a list is inside of, itself
included. With lists written as they are it is the rendering itself, so what holds of the one for every way
to write lists shows what the lists of the other write.
-/

namespace OutlineWiki

namespace Markup

/-- A way to write a list, given how many lists there are down to it, whether it is ordered, its start, and
the writers of its items. -/
abbrev ListForm := Nat → Json → Json → List Writer → Writer

/-- Lists as they are. -/
def ListForm.plain : ListForm := fun _ => listWriter

/-- The state in which the items of a list are visited. -/
def State.entering (state : State) (ordered start : Json) : State :=
  { state with
    listLevel := state.listLevel + 1
    numbers := (if ordered.isTruthy then start else .null) :: state.numbers }

/-- The state after a list, from the one after its items. -/
def State.leaving (state : State) : State :=
  { state with listLevel := state.listLevel - 1, numbers := state.numbers.drop 1 }

/-- A step taken inside a list. -/
def inList {Value : Type} (ordered start : Json) (step : Render Value) : Render Value := do
  modifyThe State (·.entering ordered start)
  let value ← step
  modifyThe State State.leaving
  return value

/-- A list is written by its items one after the other, inside the list. -/
theorem listWriter_eq_inList (ordered start : Json) (items : List Writer) (around : Option Surroundings) :
    listWriter ordered start items around = inList ordered start (inSequence items around) :=
  rfl

/-- A step inside a list starts from the state inside, and what it leaves is left. -/
theorem run_inList {Value : Type} (ordered start : Json) (step : Render Value) (state : State) :
    (inList ordered start step).run state =
      match step.run (state.entering ordered start) with
      | .ok value after => .ok value after.leaving
      | .error failure after => .error failure after := by
  have entered : (inList ordered start step).run state =
      (step >>= fun value => modifyThe State State.leaving >>= fun _ => pure value).run
        (state.entering ordered start) := rfl
  rw [entered, EStateM.run_bind]
  cases step.run (state.entering ordered start) <;> rfl

/-- A step inside a list comes to a value when it does from the state inside. -/
theorem run_inList_eq_ok {Value : Type} {ordered start : Json} {step : Render Value} {state after : State}
    {value : Value} :
    (inList ordered start step).run state = .ok value after ↔
      ∃ last, step.run (state.entering ordered start) = .ok value last ∧ after = last.leaving := by
  rw [run_inList]
  cases step.run (state.entering ordered start) with
  | ok given last =>
    constructor
    · intro same
      obtain ⟨rfl, rfl⟩ := EStateM.Result.ok.inj same
      exact ⟨last, rfl, rfl⟩
    · rintro ⟨_, same, rfl⟩
      obtain ⟨rfl, rfl⟩ := EStateM.Result.ok.inj same
      rfl
  | error failure last => simp

/-- The pieces of each of several writers, visited one after the other. -/
def visitEach : List Writer → Option Surroundings → Render (List (List Json))
  | [], _ => return []
  | first :: rest, around => do
    let pieces ← first around
    let others ← visitEach rest around
    return pieces :: others

/-- Writers in sequence write the pieces of each. -/
theorem inSequence_eq_visitEach (writers : List Writer) (around : Option Surroundings) :
    inSequence writers around = List.flatten <$> visitEach writers around := by
  induction writers with
  | nil => simp [inSequence, visitEach]
  | cons first rest inductionHypothesis => simp [inSequence, visitEach, inductionHypothesis]

end Markup

open Markup

namespace Node

mutual

/-- The writer of a node with so many lists around it, its lists written in a given way. -/
def listedWriter (form : ListForm) (options : Options) (depth : Nat) : Node → Writer
  | .document _ children => documentWriter (listedWriters form options depth children)
  | .heading _ level content => headingWriter level (listedWriters form options depth content)
  | .paragraph _ content => paragraphWriter options (listedWriters form options depth content)
  | .codeBlock _ content language => codeBlockWriter options content language
  | .blockQuote _ children => blockQuoteWriter (listedWriters form options depth children)
  | .list _ ordered start items => form (depth + 1) ordered start (listedWriters form options (depth + 1) items)
  | .listItem _ (.paragraph _ content :: others) =>
    itemWriter options (listedWriters form options depth content) (listedItemWriters form options depth others)
  | .listItem _ children => itemWriter options [] (listedItemWriters form options depth children)
  | .table _ key rows =>
    tableWriter .remembering key rows (listedWriters form options depth rows)
      (listedCellWriters form options depth rows)
  | .tableRow _ _ cells => rowWriter (listedWriters form options depth cells)
  | .ruleRow attributes key => ruleWriter (.ruleRow attributes key)
  | .tableCell _ content => cellWriter (listedWriters form options depth content)
  | .thematicBreak _ => .ofStrings [thematicBreakText]
  | .text _ content => fun _ => return [content]
  | .styled _ style content => styledWriter style (listedWriters form options depth content)
  | .code _ content => .ofStrings [codeText content]
  | .link _ url content => linkWriter url (listedWriters form options depth content)
  | .image _ url _ => .ofStrings [imageText url]
  | .lineBreak _ soft => .ofStrings [lineBreakText soft]

/-- The writers of nodes with so many lists around them. -/
def listedWriters (form : ListForm) (options : Options) (depth : Nat) : List Node → List Writer
  | [] => []
  | node :: rest => listedWriter form options depth node :: listedWriters form options depth rest

/-- The writers of an item's children: lists as they are, all others as blocks on lines. -/
def listedItemWriters (form : ListForm) (options : Options) (depth : Nat) : List Node → List Writer
  | [] => []
  | .list attributes ordered start items :: rest =>
    listedWriter form options depth (.list attributes ordered start items) ::
      listedItemWriters form options depth rest
  | node :: rest =>
    lineWriter (listedWriter form options depth node) :: listedItemWriters form options depth rest

/-- The writers of the cells of each row. -/
def listedCellWriters (form : ListForm) (options : Options) (depth : Nat) : List Node → List (List Writer)
  | [] => []
  | .tableRow _ _ cells :: rest =>
    listedWriters form options depth cells :: listedCellWriters form options depth rest
  | _ :: rest => [] :: listedCellWriters form options depth rest

end

variable {form : ListForm} {options : Options} {depth : Nat}

/-- The writers of nodes, one for each. -/
theorem listedWriters_eq_map (nodes : List Node) :
    listedWriters form options depth nodes = nodes.map (listedWriter form options depth) := by
  induction nodes with
  | nil => simp only [listedWriters, List.map_nil]
  | cons node rest inductionHypothesis => simp only [listedWriters, inductionHypothesis, List.map_cons]

/-- The writer of a child of an item: a list as it is, any other node as a block on lines. -/
def asItemChild (form : ListForm) (options : Options) (depth : Nat) (node : Node) : Writer :=
  match node with
  | .list .. => node.listedWriter form options depth
  | _ => lineWriter (node.listedWriter form options depth)

/-- The writers of an item's children, one for each. -/
theorem listedItemWriters_eq_map (nodes : List Node) :
    listedItemWriters form options depth nodes = nodes.map (asItemChild form options depth) := by
  induction nodes with
  | nil => simp only [listedItemWriters, List.map_nil]
  | cons node rest inductionHypothesis =>
    cases node <;> simp only [listedItemWriters, asItemChild, List.map_cons, inductionHypothesis]

/-- The nodes whose text stands in the first line of an item: the content of a leading paragraph. -/
def leadingContent : List Node → List Node
  | .paragraph _ content :: _ => content
  | _ => []

/-- The children of an item after its first line. -/
def otherChildren : List Node → List Node
  | .paragraph _ _ :: others => others
  | children => children

/-- An item is written from the content of its first line and its other children. -/
theorem listedWriter_item (attributes : Attributes) (children : List Node) :
    (Node.listItem attributes children).listedWriter form options depth =
      itemWriter options ((leadingContent children).map (listedWriter form options depth))
        ((otherChildren children).map (asItemChild form options depth)) := by
  cases children with
  | nil => simp only [listedWriter, listedItemWriters, leadingContent, otherChildren, List.map_nil]
  | cons first others =>
    cases first <;> simp only [listedWriter, listedWriters_eq_map, listedItemWriters_eq_map, leadingContent,
      otherChildren, List.map_nil]

/-- The content of an item's first line stands in a child of the item. -/
theorem mem_leadingContent {children : List Node} {inner : Node} (isLeading : inner ∈ leadingContent children) :
    ∃ child ∈ children, child.rowKey? = none ∧ child.tableKey? = none ∧ inner ∈ child.children := by
  cases children with
  | nil => cases isLeading
  | cons first others =>
    cases first with
    | paragraph => exact ⟨_, List.mem_cons_self, rfl, rfl, isLeading⟩
    | _ => cases isLeading

/-- The other children of an item are its children. -/
theorem mem_of_mem_otherChildren {children : List Node} {child : Node} (isOther : child ∈ otherChildren children) :
    child ∈ children := by
  cases children with
  | nil => exact isOther
  | cons first others =>
    cases first with
    | paragraph => exact List.mem_cons_of_mem _ isOther
    | _ => exact isOther

/-- The writers of the cells of each row. -/
theorem listedCellWriters_eq_map (rows : List Node) :
    listedCellWriters form options depth rows =
      (rows.map (columnCells false)).map (·.map (listedWriter form options depth)) := by
  induction rows with
  | nil => simp only [listedCellWriters, List.map_nil]
  | cons row rest inductionHypothesis =>
    cases row <;>
      simp [listedCellWriters, columnCells, listedWriters_eq_map, inductionHypothesis]

/-- With lists written as they are, a node is written as it is. -/
theorem listedWriter_plain (node : Node) :
    node.listedWriter .plain options depth = node.writer (tableWriter .remembering) options := by
  induction node using inductionInside generalizing depth with
  | step node inductionHypothesis =>
    have each : ∀ (nodes : List Node) (depth : Nat),
        (∀ inner ∈ nodes, ∃ child ∈ node.children, Within inner child) →
          nodes.map (listedWriter .plain options depth) =
            nodes.map (writer (tableWriter .remembering) options) := by
      intro nodes depth below
      refine List.map_congr_left fun inner inside => ?_
      obtain ⟨child, isChild, within⟩ := below inner inside
      exact inductionHypothesis child isChild inner within
    have children : ∀ depth, node.children.map (listedWriter .plain options depth) =
        node.children.map (writer (tableWriter .remembering) options) :=
      fun depth => each node.children depth fun child isChild => ⟨child, isChild, .self child⟩
    have itemChildren : ∀ others : List Node, (∀ child ∈ others, child ∈ node.children) →
        listedItemWriters .plain options depth others =
          itemWriters (tableWriter .remembering) options others := by
      intro others inside
      rw [listedItemWriters_eq_map, itemWriters_eq_map]
      refine List.map_congr_left fun child isChild => ?_
      have same : child.listedWriter .plain options depth = child.writer (tableWriter .remembering) options :=
        inductionHypothesis child (inside child isChild) child (.self child)
      cases child <;> simp only [asItemChild, same]
    cases node with
    | list attributes ordered start items =>
      have items_same := children (depth + 1)
      simp only [Node.children] at items_same
      simp only [listedWriter, writer, listedWriters_eq_map, writers_eq_map, items_same, ListForm.plain]
    | listItem attributes nodes =>
      cases nodes with
      | nil => simp only [listedWriter, writer, listedItemWriters, itemWriters]
      | cons first others =>
        have all := itemChildren (first :: others) fun child isChild => isChild
        have rest := itemChildren others fun child isChild => List.mem_cons_of_mem first isChild
        cases first with
        | paragraph paragraphAttributes content =>
          have leading := each content depth fun inner inside =>
            ⟨_, List.mem_cons_self, .child inside (.self inner)⟩
          simp only [listedWriter, writer, listedWriters_eq_map, writers_eq_map, leading, rest]
        | _ => simp only [listedWriter, writer, all]
    | table attributes key rows =>
      have rows_same := children depth
      simp only [Node.children] at rows_same
      have cells_same : listedCellWriters .plain options depth rows =
          cellWriters (tableWriter .remembering) options rows := by
        rw [listedCellWriters_eq_map, cellWriters_eq_map, List.map_map]
        refine List.map_congr_left fun row isRow => ?_
        rw [writers_eq_map]
        refine each _ depth fun cell isCell => ⟨row, isRow, ?_⟩
        cases row with
        | tableRow => exact .child isCell (.self cell)
        | _ => cases isCell
      simp only [listedWriter, writer, listedWriters_eq_map, writers_eq_map, rows_same, cells_same]
    | _ =>
      have same := children depth
      simp only [Node.children] at same
      simp only [listedWriter, writer, listedWriters_eq_map, writers_eq_map, same]

end Node

/-- The markup of a tree whose lists are written in a given way, from a clean state. -/
def renderedThrough (form : ListForm) (options : Options) (tree : Node) : Except Failure String :=
  match (finishText <$> capture [tree.listedWriter form options 0] none).run {} with
  | .ok text _ => .ok text
  | .error failure _ => .error failure

/-- With lists written as they are, a tree is rendered as it is. -/
theorem renderedThrough_plain (options : Options) (tree : Node) :
    renderedThrough .plain options tree = render options tree := by
  rw [render_eq_renderedBy, renderedThrough, Node.listedWriter_plain]
  rfl

end OutlineWiki
