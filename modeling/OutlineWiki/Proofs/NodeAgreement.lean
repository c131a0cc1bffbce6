import OutlineWiki.Proofs.Agreement
import OutlineWiki.Proofs.Trees

/-!
# Nodes that agree

Two ways to write tables make two renderings of a tree. A node other than a table or a row is written
alike by both when its children are, and a whole tree when its tables are.
-/

namespace OutlineWiki.Markup

variable {mayFail : Prop} {left right : TableForm} {options : Options} {before between after : Condition}
  {leftAround rightAround : Option Surroundings}

/-- Lists agree when their items agree one level deeper, with one more number. -/
theorem agree_listWriter {ordered start : Json} {lefts rights : List Writer} {entered written : Condition}
    (enter : ∀ level numbers widths, before level numbers widths →
      entered (level + 1) ((if ordered.isTruthy then start else .null) :: numbers) widths)
    (items : AgreeAllOr mayFail leftAround rightAround entered written lefts rights)
    (leave : ∀ level numbers widths, written level numbers widths →
      after (level - 1) (numbers.drop 1) widths) :
    AgreeOr mayFail before after (listWriter ordered start lefts leftAround)
      (listWriter ordered start rights rightAround) := by
  unfold listWriter
  refine AgreeOr.bind ?_ fun _ => items.inSequence.bind fun pieces => AgreeOr.bind ?_ fun _ => .pure pieces
  · refine AgreeOr.modify ?_ ?_
    · intro first second alike
      exact ⟨by rw [alike.listLevel], by rw [alike.numbers]⟩
    · intro first meets
      exact enter _ _ _ meets
  · refine AgreeOr.modify ?_ ?_
    · intro first second alike
      exact ⟨by rw [alike.listLevel], by rw [alike.numbers]⟩
    · intro first meets
      exact leave _ _ _ meets

/-- The numbers of the open lists after an item took one: an innermost list with numbers goes on with
one. -/
def numbersAfterItem : List Json → List Json
  | [] => []
  | .null :: outer => .null :: outer
  | _ :: outer => .int 1 :: outer

/-- Once an item took a number, later ones change nothing. -/
@[simp] theorem numbersAfterItem_numbersAfterItem (numbers : List Json) :
    numbersAfterItem (numbersAfterItem numbers) = numbersAfterItem numbers := by
  cases numbers with
  | nil => rfl
  | cons number outer => cases number <;> rfl

/-- An item leaves the numbers of the outer lists alone. -/
@[simp] theorem drop_numbersAfterItem (number : Json) (outer : List Json) :
    (numbersAfterItem (number :: outer)).drop 1 = outer := by
  cases number <;> rfl

/-- What taking a number gives and leaves. -/
theorem run_takeNumber (state : State) :
    takeNumber.run state =
      .ok (state.numbers.headD .null) { state with numbers := numbersAfterItem state.numbers } := by
  obtain ⟨level, numbers, widths, notices⟩ := state
  cases numbers with
  | nil => rfl
  | cons number outer => cases number <;> rfl

/-- Taking a number agrees with itself. -/
theorem agree_takeNumber
    (taken : ∀ level numbers widths, before level numbers widths →
      after level (numbersAfterItem numbers) widths) :
    AgreeOr mayFail before after takeNumber takeNumber := by
  rintro ⟨level, numbers, widths, notices⟩ ⟨_, _, widths', notices'⟩ ⟨rfl, rfl⟩ meets
  rw [run_takeNumber, run_takeNumber]
  exact .inl ⟨_, _, _, rfl, rfl, ⟨rfl, rfl⟩, taken level numbers widths meets⟩

/-- An item step by step: it looks at the list level, takes its number, and writes its leading text and
then its other children. -/
theorem itemWriter_eq (leading others : List Writer) (around : Option Surroundings) :
    itemWriter options leading others around =
      ((getThe State >>= fun state => pure state.listLevel : Render Nat) >>= fun level =>
        takeNumber >>= fun number => capture leading around >>= fun text =>
          inSequence others around >>= fun pieces =>
            pure (Json.string (itemLine level number (reflow options text)) :: pieces)) := by
  simp [itemWriter]

/-- Items agree when their leading texts and then their other children do. -/
theorem agree_itemWriter {others otherRights : List Writer} {leading leadingRights : List Writer}
    {number : Condition}
    (taken : ∀ level numbers widths, before level numbers widths →
      number level (numbersAfterItem numbers) widths)
    (text : AgreeAllOr mayFail leftAround rightAround number between leading leadingRights)
    (rest : AgreeAllOr mayFail leftAround rightAround between after others otherRights) :
    AgreeOr mayFail before after (itemWriter options leading others leftAround)
      (itemWriter options leadingRights otherRights rightAround) := by
  have deep : AgreeOr mayFail before before (getThe State >>= fun state => pure state.listLevel : Render Nat)
      (getThe State >>= fun state => pure state.listLevel) := by
    intro first second alike meets
    exact .inl ⟨_, first, second, rfl, by rw [alike.listLevel]; rfl, alike, meets⟩
  rw [itemWriter_eq, itemWriter_eq]
  exact deep.bind fun level => (agree_takeNumber taken).bind fun number =>
    text.capture.bind fun text => rest.inSequence.bind fun pieces => .pure _

/-- The children of an item agree as such when they agree as nodes. -/
theorem agreeAll_itemWriters {nodes : List Node}
    (each : AgreeAllOr mayFail leftAround rightAround before after (Node.writers left options nodes)
      (Node.writers right options nodes)) :
    AgreeAllOr mayFail leftAround rightAround before after (Node.itemWriters left options nodes)
      (Node.itemWriters right options nodes) := by
  induction nodes generalizing before with
  | nil => simpa only [Node.itemWriters, Node.writers] using each
  | cons node rest inductionHypothesis =>
    simp only [Node.writers] at each
    cases each with
    | cons first others =>
      have line : AgreeAllOr mayFail leftAround rightAround _ _
          (lineWriter (node.writer left options) :: Node.itemWriters left options rest)
          (lineWriter (node.writer right options) :: Node.itemWriters right options rest) :=
        .cons (first.block.bind fun text => .pure [Json.string (text ++ "\n")]) (inductionHypothesis others)
      cases node with
      | list attributes ordered start items =>
        simp only [Node.itemWriters]
        simp only [Node.writer] at first
        exact .cons first (inductionHypothesis others)
      | _ => simpa only [Node.itemWriters] using line

/-- A kind of node that is written from what its children write, whatever the state. -/
def OnlyJoins : Node → Prop
  | .table .. | .tableRow .. | .ruleRow .. | .list .. | .listItem .. => False
  | _ => True

/-- A node that only joins what its children write agrees when they do. -/
theorem agree_writer_of_children {node : Node} (joins : OnlyJoins node)
    (children : AgreeAllOr mayFail leftAround rightAround before after
      (Node.writers left options node.children) (Node.writers right options node.children)) :
    AgreeOr mayFail before after (node.writer left options leftAround)
      (node.writer right options rightAround) := by
  have childless : node.children = [] →
      ∀ level numbers widths, before level numbers widths → after level numbers widths := by
    intro none
    rw [none, Node.writers, Node.writers] at children
    cases children with
    | nil stays => exact stays
  cases node with
  | document attributes nodes =>
    simp only [Node.writer]
    exact children.blocks.bind fun texts => .pure _
  | heading attributes level content =>
    simp only [Node.writer]
    exact children.capture.bind fun text => (AgreeOr.settle (headingMark level)).bind fun mark => .pure _
  | paragraph attributes content =>
    simp only [Node.writer]
    exact children.capture.bind fun text => .pure _
  | codeBlock attributes content language =>
    simp only [Node.writer]
    exact (AgreeOr.settle (codeBlockText options content language)).bind fun text =>
      .give _ (childless rfl)
  | blockQuote attributes nodes =>
    simp only [Node.writer]
    exact children.blocks.bind fun texts => .pure _
  | list => exact joins.elim
  | listItem => exact joins.elim
  | table => exact joins.elim
  | tableRow => exact joins.elim
  | ruleRow => exact joins.elim
  | tableCell attributes content =>
    simp only [Node.writer]
    exact children.capture.bind fun text => .pure _
  | styled attributes style content =>
    simp only [Node.writer]
    exact children.capture.bind fun text => .pure _
  | link attributes url content =>
    simp only [Node.writer]
    exact children.capture.bind fun text => .pure _
  | _ =>
    simp only [Node.writer]
    exact .give _ (childless rfl)

/-- A condition on nothing but the memory of widths. -/
def Remembered (known : WidthCache → Prop) : Condition := fun _ _ widths => known widths

/-- Nodes that agree one by one, each keeping what is known, agree one after the other. -/
theorem agreeAll_writers {condition : Condition} {nodes : List Node}
    (each : ∀ node ∈ nodes, Agree condition condition (node.writer left options leftAround)
      (node.writer right options rightAround)) :
    AgreeAll leftAround rightAround condition condition (Node.writers left options nodes)
      (Node.writers right options nodes) := by
  induction nodes with
  | nil =>
    simp only [Node.writers]
    exact .nil fun _ _ _ meets => meets
  | cons node rest inductionHypothesis =>
    simp only [Node.writers]
    exact .cons (each node List.mem_cons_self)
      (inductionHypothesis fun later inside => each later (List.mem_cons_of_mem node inside))

/-- An item agrees when its children do and, if it starts with a paragraph, the paragraph's content
does. The number it takes must not matter to what is known. -/
theorem agree_listItem {attributes : Attributes} {children : List Node} {condition : Condition}
    (taken : ∀ level numbers widths, condition level numbers widths →
      condition level (numbersAfterItem numbers) widths)
    (each : ∀ child ∈ children, Agree condition condition (child.writer left options leftAround)
      (child.writer right options rightAround))
    (leading : ∀ child ∈ children, AgreeAll leftAround rightAround condition condition
      (Node.writers left options child.children) (Node.writers right options child.children)) :
    Agree condition condition ((Node.listItem attributes children).writer left options leftAround)
      ((Node.listItem attributes children).writer right options rightAround) := by
  have whole : Agree condition condition
      (itemWriter options [] (Node.itemWriters left options children) leftAround)
      (itemWriter options [] (Node.itemWriters right options children) rightAround) :=
    agree_itemWriter taken (.nil fun _ _ _ meets => meets)
      (agreeAll_itemWriters (agreeAll_writers each))
  cases children with
  | nil => simpa only [Node.writer] using whole
  | cons first others =>
    cases first with
    | paragraph paragraphAttributes content =>
      simp only [Node.writer]
      have text := leading (.paragraph paragraphAttributes content) List.mem_cons_self
      have rest := agreeAll_writers fun child inside => each child (List.mem_cons_of_mem _ inside)
      exact agree_itemWriter taken text (agreeAll_itemWriters rest)
    | _ => simpa only [Node.writer] using whole

/-- Conditions that survive lists. An item may take its number; inside a list another one of the conditions
holds, and whatever of it is left there, the first one holds after the list. -/
structure SurviveLists {Index : Type} (condition : Index → Condition) : Prop where
  taken : ∀ index level numbers widths, condition index level numbers widths →
    condition index level (numbersAfterItem numbers) widths
  listed : ∀ index number level numbers widths, condition index level numbers widths →
    ∃ inside, condition inside (level + 1) (number :: numbers) widths ∧
      ∀ level' numbers' widths', condition inside level' numbers' widths' →
        condition index (level' - 1) (numbers'.drop 1) widths'

/-- Two renderings of a tree agree when those of its tables do, under conditions that survive lists.
Outside of every table a row fails in both. -/
theorem agree_writer_of_surviving {Index : Type} {condition : Index → Condition} {node : Node}
    (survive : SurviveLists condition)
    (tables : ∀ attributes key rows, Node.Within (.table attributes key rows) node → ∀ index,
      Agree (condition index) (condition index)
        ((Node.table attributes key rows).writer left options none)
        ((Node.table attributes key rows).writer right options none)) (index : Index) :
    Agree (condition index) (condition index) (node.writer left options none)
      (node.writer right options none) := by
  -- The content of a leading paragraph is written by the item, so children's children are carried along.
  suffices both : ∀ index, Agree (condition index) (condition index) (node.writer left options none)
      (node.writer right options none) ∧
        AgreeAll none none (condition index) (condition index)
          (Node.writers left options node.children) (Node.writers right options node.children) from
    (both index).1
  clear index
  induction node using Node.inductionChildren with
  | step node inductionHypothesis =>
    intro index
    have inside := fun child isChild => inductionHypothesis child isChild
      fun attributes key rows within => tables attributes key rows (.child isChild within)
    have children := fun index => agreeAll_writers fun child isChild => (inside child isChild index).1
    refine ⟨?_, children index⟩
    cases node with
    | table attributes key rows => exact tables attributes key rows (.self _) index
    | tableRow attributes key cells =>
      simp only [Node.writer]
      exact .throw .strayRow
    | ruleRow attributes key =>
      simp only [Node.writer]
      exact .throw .strayRow
    | list attributes ordered start items =>
      simp only [Node.writer]
      refine AgreeOr.of_states fun level numbers widths meets => ?_
      obtain ⟨inList, entered, leave⟩ := survive.listed index
        (if ordered.isTruthy then start else .null) level numbers widths meets
      refine agree_listWriter ?_ (children inList) leave
      rintro _ _ _ ⟨rfl, rfl, rfl⟩
      exact entered
    | listItem attributes nodes =>
      exact agree_listItem (survive.taken index) (fun child isChild => (inside child isChild index).1)
        fun child isChild => (inside child isChild index).2
    | _ => exact agree_writer_of_children trivial (children index)

/-- Two renderings of a tree agree when those of its tables do, if what is known is only about the
memory of widths. -/
theorem agree_writer_of_tables {known : WidthCache → Prop} {node : Node}
    (tables : ∀ attributes key rows, Node.Within (.table attributes key rows) node →
      Agree (Remembered known) (Remembered known)
        ((Node.table attributes key rows).writer left options none)
        ((Node.table attributes key rows).writer right options none)) :
    Agree (Remembered known) (Remembered known) (node.writer left options none)
      (node.writer right options none) := by
  have survive : SurviveLists fun _ : Unit => Remembered known :=
    ⟨fun _ _ _ _ meets => meets, fun _ _ _ _ _ meets => ⟨(), meets, fun _ _ _ left => left⟩⟩
  exact agree_writer_of_surviving survive
    (fun attributes key rows within _ => tables attributes key rows within) ()

end OutlineWiki.Markup
