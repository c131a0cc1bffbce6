import OutlineWiki.Proofs.Ink
import OutlineWiki.Proofs.InlineText
import OutlineWiki.Proofs.Outcomes
import OutlineWiki.Proofs.TablePlaces

/-!
# Stray rows

A row that stands outside of every table is a stray row, and it is all that can make the rendering of a
well-formed tree fail. A step is described here by when it fails and by what holds of the value it gives
otherwise, whatever was rendered before.
-/

namespace OutlineWiki

namespace Node

/-! ## Well-formed trees -/

mutual

/-- Whether a row stands in a tree with no table above it. -/
def hasStrayRow : Node → Bool
  | .tableRow .. | .ruleRow .. => true
  | .document _ children | .blockQuote _ children | .listItem _ children => anyStrayRow children
  | .heading _ _ content | .paragraph _ content | .tableCell _ content | .styled _ _ content
  | .link _ _ content => anyStrayRow content
  | .list _ _ _ items => anyStrayRow items
  | .table .. | .codeBlock .. | .thematicBreak .. | .text .. | .code .. | .image .. | .lineBreak .. => false

/-- Whether a row stands in one of several trees with no table above it. -/
def anyStrayRow : List Node → Bool
  | [] => false
  | node :: rest => hasStrayRow node || anyStrayRow rest

end

/-- A stray row stands in one of several trees. -/
theorem anyStrayRow_iff {nodes : List Node} :
    anyStrayRow nodes = true ↔ ∃ node ∈ nodes, node.hasStrayRow = true := by
  induction nodes with
  | nil => simp [anyStrayRow]
  | cons node rest inductionHypothesis => simp [anyStrayRow, inductionHypothesis]

/-- A node that is no row and no table holds a stray row exactly when one of its children does. -/
theorem hasStrayRow_of_children {node : Node} (noRow : node.rowKey? = none) (noTable : node.tableKey? = none) :
    node.hasStrayRow = anyStrayRow node.children := by
  cases node with
  | tableRow | ruleRow => cases noRow
  | table => cases noTable
  | _ => rfl

/-- Without stray rows in a node that is no row and no table there are none in its children. -/
theorem hasStrayRow_child {node child : Node} (noRow : node.rowKey? = none)
    (noTable : node.tableKey? = none) (clear : node.hasStrayRow = false) (inside : child ∈ node.children) :
    child.hasStrayRow = false := by
  rw [hasStrayRow_of_children noRow noTable] at clear
  by_contra strays
  have some := anyStrayRow_iff.mpr ⟨child, inside, by simpa using strays⟩
  exact absurd some (by simp [clear])

/-- Whether the values in a node's own fields have the types they are declared with: numbers are whole,
a truth value counts as one, and a code block may have no language. -/
def hasDeclaredValues : Node → Bool
  | .heading _ (.int _) _ | .heading _ (.bool _) _ => true
  | .codeBlock _ (.string _) (.string _) | .codeBlock _ (.string _) .null => true
  | .list _ (.bool _) (.int _) _ | .list _ (.bool _) (.bool _) _ => true
  | .text _ (.string _) | .code _ (.string _) | .link _ (.string _) _ => true
  | .image _ (.string _) (.string _) | .lineBreak _ (.bool _) => true
  | .heading .. | .codeBlock .. | .list .. | .text .. | .code .. | .link .. | .image ..
  | .lineBreak .. => false
  | _ => true

/-- Whether a table holds nothing but rows, and a row nothing but cells. -/
def holdsRowsAndCells : Node → Bool
  | .table _ _ rows => rows.all fun row => row.rowKey?.isSome
  | .tableRow _ _ cells => cells.all isCell
  | _ => true

/-- A tree whose values have their declared types, whose tables hold rows and whose rows hold cells. A
row inside a cell belongs to a table inside the cell. -/
def WellFormed (node : Node) : Prop :=
  node.Everywhere fun inner =>
    inner.hasDeclaredValues = true ∧ inner.holdsRowsAndCells = true ∧
      (inner.isCell = true → inner.hasStrayRow = false)

/-- What stands inside a well-formed tree is well-formed. -/
theorem WellFormed.within {inner node : Node} (wellFormed : node.WellFormed)
    (within : Within inner node) : inner.WellFormed :=
  fun deeper inside => wellFormed deeper (inside.trans within)

/-- A child of a well-formed tree is well-formed. -/
theorem WellFormed.child {child node : Node} (wellFormed : node.WellFormed)
    (inside : child ∈ node.children) : child.WellFormed :=
  wellFormed.within (.child inside (.self child))

end Node

namespace Markup

variable {α β : Type} {stray other : Prop} {meets : α → Prop} {result : β → Prop}

/-! ## Steps that fail by a stray row alone -/

/-- A step fails by a stray row exactly when a condition holds; else it gives a value that meets
another condition. Both whatever the state is. -/
structure FailsIff (stray : Prop) (meets : α → Prop) (step : Render α) : Prop where
  gives : ¬ stray → ∀ state, ∃ value after, step.run state = .ok value after ∧ meets value
  fails : stray → ∀ state, ∃ after, step.run state = .error .strayRow after

/-- A step that always gives a value that meets a condition. -/
abbrev Gives (meets : α → Prop) (step : Render α) : Prop :=
  FailsIff False meets step

/-- The condition for failing can be told another way, and that on the value be weakened. -/
theorem FailsIff.weaken {meets' : α → Prop} {step : Render α} (known : FailsIff stray meets step)
    (same : stray ↔ other) (weaker : ∀ value, meets value → meets' value) :
    FailsIff other meets' step where
  gives := by
    intro none state
    obtain ⟨value, after, run, met⟩ := known.gives (mt same.mp none) state
    exact ⟨value, after, run, weaker value met⟩
  fails := fun some => known.fails (same.mpr some)

/-- A step that gives a value in every state never fails. -/
theorem Gives.of_run {step : Render α}
    (runs : ∀ state, ∃ value after, step.run state = .ok value after ∧ meets value) : Gives meets step :=
  ⟨fun _ => runs, False.elim⟩

/-- A step that only gives a value gives it. -/
theorem Gives.pure {value : α} (known : meets value) : Gives meets (Pure.pure value : Render α) :=
  .of_run fun state => ⟨value, state, rfl, known⟩

/-- A step that only fails by a stray row does so. -/
theorem FailsIff.throw : FailsIff True meets (MonadExcept.throw Failure.strayRow : Render α) :=
  ⟨fun none => absurd trivial none, fun _ state => ⟨state, rfl⟩⟩

/-- Of two steps the second is only reached when the first gives a value. -/
theorem FailsIff.bind {step : Render α} {next : α → Render β} (first : FailsIff stray meets step)
    (second : ∀ value, meets value → FailsIff other result (next value)) :
    FailsIff (stray ∨ other) result (step >>= next) where
  gives := by
    intro none state
    obtain ⟨value, between, run, met⟩ := first.gives (fun some => none (.inl some)) state
    rw [EStateM.run_bind, run]
    exact (second value met).gives (fun some => none (.inr some)) between
  fails := by
    intro some state
    rw [EStateM.run_bind]
    by_cases inFirst : stray
    · obtain ⟨after, run⟩ := first.fails inFirst state
      exact ⟨after, by rw [run]⟩
    · obtain ⟨value, between, run, met⟩ := first.gives inFirst state
      rw [run]
      exact (second value met).fails (some.resolve_left inFirst) between

/-- A step that cannot fail can follow. -/
theorem FailsIff.andThen {step : Render α} {next : α → Render β} (first : FailsIff stray meets step)
    (second : ∀ value, meets value → Gives result (next value)) :
    FailsIff stray result (step >>= next) :=
  (first.bind second).weaken (or_iff_left id) fun _ known => known

/-- A step can follow one that cannot fail. -/
theorem Gives.andThen {step : Render α} {next : α → Render β} (first : Gives meets step)
    (second : ∀ value, meets value → FailsIff stray result (next value)) :
    FailsIff stray result (step >>= next) :=
  (FailsIff.bind first second).weaken (or_iff_right id) fun _ known => known

/-- Changing the value changes nothing about failing. -/
theorem FailsIff.map {step : Render α} {change : α → β} (known : FailsIff stray meets step)
    (changed : ∀ value, meets value → result (change value)) :
    FailsIff stray result (change <$> step) := by
  rw [map_eq_pure_bind]
  exact known.andThen fun value met => Gives.pure (changed value met)

/-- A value that is settled is given. -/
theorem Gives.settle {outcome : Except Failure α} {value : α} (settled : outcome = .ok value)
    (known : meets value) : Gives meets (Markup.settle outcome) := by
  rw [settled]
  exact Gives.pure known

/-- Looking at the state never fails. -/
theorem Gives.look : Gives (fun _ => True) (getThe State : Render State) :=
  .of_run fun state => ⟨state, state, rfl, trivial⟩

/-- Changing the state never fails. -/
theorem Gives.modify (change : State → State) :
    Gives (fun _ => True) (modifyThe State change : Render Unit) :=
  .of_run fun state => ⟨(), change state, rfl, trivial⟩

/-! ## Pieces, captured texts and blocks -/

/-- Pieces make a text in which given characters appear in order. -/
def Shows (kept : List Char) (pieces : List Json) : Prop :=
  ∃ text, joinPieces pieces = .ok text ∧ kept.Sublist (Text.ink text)

/-- A single string shows what its ink holds. -/
theorem Shows.single {kept : List Char} {text : String} (shown : kept.Sublist (Text.ink text)) :
    Shows kept [.string text] :=
  ⟨text, joinPieces_single text, shown⟩

/-- No pieces show nothing. -/
theorem Shows.nil : Shows [] [] :=
  ⟨"", rfl, List.nil_sublist _⟩

/-- Strings in a list are those of its parts, if there is nothing else in both. -/
theorem stringsOf_append (pieces others : List Json) :
    stringsOf (pieces ++ others) = do return (← stringsOf pieces) ++ (← stringsOf others) := by
  induction pieces with
  | nil =>
    rw [List.nil_append, stringsOf]
    cases stringsOf others <;> rfl
  | cons piece rest inductionHypothesis =>
    cases piece with
    | string text =>
      rw [List.cons_append, stringsOf, stringsOf, inductionHypothesis]
      cases stringsOf rest <;> cases stringsOf others <;> rfl
    | _ => rfl

/-- Pieces in sequence make the text of the first and then that of the others, if both make one. -/
theorem joinPieces_append_eq (pieces others : List Json) :
    joinPieces (pieces ++ others) = do return (← joinPieces pieces) ++ (← joinPieces others) := by
  rw [joinPieces, joinPieces, joinPieces, stringsOf_append]
  cases stringsOf pieces <;> cases stringsOf others <;> simp [bind, Except.bind, pure, Except.pure, Except.map]

/-- The text of pieces in sequence is that of its parts. -/
theorem joinPieces_append {pieces others : List Json} {text rest : String} (first : joinPieces pieces = .ok text)
    (second : joinPieces others = .ok rest) : joinPieces (pieces ++ others) = .ok (text ++ rest) := by
  rw [joinPieces_append_eq, first, second]
  rfl

/-- Pieces in sequence show what each part shows. -/
theorem Shows.append {kept more : List Char} {pieces others : List Json} (first : Shows kept pieces)
    (second : Shows more others) : Shows (kept ++ more) (pieces ++ others) := by
  obtain ⟨text, joined, shown⟩ := first
  obtain ⟨rest, restJoined, restShown⟩ := second
  exact ⟨text ++ rest, joinPieces_append joined restJoined, by rw [Text.ink_append]; exact shown.append restShown⟩

/-- Writers in sequence fail if one of them does, and show what each of them shows. -/
theorem failsIff_inSequence {Item : Type} {items : List Item} {writer : Item → Writer}
    {strays : Item → Prop} {kept : Item → List Char} {around : Option Surroundings}
    (each : ∀ item ∈ items, FailsIff (strays item) (Shows (kept item)) (writer item around)) :
    FailsIff (∃ item ∈ items, strays item) (Shows (items.flatMap kept))
      (inSequence (items.map writer) around) := by
  induction items with
  | nil => exact (Gives.pure Shows.nil).weaken (by simp) fun _ known => known
  | cons item rest inductionHypothesis =>
    have later := inductionHypothesis fun other inside => each other (List.mem_cons_of_mem item inside)
    have whole : FailsIff (strays item ∨ ∃ other ∈ rest, strays other)
        (Shows (kept item ++ rest.flatMap kept)) (inSequence ((item :: rest).map writer) around) :=
      (each item List.mem_cons_self).bind fun pieces shown =>
        later.andThen fun more moreShown => Gives.pure (shown.append moreShown)
    exact whole.weaken (by simp) fun _ known => known

/-- A captured text shows what its pieces show. -/
theorem FailsIff.capture {writers : List Writer} {kept : List Char} {around : Option Surroundings}
    (known : FailsIff stray (Shows kept) (inSequence writers around)) :
    FailsIff stray (fun text => kept.Sublist (Text.ink text)) (capture writers around) :=
  known.andThen fun _ ⟨_, joined, shown⟩ => Gives.settle joined shown

/-- A captured text of one writer shows what the writer shows. -/
theorem FailsIff.captureOne {writer : Writer} {kept : List Char} {around : Option Surroundings}
    (known : FailsIff stray (Shows kept) (writer around)) :
    FailsIff stray (fun text => kept.Sublist (Text.ink text)) (Markup.capture [writer] around) := by
  refine FailsIff.capture ?_
  rwa [inSequence_single]

/-- A block shows what its writer shows. -/
theorem FailsIff.block {writer : Writer} {kept : List Char} {around : Option Surroundings}
    (known : FailsIff stray (Shows kept) (writer around)) :
    FailsIff stray (fun text => kept.Sublist (Text.ink text)) (Markup.block writer around) := by
  refine known.captureOne.andThen fun text shown => Gives.pure ?_
  rwa [Text.ink_stripNewlinesEnd]

/-- The blocks of writers fail if one of them does, and show what each of them shows. -/
theorem failsIff_blocks {Item : Type} {items : List Item} {writer : Item → Writer}
    {strays : Item → Prop} {kept : Item → List Char} {around : Option Surroundings}
    (each : ∀ item ∈ items, FailsIff (strays item) (Shows (kept item)) (writer item around)) :
    FailsIff (∃ item ∈ items, strays item)
      (fun texts => (items.flatMap kept).Sublist (texts.flatMap Text.ink))
      (blocks (items.map writer) around) := by
  induction items with
  | nil =>
    have nothing : Gives (fun _ => True) (blocks [] around) := Gives.pure trivial
    exact nothing.weaken (by simp) fun _ _ => List.nil_sublist _
  | cons item rest inductionHypothesis =>
    have later := inductionHypothesis fun other inside => each other (List.mem_cons_of_mem item inside)
    have whole : FailsIff (strays item ∨ ∃ other ∈ rest, strays other)
        (fun texts => (kept item ++ rest.flatMap kept).Sublist (texts.flatMap Text.ink))
        (blocks ((item :: rest).map writer) around) :=
      (each item List.mem_cons_self).block.bind fun text shown =>
        later.andThen fun texts restShown => Gives.pure (shown.append restShown)
    exact whole.weaken (by simp) fun _ known => known

end Markup

end OutlineWiki
