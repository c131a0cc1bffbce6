import OutlineWiki.Proofs.LinkedNodes

/-!
# A renderer used again

One renderer is used again and again, on trees whose tables are changed in between. Failures can leave
lists open, and widths that were found for a table before a row was added are still remembered. Every
rendering gives what a new renderer gives for the tree as it is at that moment.
-/

namespace OutlineWiki

open Markup

/-! ## Tables changed in place -/

/-- A change of the rows of a table. -/
inductive RowEdit where
  | insert (position : Nat) (row : Node)
  | remove (position : Nat)
deriving Inhabited, Repr

/-- The rows after a change. A position behind the last row adds a row at the end and removes none. -/
def RowEdit.apply : RowEdit → List Node → List Node
  | .insert position row, rows => rows.take position ++ row :: rows.drop position
  | .remove position, rows => rows.eraseIdx position

namespace Node

mutual

/-- The tree after a change of the rows of a table, wherever in the tree that table stands. -/
def editRows (table : Nat) (edit : RowEdit) : Node → Node
  | .document attributes children => .document attributes (editRowsAll table edit children)
  | .heading attributes level content => .heading attributes level (editRowsAll table edit content)
  | .paragraph attributes content => .paragraph attributes (editRowsAll table edit content)
  | .blockQuote attributes children => .blockQuote attributes (editRowsAll table edit children)
  | .list attributes ordered start items => .list attributes ordered start (editRowsAll table edit items)
  | .listItem attributes children => .listItem attributes (editRowsAll table edit children)
  | .table attributes key rows =>
    let rows := editRowsAll table edit rows
    .table attributes key (if key = table then edit.apply rows else rows)
  | .tableRow attributes key cells => .tableRow attributes key (editRowsAll table edit cells)
  | .tableCell attributes content => .tableCell attributes (editRowsAll table edit content)
  | .styled attributes style content => .styled attributes style (editRowsAll table edit content)
  | .link attributes url content => .link attributes url (editRowsAll table edit content)
  | .ruleRow attributes key => .ruleRow attributes key
  | .codeBlock attributes content language => .codeBlock attributes content language
  | .thematicBreak attributes => .thematicBreak attributes
  | .text attributes content => .text attributes content
  | .code attributes content => .code attributes content
  | .image attributes url alternative => .image attributes url alternative
  | .lineBreak attributes soft => .lineBreak attributes soft

/-- The trees after a change of the rows of a table. -/
def editRowsAll (table : Nat) (edit : RowEdit) : List Node → List Node
  | [] => []
  | node :: rest => editRows table edit node :: editRowsAll table edit rest

end

end Node

/-! ## Sessions -/

/-- What is done with a renderer, or with one of the trees it renders. The trees are told by their
positions; any node can be among them, also a table that stands inside another tree. -/
inductive SessionStep where
  | render (tree : Nat)
  | width (tree column : Nat)
  | resetWidths
  | edit (table : Nat) (change : RowEdit)
deriving Inhabited, Repr

/-- The trees after a step. -/
def SessionStep.treesAfter : SessionStep → List Node → List Node
  | .edit table change, trees => Node.editRowsAll table change trees
  | .render _, trees | .width _ _, trees | .resetWidths, trees => trees

/-- What a rendering in a step comes to, and the renderer after the step. A step that speaks of no tree,
or asks a node that is no table for a width, does nothing. -/
def Renderer.take (renderer : Renderer) (trees : List Node) :
    SessionStep → Option (Except Failure String) × Renderer
  | .render tree =>
    match trees[tree]? with
    | some tree =>
      let (outcome, renderer) := renderer.renderToString tree
      (some outcome, renderer)
    | none => (none, renderer)
  | .width tree column =>
    match trees[tree]? with
    | some (.table _ key rows) => (none, (renderer.width key rows column).2)
    | _ => (none, renderer)
  | .resetWidths => (none, renderer.resetWidths)
  | .edit _ _ => (none, renderer)

/-- What the renderings of a session come to, step by step, with one renderer. -/
def Renderer.outcomes (renderer : Renderer) (trees : List Node) :
    List SessionStep → List (Option (Except Failure String))
  | [] => []
  | step :: rest =>
    let taken := renderer.take trees step
    taken.1 :: taken.2.outcomes (step.treesAfter trees) rest

/-- What a rendering in a step comes to with a new renderer. -/
def SessionStep.outcomeAnew (options : Options) (trees : List Node) :
    SessionStep → Option (Except Failure String)
  | .render tree => trees[tree]?.map (OutlineWiki.render options)
  | .width _ _ | .resetWidths | .edit _ _ => none

/-- What the renderings of a session come to when each has a new renderer. -/
def outcomesAnew (options : Options) (trees : List Node) :
    List SessionStep → List (Option (Except Failure String))
  | [] => []
  | step :: rest => step.outcomeAnew options trees :: outcomesAnew options (step.treesAfter trees) rest

namespace Renderer

/-- A renderer keeps its options, whatever it runs. -/
@[simp] theorem options_run {α : Type} (renderer : Renderer) (step : Render α) :
    (renderer.run step).2.options = renderer.options := by
  unfold run
  cases EStateM.run step renderer.state <;> rfl

/-- Every rendering of a renderer comes to what the first of a new one does. -/
theorem renderToString_eq_render (renderer : Renderer) (tree : Node) :
    (renderer.renderToString tree).1 = render renderer.options tree := by
  -- A restarted renderer differs from a new one in nothing but the notices it has given.
  have restarted : renderer.restarted.state.Twins {} := ⟨⟨rfl, rfl⟩, rfl⟩
  rw [render_eq_renderedBy, renderToString, Renderer.run, renderedBy]
  rcases (linkedNodes_self tree).renderTree.comes_to restarted trivial with
    ⟨_, _, _, _, run, newRun, rfl, -⟩ | ⟨_, _, _, run, newRun⟩
  · rw [run, newRun]
  · rw [run, newRun]

/-- A renderer keeps its options in every step. -/
theorem options_take (renderer : Renderer) (trees : List Node) (step : SessionStep) :
    (renderer.take trees step).2.options = renderer.options := by
  cases step with
  | render tree =>
    simp only [take]
    split
    · exact options_run renderer.restarted _
    · rfl
  | width tree column =>
    simp only [take]
    split
    · exact options_run renderer _
    · rfl
  | resetWidths => rfl
  | edit table change => rfl

/-- A step comes to what it does with a new renderer. -/
theorem take_fst (renderer : Renderer) (trees : List Node) (step : SessionStep) :
    (renderer.take trees step).1 = step.outcomeAnew renderer.options trees := by
  cases step with
  | render tree =>
    simp only [take, SessionStep.outcomeAnew]
    cases trees[tree]? with
    | none => rfl
    | some tree => exact congrArg some (renderToString_eq_render renderer tree)
  | width tree column =>
    simp only [take]
    split <;> rfl
  | resetWidths => rfl
  | edit table change => rfl

end Renderer

/-- A renderer can be used again. In a session of renderings, questions for the widths of columns, resets
of the remembered widths and changes of tables, every rendering comes to what it comes to with a new
renderer for the tree as it is at that step, be it a text or a failure, and whatever state the renderer
was left in. -/
theorem renderer_used_again (renderer : Renderer) (trees : List Node) (steps : List SessionStep) :
    renderer.outcomes trees steps = outcomesAnew renderer.options trees steps := by
  induction steps generalizing renderer trees with
  | nil => rfl
  | cons step rest inductionHypothesis =>
    rw [Renderer.outcomes, outcomesAnew, inductionHypothesis, Renderer.options_take,
      Renderer.take_fst]

end OutlineWiki
