import OutlineWiki.Proofs.KeptInk

/-!
# Rendering well-formed trees

A well-formed tree is rendered whatever its options, and whatever the renderer did before, unless a row
stands outside of every table. No position is looked up in vain and no question for a width goes
unanswered, also in tables inside cells.
-/

namespace OutlineWiki

open Markup

/-- A text without blanks at its end does not end in a blank. -/
theorem Text.getLast?_stripEnd (text : String) :
    ∀ last ∈ (Text.stripEnd text).toList.getLast?, Text.isBlank last = false := by
  intro last isLast
  rw [Text.stripEnd, String.toList_ofList, Text.Chars.trimEnd, List.getLast?_reverse] at isLast
  exact Text.Chars.head?_dropWhile_blank _ last isLast

/-- A rendering of a well-formed tree fails exactly when the tree holds a stray row, and else gives a
finished text in which the characters of the tree's texts appear in order. -/
theorem renderToString_wellFormed (renderer : Renderer) {tree : Node} (wellFormed : tree.WellFormed) :
    (tree.hasStrayRow = true → (renderer.renderToString tree).1 = .error .strayRow) ∧
      (tree.hasStrayRow = false → ∃ text, (renderer.renderToString tree).1 = .ok (finishText text) ∧
        tree.keptInk.Sublist (Text.ink text)) := by
  have known : FailsIff (tree.hasStrayRow = true)
      (fun output => ∃ text, output = finishText text ∧ tree.keptInk.Sublist (Text.ink text))
      (renderTree (tableWriter .remembering) renderer.options tree) :=
    (failsAsStray renderer.options wellFormed none fun inTable => nomatch inTable).captureOne.map
      fun text shown => ⟨text, rfl, shown⟩
  constructor
  · intro strays
    obtain ⟨after, run⟩ := known.fails strays renderer.restarted.state
    unfold Renderer.renderToString Renderer.run
    rw [run]
  · intro clear
    obtain ⟨output, after, run, text, rfl, shown⟩ := known.gives (by simp [clear]) renderer.restarted.state
    refine ⟨text, ?_, shown⟩
    unfold Renderer.renderToString Renderer.run
    rw [run]

/-- Rendering a well-formed tree always comes to an end: with a stray row, in a failure of the table
stage; else in a text that ends with one line feed, before which stands no blank. Every table of the
tree has a layout, in which each of its rules has a position. -/
theorem rendering_total (renderer : Renderer) {tree : Node} (wellFormed : tree.WellFormed) :
    (tree.hasStrayRow = true →
      ∃ failure : Failure, (renderer.renderToString tree).1 = .error failure ∧
        failure.stage? = some "table") ∧
    (tree.hasStrayRow = false →
      ∃ body, (renderer.renderToString tree).1 = .ok (body ++ "\n") ∧
        ∀ last ∈ body.toList.getLast?, Text.isBlank last = false) ∧
    ∀ attributes key rows, Node.Within (.table attributes key rows) tree →
      ∃ layout, TableLayout.ofRows rows = .ok layout ∧
        ∀ row ∈ rows, row.isRule = true → ∃ index, layout.rowIndex row = .ok index := by
  obtain ⟨fails, gives⟩ := renderToString_wellFormed renderer wellFormed
  refine ⟨fun strays => ⟨.strayRow, fails strays, rfl⟩, fun clear => ?_, ?_⟩
  · obtain ⟨text, rendered, -⟩ := gives clear
    exact ⟨Text.stripEnd text, rendered, Text.getLast?_stripEnd text⟩
  · intro attributes key rows within
    obtain ⟨layout, made⟩ := (wellFormed.within within).ofRows_ok
    refine ⟨layout, made, fun row inside isRule => TableLayout.rowIndex_of_mem ?_⟩
    refine (TableLayout.mem_rows_iff made).mpr ⟨inside, ?_⟩
    cases row with
    | ruleRow => rfl
    | _ => cases isRule

/-- A table whose cell holds a table that starts with a rule is rendered, each rule having a position in
its own table; a rule without a table is not. -/
theorem rendering_total_nested_rules :
    let inner : List Node := [.ruleRow {} 3, .tableRow {} 4 [.tableCell {} [.text {} (.string "x")]]]
    let tree : Node := .document {} [.table {} 0
      [.tableRow {} 1 [.tableCell {} [.table {} 2 inner]], .ruleRow {} 5]]
    (∃ body, (({} : Renderer).renderToString tree).1 = .ok (body ++ "\n") ∧
      ∀ last ∈ body.toList.getLast?, Text.isBlank last = false) ∧
    (∃ layout, TableLayout.ofRows inner = .ok layout ∧
      ∀ row ∈ inner, row.isRule = true → ∃ index, layout.rowIndex row = .ok index) ∧
    ∃ failure : Failure,
      (({} : Renderer).renderToString (.document {} [.ruleRow {} 0])).1 = .error failure ∧
        failure.stage? = some "table" := by
  intro inner tree
  have wellFormed : tree.WellFormed := Node.everywhere_iff_nodes.mpr (by decide)
  have strayWellFormed : (Node.document {} [.ruleRow {} 0]).WellFormed :=
    Node.everywhere_iff_nodes.mpr (by decide)
  obtain ⟨-, gives, positions⟩ := rendering_total {} wellFormed
  have within : Node.Within (.table {} 2 inner) tree :=
    .child List.mem_cons_self (.child List.mem_cons_self (.child List.mem_cons_self
      (.child List.mem_cons_self (.self _))))
  exact ⟨gives rfl, positions {} 2 inner within, (rendering_total {} strayWellFormed).1 rfl⟩

end OutlineWiki
