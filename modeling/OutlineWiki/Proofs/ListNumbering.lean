import OutlineWiki.Proofs.ItemTexts
import OutlineWiki.Proofs.NestedTables

/-!
# Numbers and indentation of lists

A list is visited at the level of the lists around it, whatever stands in its items, so its items have the
indentation of the list and the marks of their places in it. Only a row inside a list but outside of every
table there is told the widths of a table around the list, and what is measured for it is measured at the
level of the row: the lists in that table are then visited deeper than they stand.
-/

namespace OutlineWiki

open Markup

namespace Markup

/-- A list with a check of the texts of its items, given how many lists there are down to it: the rendering
fails at a list whose texts do not pass. -/
def checkedList (passes : Nat → Json → Json → List String → Prop)
    [∀ depth ordered start, DecidablePred (passes depth ordered start)] (failure : Failure) : ListForm :=
  fun depth ordered start items around => do
    let parts ← inList ordered start (visitEach items around)
    let texts ← settle (parts.mapM joinPieces)
    let _ ← checking (passes depth ordered start) failure texts
    return parts.flatten

/-- Texts of items make the text of a list at a level that is no less than a given one. -/
def ItemsStandFrom (least : Nat) (ordered start : Json) (texts : List String) : Prop :=
  ∃ level, least ≤ level ∧ ItemsStand level ordered start texts

noncomputable instance (least : Nat) (ordered start : Json) (texts : List String) :
    Decidable (ItemsStandFrom least ordered start texts) :=
  Classical.propDecidable _

variable {α β γ : Type} {levels : Nat → Prop}

/-- A step with a look at its value that always gives something and changes nothing is the step. -/
theorem SameAt.looking {first second : Render α} (known : SameAt levels first second) {look : α → Render β}
    (change : α → γ)
    (looks : ∀ state value after, levels state.listLevel → second.run state = .ok value after →
      ∃ seen, (look value).run after = .ok seen after) :
    SameAt levels (first >>= fun value => look value >>= fun _ => Pure.pure (change value)) (change <$> second) := by
  intro state atLevel
  refine ⟨?_, ((known.right).map change state atLevel).2⟩
  rw [map_eq_pure_bind, EStateM.run_bind, EStateM.run_bind, (known state atLevel).1]
  cases run : second.run state with
  | error failure after => rfl
  | ok value after =>
    obtain ⟨seen, looked⟩ := looks state value after atLevel run
    show (look value >>= fun _ => Pure.pure (change value)).run after = _
    rw [EStateM.run_bind, looked]

variable {options : Options} {tree : Node} {passes : Nat → Json → Json → List String → Prop}
  [∀ depth ordered start, DecidablePred (passes depth ordered start)] {failure : Failure}

/-- The texts of a list's items are looked at after all have been visited. -/
theorem checkedList_eq (depth : Nat) (ordered start : Json) (items : List Writer) (around : Option Surroundings) :
    checkedList passes failure depth ordered start items around =
      inList ordered start (visitEach items around) >>= fun parts =>
        (settle (parts.mapM joinPieces) >>= checking (passes depth ordered start) failure) >>= fun _ =>
          pure parts.flatten := by
  simp [checkedList]

/-- A list is written by the pieces of its items. -/
theorem listWriter_eq_visitEach (ordered start : Json) (items : List Writer) (around : Option Surroundings) :
    listWriter ordered start items around = List.flatten <$> inList ordered start (visitEach items around) := by
  simp [listWriter_eq_inList, inSequence_eq_visitEach, inList]

/-- A rendering whose lists are checked is the rendering itself, when every list passes whose items stand in
its text one level deeper than the list is met. The levels at which a list can be met are told from its depth,
and when a stray row stands in a list they are all from there on. -/
theorem renderedThrough_checkedList {levelsAt : Nat → Nat → Prop} (outermost : levelsAt 0 0)
    (deeper : ∀ depth level, levelsAt depth level → levelsAt (depth + 1) (level + 1))
    (strays : ∀ attributes ordered start items, Node.Within (.list attributes ordered start items) tree →
      Node.anyStrayRow items = true → levelsAt = fun depth level => depth ≤ level)
    (passing : ∀ depth level ordered start texts, levelsAt depth level →
      ItemsStand (level + 1) ordered start texts → passes (depth + 1) ordered start texts)
    (proper : tree.Everywhere (·.isProperList = true)) :
    renderedThrough (checkedList passes failure) options tree = render options tree := by
  have same : SameAt (levelsAt 0) (tree.listedWriter (checkedList passes failure) options 0 none)
      (tree.listedWriter .plain options 0 none) := by
    refine same_listedWriter ?_ ?_ (.self tree) 0 fun _ => .outside
    · intro attributes ordered start items isWithin depth leftAround rightAround fits each
      show SameAt _ _ (listWriter ordered start _ rightAround)
      rw [checkedList_eq, listWriter_eq_visitEach]
      refine ((same_visitEach each).inList (deeper depth) ordered start).looking List.flatten ?_
      intro state parts after atLevel run
      have listProper : (Node.list attributes ordered start items).Everywhere (·.isProperList = true) :=
        fun inner inside => proper inner (inside.trans isWithin)
      have visited : ∃ texts, parts.mapM joinPieces = .ok texts ∧
          ItemsStand (state.listLevel + 1) ordered start texts := by
        cases stray : Node.anyStrayRow items with
        | false =>
          exact itemsStand_of_visit listProper (fun some => absurd some (by simp [stray])) (Nat.zero_le _) run
        | true =>
          have around := fits stray
          rw [strays attributes ordered start items isWithin stray] at atLevel around
          exact itemsStand_of_visit listProper (fun _ => around.right) (Nat.le_succ_of_le atLevel) run
      obtain ⟨texts, areTexts, stand⟩ := visited
      refine ⟨texts, ?_⟩
      rw [areTexts]
      show (checking _ failure texts).run after = _
      rw [checking, if_pos (passing depth _ ordered start texts atLevel stand)]
      rfl
    · intro attributes ordered start items isWithin stray depth level deep
      rw [strays attributes ordered start items isWithin stray] at deep ⊢
      exact Nat.le_of_succ_le deep
  have whole : SameAt (levelsAt 0)
      (finishText <$> capture [tree.listedWriter (checkedList passes failure) options 0] none)
      (finishText <$> capture [tree.listedWriter .plain options 0] none) :=
    same.captureOne.map finishText
  rw [← renderedThrough_plain, renderedThrough, renderedThrough, (whole {} outermost).1]

end Markup

namespace Node

/-- Whether every row in a list stands in a table in the list. -/
def isClearList : Node → Bool
  | .list _ _ _ items => !anyStrayRow items
  | _ => true

end Node

/-- The items of every list are marked and indented by their list alone. In a tree whose lists hold nothing but
items, and have a start when their items are numbered, each time that a list is visited its items begin where
lines start, with the indentation of one level and the marks of their places in the list, and a line starts
after the last; and the level is at least that of the list in the tree. It is the level of the list in the tree
when every row in a list stands in a table in the list. -/
theorem lists_numbered (options : Options) {tree : Node} (proper : tree.Everywhere (·.isProperList = true))
    (failure : Failure) :
    renderedThrough (checkedList ItemsStandFrom failure) options tree = render options tree ∧
    (tree.Everywhere (·.isClearList = true) →
      renderedThrough (checkedList ItemsStand failure) options tree = render options tree) := by
  constructor
  · refine @renderedThrough_checkedList _ _ _ _ _ (fun depth level => depth ≤ level) ?_ ?_ ?_ ?_ proper
    · exact Nat.le_refl 0
    · exact fun depth level deep => Nat.succ_le_succ deep
    · exact fun _ _ _ _ _ _ => rfl
    · exact fun depth level ordered start texts deep stand => ⟨level + 1, Nat.succ_le_succ deep, stand⟩
  · intro clear
    refine @renderedThrough_checkedList _ _ _ _ _ (fun depth level => level = depth) ?_ ?_ ?_ ?_ proper
    · rfl
    · exact fun depth level same => congrArg (· + 1) same
    · intro attributes ordered start items inside stray
      have none := clear _ inside
      simp [Node.isClearList, stray] at none
    · rintro depth level ordered start texts rfl stand
      exact stand

/-- Items inside a quote inside an item are numbered apart, and the next item goes on with one. -/
theorem lists_numbered_quoted :
    let inner : Node := .list {} (.bool true) (.int 7)
      [.listItem {} [.paragraph {} [.text {} (.string "b")]], .listItem {} [.paragraph {} [.text {} (.string "c")]]]
    let tree : Node := .document {} [.list {} (.bool true) (.int 3)
      [.listItem {} [.paragraph {} [.text {} (.string "a")], .blockQuote {} [inner]],
        .listItem {} [.paragraph {} [.text {} (.string "d")]]]]
    tree.Everywhere (·.isProperList = true) ∧ tree.Everywhere (·.isClearList = true) ∧
      renderedThrough (checkedList ItemsStand .endless) {} tree = render {} tree ∧
      render {} tree = .ok " 3. a\n>    7. b\n>    1. c\n 1. d\n" := by
  intro inner tree
  have proper : tree.Everywhere (·.isProperList = true) := Node.everywhere_iff_nodes.mpr (by decide)
  have clear : tree.Everywhere (·.isClearList = true) := Node.everywhere_iff_nodes.mpr (by decide)
  exact ⟨proper, clear, (lists_numbered {} proper .endless).2 clear, by decide +kernel⟩

/-- A table whose first column has a set width. In a list in that column stands a row outside of any table in
the list, and in a link in the second column stands a list that looks like the address of the link. -/
def rowInList : Node :=
  let cell (content : List Node) : Node := .tableCell {} content
  let list (items : List Node) : Node := .list {} (.bool false) (.int 1) items
  .document {} [.table {} 0
    [.tableRow {} 1 [cell [.text {} (.string "<1>")]],
      .tableRow {} 2 [cell [list [.listItem {} [.tableRow {} 3 [cell [], cell []]]]],
        cell [.link {} (.string "*\n *") [list [.listItem {} [], .listItem {} []]]]],
      .tableRow {} 4 []]]

/-- A list is not always visited at its own level. When the row in the list asks for the width of the second
column, the list in the link is measured at the level of the row; there it is longer than the address of the
link, which it is not when the cell is written. -/
theorem lists_measured_deeper :
    rowInList.nodes.all (·.isProperList) = true ∧
      render {} rowInList = .ok "|| * || || || || [* *]     ||\n" ∧
      renderedThrough (checkedList ItemsStand .unsuitable) {} rowInList = .error .unsuitable := by
  refine ⟨by decide, ?_, ?_⟩
  · decide +kernel
  · decide +kernel

end OutlineWiki
