import OutlineWiki.Proofs.NodeAgreement

/-!
# The places of tables

What a node writes depends on the list level and on the numbers of the open lists around it. In a tree
whose lists hold nothing but items both are fixed by where the node stands: the first item of a list
takes its number before anything inside the list is written, and every other one takes a one.
-/

namespace OutlineWiki

open Markup

/-- A table, the list level at which it stands and the numbers of the lists that are open there. -/
structure TablePlace where
  key : Nat
  rows : List Node
  level : Nat
  numbers : List Json

namespace Node

/-- Whether a node is an item of a list. -/
def isItem : Node → Bool
  | .listItem .. => true
  | _ => false

/-- Whether a node is a cell of a table. -/
def isCell : Node → Bool
  | .tableCell .. => true
  | _ => false

/-- Whether a node holds what its fields are for: a list holds items, a row holds cells, and nothing
but a table holds rows. -/
def holdsItsKinds : Node → Bool
  | .list _ _ _ items => items.all isItem
  | .tableRow _ _ cells => cells.all isCell
  | .table .. => true
  | node => node.children.all fun child => child.rowKey?.isNone

/-- What a node holds is no row, unless it is a table. -/
theorem rowKey?_of_holdsItsKinds {node child : Node} (holds : node.holdsItsKinds = true)
    (noTable : node.tableKey? = none) (inside : child ∈ node.children) : child.rowKey? = none := by
  cases node with
  | table => cases noTable
  | list =>
    have isItem : child.isItem = true := List.all_eq_true.mp holds child inside
    cases child with
    | listItem => rfl
    | _ => cases isItem
  | tableRow =>
    have isCell : child.isCell = true := List.all_eq_true.mp holds child inside
    cases child with
    | tableCell => rfl
    | _ => cases isCell
  | _ => exact Option.isNone_iff_eq_none.mp (List.all_eq_true.mp holds child inside)

/-- The list level inside a node that stands at a list level. -/
def levelInside (level : Nat) : Node → Nat
  | .list .. => level + 1
  | _ => level

/-- The numbers of the open lists inside a node; in a list an item has taken its number. -/
def numbersInside (numbers : List Json) : Node → List Json
  | .list _ ordered start _ => numbersAfterItem ((if ordered.isTruthy then start else .null) :: numbers)
  | _ => numbers

/-- Inside every node the innermost number is taken when it is so outside. -/
theorem numbersInside_settled {numbers : List Json} (settled : numbersAfterItem numbers = numbers)
    (node : Node) : numbersAfterItem (node.numbersInside numbers) = node.numbersInside numbers := by
  cases node with
  | list => exact numbersAfterItem_numbersAfterItem _
  | _ => exact settled

mutual

/-- The places of the tables of a tree that stands at a list level, with numbers of open lists of which
the innermost is taken. -/
def places (level : Nat) (numbers : List Json) : Node → List TablePlace
  | .document _ children => placesAll level numbers children
  | .heading _ _ content => placesAll level numbers content
  | .paragraph _ content => placesAll level numbers content
  | .blockQuote _ children => placesAll level numbers children
  | .list _ ordered start items =>
    placesAll (level + 1) (numbersAfterItem ((if ordered.isTruthy then start else .null) :: numbers)) items
  | .listItem _ children => placesAll level numbers children
  | .table _ key rows => { key, rows, level, numbers } :: placesAll level numbers rows
  | .tableRow _ _ cells => placesAll level numbers cells
  | .tableCell _ content => placesAll level numbers content
  | .styled _ _ content => placesAll level numbers content
  | .link _ _ content => placesAll level numbers content
  | .codeBlock .. | .ruleRow .. | .thematicBreak .. | .text .. | .code .. | .image .. | .lineBreak .. => []

/-- The places of the tables of trees that stand side by side. -/
def placesAll (level : Nat) (numbers : List Json) : List Node → List TablePlace
  | [] => []
  | node :: rest => places level numbers node ++ placesAll level numbers rest

end

/-- The places in trees side by side, one tree after the other. -/
theorem placesAll_eq_flatMap (level : Nat) (numbers : List Json) (nodes : List Node) :
    placesAll level numbers nodes = nodes.flatMap (places level numbers) := by
  induction nodes with
  | nil => rfl
  | cons node rest inductionHypothesis => rw [placesAll, inductionHypothesis, List.flatMap_cons]

/-- The place of a node that is a table. -/
def ownPlace? (level : Nat) (numbers : List Json) : Node → Option TablePlace
  | .table _ key rows => some { key, rows, level, numbers }
  | _ => none

/-- The places in a node are its own, if it is a table, and those in its children. -/
theorem places_eq (node : Node) (level : Nat) (numbers : List Json) :
    node.places level numbers = (node.ownPlace? level numbers).toList ++
      node.children.flatMap (places (node.levelInside level) (node.numbersInside numbers)) := by
  rw [← placesAll_eq_flatMap]
  cases node <;> rfl

/-- The places in a child are places in the node. -/
theorem places_child (node : Node) {child : Node} (inside : child ∈ node.children) (level : Nat)
    (numbers : List Json) :
    child.places (node.levelInside level) (node.numbersInside numbers) ⊆ node.places level numbers := by
  intro place isPlace
  rw [places_eq node]
  exact List.mem_append_right _ (List.mem_flatMap.mpr ⟨child, inside, isPlace⟩)

/-- A place in a tree is that of one of its tables, and the innermost number is taken there. -/
theorem of_mem_places {node : Node} {level : Nat} {numbers : List Json}
    (settled : numbersAfterItem numbers = numbers) {place : TablePlace}
    (isPlace : place ∈ node.places level numbers) :
    (∃ attributes, Within (.table attributes place.key place.rows) node) ∧
      numbersAfterItem place.numbers = place.numbers := by
  induction node using inductionChildren generalizing level numbers with
  | step node inductionHypothesis =>
    rw [places_eq] at isPlace
    rcases List.mem_append.mp isPlace with own | inChildren
    · cases node with
      | table attributes key rows =>
        obtain rfl := List.mem_singleton.mp own
        exact ⟨⟨attributes, .self _⟩, settled⟩
      | _ => cases own
    · obtain ⟨child, inside, inChild⟩ := List.mem_flatMap.mp inChildren
      obtain ⟨⟨attributes, within⟩, taken⟩ :=
        inductionHypothesis child inside (numbersInside_settled settled node) inChild
      exact ⟨⟨attributes, .child inside within⟩, taken⟩

/-- Each table of a tree has one place, in the order of the text. -/
theorem places_keys (node : Node) (level : Nat) (numbers : List Json) :
    (node.places level numbers).map (·.key) = node.tableKeys := by
  induction node using inductionChildren generalizing level numbers with
  | step node inductionHypothesis =>
    rw [places_eq, tableKeys_eq, List.map_append, List.map_flatMap]
    congr 1
    · cases node <;> rfl
    · exact List.flatMap_congr fun child inside => inductionHypothesis child inside _ _

/-- Places with the same key are the same where every table has its own key. -/
theorem places_unique {node : Node} (once : node.tableKeys.Nodup) {level : Nat} {numbers : List Json}
    {first second : TablePlace} (isFirst : first ∈ node.places level numbers)
    (isSecond : second ∈ node.places level numbers) (same : first.key = second.key) : first = second := by
  rw [← places_keys node level numbers] at once
  exact List.inj_on_of_nodup_map once isFirst isSecond same

end Node

end OutlineWiki
