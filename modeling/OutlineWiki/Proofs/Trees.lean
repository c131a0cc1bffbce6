import Mathlib.Data.List.Flatten
import Mathlib.Data.List.Nodup
import Mathlib.Data.List.Pairwise
import OutlineWiki.Document.Identity

/-!
# Nodes inside a tree

Every node of a tree is reached through children, and children are smaller. What is shown of a node
from what holds of its children therefore holds of every tree, without a case for each kind.
-/

namespace OutlineWiki.Node

/-- A child is smaller than its node. -/
theorem sizeOf_child {node child : Node} (inside : child ∈ node.children) :
    sizeOf child < sizeOf node := by
  have smaller : sizeOf child < sizeOf node.children := List.sizeOf_lt_of_mem inside
  have part : sizeOf node.children ≤ sizeOf node := by
    cases node <;> simp [children] <;> omega
  omega

/-- What holds of a node when it holds of its children holds of every tree. -/
theorem inductionChildren {Holds : Node → Prop}
    (step : ∀ node : Node, (∀ child ∈ node.children, Holds child) → Holds node) (node : Node) :
    Holds node :=
  step node fun child isChild =>
    have : sizeOf child < sizeOf node := sizeOf_child isChild
    inductionChildren step child
termination_by sizeOf node

/-- One node is the other or stands somewhere inside it. -/
inductive Within : Node → Node → Prop where
  | self (node : Node) : Within node node
  | child {inner child node : Node} : child ∈ node.children → Within inner child → Within inner node

/-- A condition holds of every node of a tree. -/
def Everywhere (Holds : Node → Prop) (node : Node) : Prop :=
  ∀ inner, Within inner node → Holds inner

/-- A condition holds everywhere in a tree when it holds of the root and everywhere in its
children. -/
theorem everywhere_iff {Holds : Node → Prop} {node : Node} :
    node.Everywhere Holds ↔ Holds node ∧ ∀ child ∈ node.children, child.Everywhere Holds := by
  constructor
  · intro all
    exact ⟨all node (.self node), fun child inside inner within => all inner (.child inside within)⟩
  · rintro ⟨root, inChildren⟩ inner within
    cases within with
    | self => exact root
    | child inside within => exact inChildren _ inside inner within

/-- What holds of a node when it holds of all nodes inside its children holds of every tree. -/
theorem inductionInside {Holds : Node → Prop}
    (step : ∀ node : Node, (∀ child ∈ node.children, ∀ inner, Within inner child → Holds inner) →
      Holds node) (node : Node) : Holds node := by
  have everywhere : node.Everywhere Holds := by
    induction node using inductionChildren with
    | step node inductionHypothesis =>
      exact everywhere_iff.mpr ⟨step node inductionHypothesis, inductionHypothesis⟩
  exact everywhere node (.self node)

/-- Nodes inside a node of a tree are nodes of the tree. -/
theorem Within.trans {inner middle outer : Node} (first : Within inner middle)
    (second : Within middle outer) : Within inner outer := by
  induction second with
  | self => exact first
  | child inside _ inductionHypothesis => exact .child inside inductionHypothesis

/-! ## The nodes of a tree -/

mutual

/-- The nodes of a tree, each before those inside it. -/
def nodes : Node → List Node
  | .document attributes children => .document attributes children :: nodesAll children
  | .heading attributes level content => .heading attributes level content :: nodesAll content
  | .paragraph attributes content => .paragraph attributes content :: nodesAll content
  | .blockQuote attributes children => .blockQuote attributes children :: nodesAll children
  | .list attributes ordered start items => .list attributes ordered start items :: nodesAll items
  | .listItem attributes children => .listItem attributes children :: nodesAll children
  | .table attributes key rows => .table attributes key rows :: nodesAll rows
  | .tableRow attributes key cells => .tableRow attributes key cells :: nodesAll cells
  | .tableCell attributes content => .tableCell attributes content :: nodesAll content
  | .styled attributes style content => .styled attributes style content :: nodesAll content
  | .link attributes url content => .link attributes url content :: nodesAll content
  | leaf => [leaf]

/-- The nodes of a list of trees. -/
def nodesAll : List Node → List Node
  | [] => []
  | node :: rest => nodes node ++ nodesAll rest

end

/-- The nodes of trees, one tree after the other. -/
theorem nodesAll_eq_flatMap (trees : List Node) : nodesAll trees = trees.flatMap nodes := by
  induction trees with
  | nil => rfl
  | cons tree rest inductionHypothesis => rw [nodesAll, inductionHypothesis, List.flatMap_cons]

/-- The nodes of a tree are its root and those of its children. -/
theorem nodes_eq (node : Node) : node.nodes = node :: node.children.flatMap nodes := by
  rw [← nodesAll_eq_flatMap]
  cases node <;> simp [nodes, children, nodesAll]

/-- The nodes of a tree are those inside it. -/
theorem mem_nodes_iff {inner node : Node} : inner ∈ node.nodes ↔ Within inner node := by
  constructor
  · intro isNode
    induction node using inductionChildren with
    | step node inductionHypothesis =>
      rw [nodes_eq] at isNode
      rcases List.mem_cons.mp isNode with rfl | below
      · exact .self inner
      · obtain ⟨child, inside, inChild⟩ := List.mem_flatMap.mp below
        exact .child inside (inductionHypothesis child inside inChild)
  · intro within
    induction within with
    | self =>
      rw [nodes_eq]
      exact List.mem_cons_self
    | child inside _ inductionHypothesis =>
      rw [nodes_eq]
      exact List.mem_cons_of_mem _ (List.mem_flatMap.mpr ⟨_, inside, inductionHypothesis⟩)

/-- The nodes of a part of a tree are nodes of the tree, in the same order. -/
theorem nodes_sublist {inner node : Node} (within : Within inner node) : inner.nodes.Sublist node.nodes := by
  induction within with
  | self => exact .refl _
  | @child child node inside _ inductionHypothesis =>
    have ofChild := (List.singleton_sublist.mpr inside).flatMap nodes
    rw [List.flatMap_singleton] at ofChild
    rw [nodes_eq node]
    exact (inductionHypothesis.trans ofChild).trans (List.sublist_cons_self _ _)

/-- What is gathered from the nodes of a tree comes from its root, and then from its children. -/
theorem filterMap_nodes {Gathered : Type} (gather : Node → Option Gathered) (node : Node) :
    node.nodes.filterMap gather =
      (gather node).toList ++ node.children.flatMap fun child => child.nodes.filterMap gather := by
  rw [nodes_eq, List.filterMap_cons, List.filterMap_flatMap]
  cases gather node <;> rfl

/-- A condition holds everywhere in a tree when it holds of each of its nodes. -/
theorem everywhere_iff_nodes {Holds : Node → Prop} {node : Node} :
    node.Everywhere Holds ↔ ∀ inner ∈ node.nodes, Holds inner :=
  ⟨fun all inner isNode => all inner (mem_nodes_iff.mp isNode),
    fun each inner within => each inner (mem_nodes_iff.mpr within)⟩

/-! ## The tables of a tree -/

/-- The key of a table. -/
def tableKey? : Node → Option Nat
  | .table _ key _ => some key
  | _ => none

/-- The keys of the tables of a tree, in the order of the text. -/
def tableKeys (node : Node) : List Nat :=
  node.nodes.filterMap tableKey?

/-- The tables of a node are the node itself, if it is one, and those of its children. -/
theorem tableKeys_eq (node : Node) :
    node.tableKeys = node.tableKey?.toList ++ node.children.flatMap tableKeys :=
  filterMap_nodes tableKey? node

/-- The tables inside a node of a tree are tables of the tree, in the same order. -/
theorem tableKeys_sublist {inner node : Node} (within : Within inner node) :
    inner.tableKeys.Sublist node.tableKeys :=
  (nodes_sublist within).filterMap tableKey?

/-- Tables of a tree with the same key are the same object and have the same rows. -/
def KeysIdentify (node : Node) : Prop :=
  ∀ attributes key rows attributes' rows', Within (.table attributes key rows) node →
    Within (.table attributes' key rows') node → rows = rows'

/-- Keys of which no two are equal identify the tables of a tree. -/
theorem keysIdentify_of_nodup {node : Node} (once : node.tableKeys.Nodup) : node.KeysIdentify := by
  induction node using inductionChildren with
  | step node inductionHypothesis =>
    intro attributes key rows attributes' rows' first second
    have isKey : ∀ attributes rows, key ∈ (Node.table attributes key rows).tableKeys := by
      intro attributes rows
      rw [tableKeys_eq]
      exact List.mem_cons_self
    rw [tableKeys_eq] at once
    obtain ⟨-, inChildren, apart⟩ := List.nodup_append.mp once
    have notBelow : ∀ attributes rows child attributes' rows', node = .table attributes key rows →
        child ∈ node.children → ¬ Within (.table attributes' key rows') child := by
      rintro attributes rows child attributes' rows' rfl inside within
      exact apart key List.mem_cons_self key
        (List.mem_flatMap.mpr ⟨child, inside, (tableKeys_sublist within).subset (isKey _ _)⟩) rfl
    cases first with
    | self =>
      cases second with
      | self => rfl
      | child inside within => exact absurd within (notBelow _ _ _ _ _ rfl inside)
    | @child left _ leftInside leftWithin =>
      cases second with
      | self => exact absurd leftWithin (notBelow _ _ _ _ _ rfl leftInside)
      | @child right _ rightInside rightWithin =>
        obtain ⟨eachOnce, disjoint⟩ := List.nodup_flatMap.mp inChildren
        by_cases same : left = right
        · subst same
          exact inductionHypothesis left leftInside (eachOnce left leftInside) _ _ _ _ _ leftWithin
            rightWithin
        · have symmetric : Std.Symm (Function.onFun List.Disjoint tableKeys) :=
            ⟨fun _ _ apart _ isLeft isRight => apart isRight isLeft⟩
          have noShared := disjoint.forall leftInside rightInside same
          exact absurd ((tableKeys_sublist rightWithin).subset (isKey _ _))
            (noShared ((tableKeys_sublist leftWithin).subset (isKey _ _)))

/-! ## Trees without keys -/

/-- The values of nodes, each without its keys. -/
theorem unkeyedAll_eq_map (nodes : List Node) : unkeyedAll nodes = nodes.map unkeyed := by
  induction nodes with
  | nil => rfl
  | cons node rest inductionHypothesis => rw [unkeyedAll, inductionHypothesis, List.map_cons]

/-- A tree without keys has none to forget. -/
theorem unkeyed_unkeyed (node : Node) : node.unkeyed.unkeyed = node.unkeyed := by
  induction node using inductionChildren with
  | step node inductionHypothesis =>
    have same : (unkeyedAll (unkeyedAll node.children)) = unkeyedAll node.children := by
      simp only [unkeyedAll_eq_map, List.map_map]
      exact List.map_congr_left inductionHypothesis
    cases node <;> simp_all [unkeyed, children]

end OutlineWiki.Node
