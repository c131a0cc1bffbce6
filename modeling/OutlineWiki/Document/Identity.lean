import OutlineWiki.Document.Node

/-!
# The identity of tables and rows

A tree that was just read shares nothing: `Node.numbered` gives every table and every row a key of
its own, counting in the order of the text. `Node.unkeyed` forgets the keys, so two trees have the
same value when they are equal without keys.
-/

namespace OutlineWiki.Node

mutual

/-- The tree with fresh keys from a number on, and the first number that is still free. -/
def numberFrom (next : Nat) : Node → Node × Nat
  | .document attributes children =>
    let (children, free) := numberAllFrom next children
    (.document attributes children, free)
  | .heading attributes level content =>
    let (content, free) := numberAllFrom next content
    (.heading attributes level content, free)
  | .paragraph attributes content =>
    let (content, free) := numberAllFrom next content
    (.paragraph attributes content, free)
  | .blockQuote attributes children =>
    let (children, free) := numberAllFrom next children
    (.blockQuote attributes children, free)
  | .list attributes ordered start items =>
    let (items, free) := numberAllFrom next items
    (.list attributes ordered start items, free)
  | .listItem attributes children =>
    let (children, free) := numberAllFrom next children
    (.listItem attributes children, free)
  | .table attributes _ rows =>
    let (rows, free) := numberAllFrom (next + 1) rows
    (.table attributes next rows, free)
  | .tableRow attributes _ cells =>
    let (cells, free) := numberAllFrom (next + 1) cells
    (.tableRow attributes next cells, free)
  | .ruleRow attributes _ => (.ruleRow attributes next, next + 1)
  | .tableCell attributes content =>
    let (content, free) := numberAllFrom next content
    (.tableCell attributes content, free)
  | .styled attributes style content =>
    let (content, free) := numberAllFrom next content
    (.styled attributes style content, free)
  | .link attributes url content =>
    let (content, free) := numberAllFrom next content
    (.link attributes url content, free)
  | .codeBlock attributes content language => (.codeBlock attributes content language, next)
  | .thematicBreak attributes => (.thematicBreak attributes, next)
  | .text attributes content => (.text attributes content, next)
  | .code attributes content => (.code attributes content, next)
  | .image attributes url alternative => (.image attributes url alternative, next)
  | .lineBreak attributes soft => (.lineBreak attributes soft, next)

/-- The trees with fresh keys from a number on, and the first number that is still free. -/
def numberAllFrom (next : Nat) : List Node → List Node × Nat
  | [] => ([], next)
  | node :: rest =>
    let (node, free) := numberFrom next node
    let (rest, free) := numberAllFrom free rest
    (node :: rest, free)

end

/-- The tree with keys of which no two are equal. -/
def numbered (node : Node) : Node :=
  (numberFrom 0 node).1

mutual

/-- The tree with every key set to zero: its value alone. -/
def unkeyed : Node → Node
  | .document attributes children => .document attributes (unkeyedAll children)
  | .heading attributes level content => .heading attributes level (unkeyedAll content)
  | .paragraph attributes content => .paragraph attributes (unkeyedAll content)
  | .blockQuote attributes children => .blockQuote attributes (unkeyedAll children)
  | .list attributes ordered start items => .list attributes ordered start (unkeyedAll items)
  | .listItem attributes children => .listItem attributes (unkeyedAll children)
  | .table attributes _ rows => .table attributes 0 (unkeyedAll rows)
  | .tableRow attributes _ cells => .tableRow attributes 0 (unkeyedAll cells)
  | .ruleRow attributes _ => .ruleRow attributes 0
  | .tableCell attributes content => .tableCell attributes (unkeyedAll content)
  | .styled attributes style content => .styled attributes style (unkeyedAll content)
  | .link attributes url content => .link attributes url (unkeyedAll content)
  | .codeBlock attributes content language => .codeBlock attributes content language
  | .thematicBreak attributes => .thematicBreak attributes
  | .text attributes content => .text attributes content
  | .code attributes content => .code attributes content
  | .image attributes url alternative => .image attributes url alternative
  | .lineBreak attributes soft => .lineBreak attributes soft

/-- The trees without their keys. -/
def unkeyedAll : List Node → List Node
  | [] => []
  | node :: rest => unkeyed node :: unkeyedAll rest

end

mutual

/-- Keys are no part of a tree's value. -/
theorem unkeyed_numberFrom (next : Nat) : (node : Node) → unkeyed (numberFrom next node).1 = unkeyed node
  | .document _ children => by simp [numberFrom, unkeyed, unkeyedAll_numberAllFrom next children]
  | .heading _ _ content => by simp [numberFrom, unkeyed, unkeyedAll_numberAllFrom next content]
  | .paragraph _ content => by simp [numberFrom, unkeyed, unkeyedAll_numberAllFrom next content]
  | .blockQuote _ children => by simp [numberFrom, unkeyed, unkeyedAll_numberAllFrom next children]
  | .list _ _ _ items => by simp [numberFrom, unkeyed, unkeyedAll_numberAllFrom next items]
  | .listItem _ children => by simp [numberFrom, unkeyed, unkeyedAll_numberAllFrom next children]
  | .table _ _ rows => by simp [numberFrom, unkeyed, unkeyedAll_numberAllFrom (next + 1) rows]
  | .tableRow _ _ cells => by simp [numberFrom, unkeyed, unkeyedAll_numberAllFrom (next + 1) cells]
  | .ruleRow _ _ => rfl
  | .tableCell _ content => by simp [numberFrom, unkeyed, unkeyedAll_numberAllFrom next content]
  | .styled _ _ content => by simp [numberFrom, unkeyed, unkeyedAll_numberAllFrom next content]
  | .link _ _ content => by simp [numberFrom, unkeyed, unkeyedAll_numberAllFrom next content]
  | .codeBlock .. | .thematicBreak .. | .text .. | .code .. | .image .. | .lineBreak .. => rfl

/-- Keys are no part of the value of a list of trees. -/
theorem unkeyedAll_numberAllFrom (next : Nat) :
    (nodes : List Node) → unkeyedAll (numberAllFrom next nodes).1 = unkeyedAll nodes
  | [] => rfl
  | node :: rest => by
    simp [numberAllFrom, unkeyedAll, unkeyed_numberFrom next node,
      unkeyedAll_numberAllFrom (numberFrom next node).2 rest]

end

/-- A tree with fresh keys has the value it had before. -/
theorem unkeyed_numbered (node : Node) : unkeyed node.numbered = unkeyed node :=
  unkeyed_numberFrom 0 node

end OutlineWiki.Node
