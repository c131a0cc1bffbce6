import OutlineWiki.Document.Kind
import OutlineWiki.Json.Basic

/-!
# Document trees

The tree that an outline parser hands over. Blocks structure the document, inline nodes format its
text. A table keeps every row of its source in order, rules and layout rows included.

Child lists are typed, but a scalar field holds the value as it was written: nothing checks it when
the tree is read, and only its use shows whether it suits.

Tables and rows have an identity of their own, given by a key. Two rows with equal cells are
different rows when their keys differ, and the same row can stand in several tables.
-/

namespace OutlineWiki

/-- Where in its source a node was found. -/
structure SourceLocation where
  format : String
  line : Json := .null
  column : Json := .null
  metadata : List (String × Json) := []
deriving Inhabited, Repr, BEq

/-- What any node can carry beside its own fields. -/
structure Attributes where
  metadata : List (String × Json) := []
  location : Option SourceLocation := none
deriving Inhabited, Repr, BEq

/-- Inline formatting that only encloses its content. -/
inductive Style where
  | emphasis
  | strong
  | strikethrough
  | superscript
  | subscript
deriving DecidableEq, Inhabited, Repr

/-- A node of a document tree. A rule row stands for a horizontal line and has no cells. -/
inductive Node where
  | document (attributes : Attributes) (children : List Node)
  | heading (attributes : Attributes) (level : Json) (content : List Node)
  | paragraph (attributes : Attributes) (content : List Node)
  | codeBlock (attributes : Attributes) (content language : Json)
  | blockQuote (attributes : Attributes) (children : List Node)
  | list (attributes : Attributes) (ordered start : Json) (items : List Node)
  | listItem (attributes : Attributes) (children : List Node)
  | table (attributes : Attributes) (key : Nat) (rows : List Node)
  | tableRow (attributes : Attributes) (key : Nat) (cells : List Node)
  | ruleRow (attributes : Attributes) (key : Nat)
  | tableCell (attributes : Attributes) (content : List Node)
  | thematicBreak (attributes : Attributes)
  | text (attributes : Attributes) (content : Json)
  | styled (attributes : Attributes) (style : Style) (content : List Node)
  | code (attributes : Attributes) (content : Json)
  | link (attributes : Attributes) (url : Json) (content : List Node)
  | image (attributes : Attributes) (url alternative : Json)
  | lineBreak (attributes : Attributes) (soft : Json)
deriving Inhabited, Repr, BEq

/-- The kind of a node that a style makes. -/
def Style.kind : Style → Kind
  | .emphasis => .emphasis
  | .strong => .strong
  | .strikethrough => .strikethrough
  | .superscript => .superscript
  | .subscript => .subscript

namespace Node

/-- The kind of a node; both sorts of rows are table rows. -/
def kind : Node → Kind
  | .document .. => .document
  | .heading .. => .heading
  | .paragraph .. => .paragraph
  | .codeBlock .. => .codeBlock
  | .blockQuote .. => .blockQuote
  | .list .. => .list
  | .listItem .. => .listItem
  | .table .. => .table
  | .tableRow .. | .ruleRow .. => .tableRow
  | .tableCell .. => .tableCell
  | .thematicBreak .. => .thematicBreak
  | .text .. => .text
  | .styled _ style _ => style.kind
  | .code .. => .code
  | .link .. => .link
  | .image .. => .image
  | .lineBreak .. => .lineBreak

/-- The children of a node in order. Code blocks, texts and the other leaves have none. -/
def children : Node → List Node
  | .document _ children | .blockQuote _ children | .listItem _ children => children
  | .heading _ _ content | .paragraph _ content | .tableCell _ content | .styled _ _ content
  | .link _ _ content => content
  | .list _ _ _ items => items
  | .table _ _ rows => rows
  | .tableRow _ _ cells => cells
  | .codeBlock .. | .ruleRow .. | .thematicBreak .. | .text .. | .code .. | .image .. | .lineBreak .. => []

/-- What a node carries beside its fields. -/
def attributes : Node → Attributes
  | .document attributes _ | .heading attributes _ _ | .paragraph attributes _
  | .codeBlock attributes _ _ | .blockQuote attributes _ | .list attributes _ _ _
  | .listItem attributes _ | .table attributes _ _ | .tableRow attributes _ _
  | .ruleRow attributes _ | .tableCell attributes _ | .thematicBreak attributes
  | .text attributes _ | .styled attributes _ _ | .code attributes _ | .link attributes _ _
  | .image attributes _ _ | .lineBreak attributes _ => attributes

end Node

end OutlineWiki
