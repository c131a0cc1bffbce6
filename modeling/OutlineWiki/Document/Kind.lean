/-!
# Kinds of nodes

The twenty-one kinds of nodes of a document tree and the names under which they are handed over.
-/

namespace OutlineWiki

/-- The kind of a node. Blocks come first, then the parts of a table, then inline nodes. -/
inductive Kind where
  | document
  | heading
  | paragraph
  | codeBlock
  | blockQuote
  | list
  | listItem
  | table
  | tableRow
  | tableCell
  | thematicBreak
  | text
  | emphasis
  | strong
  | code
  | link
  | image
  | lineBreak
  | strikethrough
  | superscript
  | subscript
deriving DecidableEq, Repr

namespace Kind

/-- Every kind once. -/
def all : List Kind :=
  [.document, .heading, .paragraph, .codeBlock, .blockQuote, .list, .listItem, .table, .tableRow,
    .tableCell, .thematicBreak, .text, .emphasis, .strong, .code, .link, .image, .lineBreak,
    .strikethrough, .superscript, .subscript]

/-- The name of a kind in a document tree. -/
def name : Kind → String
  | .document => "Document"
  | .heading => "Heading"
  | .paragraph => "Paragraph"
  | .codeBlock => "CodeBlock"
  | .blockQuote => "BlockQuote"
  | .list => "List"
  | .listItem => "ListItem"
  | .table => "Table"
  | .tableRow => "TableRow"
  | .tableCell => "TableCell"
  | .thematicBreak => "ThematicBreak"
  | .text => "Text"
  | .emphasis => "Emphasis"
  | .strong => "Strong"
  | .code => "Code"
  | .link => "Link"
  | .image => "Image"
  | .lineBreak => "LineBreak"
  | .strikethrough => "Strikethrough"
  | .superscript => "Superscript"
  | .subscript => "Subscript"

/-- The kind with a name. -/
def ofName? (name : String) : Option Kind :=
  all.find? (·.name == name)

/-- The name of a kind leads back to it. -/
@[simp] theorem ofName?_name (kind : Kind) : ofName? kind.name = some kind := by
  cases kind <;> rfl

/-- The field that holds the children of a node of this kind, if it can have children. -/
def childField? : Kind → Option String
  | .document | .blockQuote | .listItem => some "children"
  | .heading | .paragraph | .tableCell | .emphasis | .strong | .link | .strikethrough | .superscript
  | .subscript => some "content"
  | .list => some "items"
  | .table => some "rows"
  | .tableRow => some "cells"
  | .codeBlock | .thematicBreak | .text | .code | .image | .lineBreak => none

/-- The fields of a kind that hold a value, in the order in which a constructor takes them. -/
def valueFields : Kind → List String
  | .heading => ["level"]
  | .codeBlock => ["content", "language"]
  | .list => ["ordered", "start"]
  | .tableRow => ["row_type"]
  | .text | .code => ["content"]
  | .link => ["url"]
  | .image => ["url", "alt_text"]
  | .lineBreak => ["soft"]
  | .document | .paragraph | .blockQuote | .listItem | .table | .tableCell | .thematicBreak | .emphasis
  | .strong | .strikethrough | .superscript | .subscript => []

end Kind

end OutlineWiki
