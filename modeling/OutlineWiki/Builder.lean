import OutlineWiki.Document.Decode
import OutlineWiki.Document.Failure

/-!
# Building trees

Tables and documents put together piece by piece. The content of a cell, a heading or a paragraph is
given as a text, a node, or several nodes.
-/

namespace OutlineWiki

/-- Inline content in the forms in which it can be given; any other value is unusable. -/
inductive InlineSpec where
  | text (words : String)
  | node (value : Node)
  | nodes (values : List Node)
  | unusable
deriving Inhabited, Repr

/-- The nodes of inline content; an empty text gives none. -/
def InlineSpec.content : InlineSpec → Except Failure (List Node)
  | .text words => .ok (if words = "" then [] else [.text {} (.string words)])
  | .node value => .ok [value]
  | .nodes values => .ok values
  | .unusable => .error .wrongType

/-- A row of a table as it is added: cells, or a rule. -/
inductive RowSpec where
  | cells (specs : List InlineSpec)
  | rule
deriving Inhabited, Repr

/-- The row that a specification describes, without a key. -/
def RowSpec.row : RowSpec → Except Failure Node
  | .cells specs => do
    let contents ← specs.mapM InlineSpec.content
    return .tableRow {} 0 (contents.map fun content => .tableCell {} content)
  | .rule => .ok (.ruleRow {} 0)

/-- The table that rows make, without keys. -/
def tableOf (rows : List RowSpec) : Except Failure Node := do
  return .table {} 0 (← rows.mapM RowSpec.row)

/-- Why a block cannot be added. -/
inductive BuildError where
  | content (failure : Failure)
  | heading (error : DecodeError)
deriving Inhabited, Repr

/-- A document under construction. -/
structure DocumentBuilder where
  children : List Node := []
deriving Inhabited, Repr

namespace DocumentBuilder

/-- Adds a block at the end. -/
def add (builder : DocumentBuilder) (node : Node) : DocumentBuilder :=
  { children := builder.children ++ [node] }

/-- Adds a heading; its content is settled before its level is checked. -/
def addHeading (builder : DocumentBuilder) (level : Json) (spec : InlineSpec) :
    Except BuildError DocumentBuilder := do
  let content ← spec.content.mapError .content
  (checkLevel level).mapError .heading
  return builder.add (.heading {} level content)

/-- Adds a paragraph. -/
def addParagraph (builder : DocumentBuilder) (spec : InlineSpec) : Except BuildError DocumentBuilder := do
  return builder.add (.paragraph {} (← spec.content.mapError .content))

/-- Adds a code block; null stands for no language. -/
def addCode (builder : DocumentBuilder) (content language : Json) : DocumentBuilder :=
  builder.add (.codeBlock {} content language)

/-- Adds a table made of rows. -/
def addTable (builder : DocumentBuilder) (rows : List RowSpec) : Except BuildError DocumentBuilder := do
  return builder.add (← (tableOf rows).mapError .content)

/-- The document built so far, its tables and rows all different. -/
def document (builder : DocumentBuilder) : Node :=
  (Node.document {} builder.children).numbered

end DocumentBuilder

end OutlineWiki
