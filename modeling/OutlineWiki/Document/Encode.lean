import OutlineWiki.Document.Node

/-!
# Trees as JSON

A node is written as an object: its kind under `node_type`, its own fields in a fixed order, then
its metadata and its source location if it has them. The root object also tells the version of this
form.
-/

namespace OutlineWiki

/-- The version of the JSON form of a tree. -/
def schemaVersion : Int := 1

/-- A member that is left out when its value is null. -/
def optionalMember (key : String) : Json → List (String × Json)
  | .null => []
  | value => [(key, value)]

/-- A member that is left out when it has no members of its own. -/
def metadataMember : List (String × Json) → List (String × Json)
  | [] => []
  | metadata => [("metadata", .object metadata)]

/-- A source location as an object. -/
def SourceLocation.toJson (location : SourceLocation) : Json :=
  .object (("format", .string location.format) :: (optionalMember "line" location.line ++
    optionalMember "column" location.column ++ metadataMember location.metadata))

/-- The members for what a node carries beside its fields. -/
def Attributes.members (attributes : Attributes) : List (String × Json) :=
  metadataMember attributes.metadata ++
    (attributes.location.map fun location => ("source_location", location.toJson)).toList

/-- The object of a node, from its kind, its fields and what it carries beside them. -/
def nodeMembers (kind : Kind) (fields : List (String × Json)) (attributes : Attributes) :
    List (String × Json) :=
  ("node_type", .string kind.name) :: (fields ++ attributes.members)

namespace Node

mutual

/-- The members of a node's object. -/
def members : Node → List (String × Json)
  | .document attributes children =>
    nodeMembers .document [("children", .array (toJsonAll children))] attributes
  | .heading attributes level content =>
    nodeMembers .heading [("level", level), ("content", .array (toJsonAll content))] attributes
  | .paragraph attributes content =>
    nodeMembers .paragraph [("content", .array (toJsonAll content))] attributes
  | .codeBlock attributes content language =>
    nodeMembers .codeBlock [("content", content), ("language", language)] attributes
  | .blockQuote attributes children =>
    nodeMembers .blockQuote [("children", .array (toJsonAll children))] attributes
  | .list attributes ordered start items =>
    nodeMembers .list [("ordered", ordered), ("items", .array (toJsonAll items)), ("start", start)]
      attributes
  | .listItem attributes children =>
    nodeMembers .listItem [("children", .array (toJsonAll children))] attributes
  | .table attributes _ rows => nodeMembers .table [("rows", .array (toJsonAll rows))] attributes
  | .tableRow attributes _ cells =>
    nodeMembers .tableRow [("cells", .array (toJsonAll cells)), ("row_type", .string "standard")]
      attributes
  | .ruleRow attributes _ =>
    nodeMembers .tableRow [("cells", .array []), ("row_type", .string "rule")] attributes
  | .tableCell attributes content =>
    nodeMembers .tableCell [("content", .array (toJsonAll content))] attributes
  | .thematicBreak attributes => nodeMembers .thematicBreak [] attributes
  | .text attributes content => nodeMembers .text [("content", content)] attributes
  | .styled attributes style content =>
    nodeMembers style.kind [("content", .array (toJsonAll content))] attributes
  | .code attributes content => nodeMembers .code [("content", content)] attributes
  | .link attributes url content =>
    nodeMembers .link [("url", url), ("content", .array (toJsonAll content))] attributes
  | .image attributes url alternative =>
    nodeMembers .image [("url", url), ("alt_text", alternative)] attributes
  | .lineBreak attributes soft => nodeMembers .lineBreak [("soft", soft)] attributes

/-- The objects of a list of nodes. -/
def toJsonAll : List Node → List Json
  | [] => []
  | node :: rest => .object (members node) :: toJsonAll rest

end

/-- A tree as a JSON value. -/
def toJson (node : Node) : Json :=
  .object node.members

/-- A tree as the root of a JSON text, which tells its version. -/
def toVersionedJson (node : Node) : Json :=
  .object (("schema_version", .int schemaVersion) :: node.members)

end Node

end OutlineWiki
