import OutlineWiki.Document.Encode
import OutlineWiki.Document.Identity

/-!
# Trees from JSON

Reading a tree from a JSON value. Child lists have to be lists of node objects, required fields have
to be present, a heading's level is a number from one to six, and a rule row has no cells; all other
fields are taken as they are, and members that a kind does not know are ignored. An object of an
unknown kind is refused, or replaced by a text that says so.
-/

namespace OutlineWiki

/-- Why a JSON value is not a tree. -/
inductive DecodeError where
  | notAnObject (found : Json)
  | unknownKind (found : Json)
  | childrenNotAList (kind : Kind) (field : String) (found : Json)
  | metadataNotAnObject (kind : Kind)
  | badLocation
  | locationMetadataNotAnObject
  | missingField (kind : Kind) (field : String)
  | levelNotANumber (found : Json)
  | levelOutOfRange (found : Json)
  | badRowType (found : Json)
  | cellsInRule
deriving Inhabited, Repr, BEq

/-- What an error in a tree says. -/
def DecodeError.message : DecodeError → String
  | .notAnObject found => "Expected a node object, got " ++ found.kindName
  | .unknownKind found => "Unknown node type: " ++ found.shown
  | .childrenNotAList kind field found =>
    "Field '" ++ field ++ "' of " ++ kind.name ++ " must be a list, got " ++ found.kindName
  | .metadataNotAnObject kind => "Metadata of " ++ kind.name ++ " must be an object"
  | .badLocation => "source_location must be an object with a string 'format'"
  | .locationMetadataNotAnObject => "source_location metadata must be an object"
  | .missingField kind field =>
    "Missing or invalid fields for " ++ kind.name ++ ": " ++ kind.name ++
      ".__init__() missing 1 required positional argument: '" ++ field ++ "'"
  | .levelNotANumber found =>
    "Missing or invalid fields for Heading: '<=' not supported between instances of 'int' and '" ++
      found.kindName ++ "'"
  | .levelOutOfRange found => "Heading level must be 1-6, got " ++ found.shown
  | .badRowType found => "Table row type must be 'standard' or 'rule', got " ++ found.quoted
  | .cellsInRule => "Rule rows cannot contain cells"

/-- Whether objects of an unknown kind are refused or replaced. -/
inductive Strictness where
  | strict
  | lenient
deriving DecidableEq, Inhabited, Repr

/-- A heading's level is a number from one to six; true counts as one. -/
def checkLevel : Json → Except DecodeError Unit
  | .bool value => if value then .ok () else .error (.levelOutOfRange (.bool value))
  | .int value => if 1 ≤ value ∧ value ≤ 6 then .ok () else .error (.levelOutOfRange (.int value))
  | .float value =>
    if value.atLeast 1 && value.atMost 6 then .ok () else .error (.levelOutOfRange (.float value))
  | other => .error (.levelNotANumber other)

/-- The source location that an object describes. -/
def SourceLocation.ofJson : Json → Except DecodeError SourceLocation
  | .object members =>
    match Json.member? members "format" with
    | some (.string format) =>
      match (Json.member? members "metadata").getD (.object []) with
      | .object metadata =>
        .ok {
          format
          line := (Json.member? members "line").getD .null
          column := (Json.member? members "column").getD .null
          metadata }
      | _ => .error .locationMetadataNotAnObject
    | _ => .error .badLocation
  | _ => .error .badLocation

/-- What a node's object says beside its fields; empty metadata and an empty location count as none. -/
def Attributes.ofMembers (kind : Kind) (members : List (String × Json)) :
    Except DecodeError Attributes := do
  let metadata ←
    match (Json.member? members "metadata").getD .null with
    | .object metadata => pure metadata
    | other => if other.isTruthy then throw (.metadataNotAnObject kind) else pure []
  let described := (Json.member? members "source_location").getD .null
  let location ←
    if described.isTruthy then some <$> SourceLocation.ofJson described else pure none
  return { metadata, location }

/-- A field that has to be present. -/
def requiredField (kind : Kind) (members : List (String × Json)) (field : String) :
    Except DecodeError Json :=
  match Json.member? members field with
  | some value => .ok value
  | none => .error (.missingField kind field)

/-- The children under a field, already decoded wherever a member is a list; none if it is absent. -/
def childrenUnder (kind : Kind) (members : List (String × Json))
    (decoded : List (String × Except DecodeError (List Node))) (field : String) :
    Except DecodeError (List Node) :=
  match Json.member? members field with
  | none => .ok []
  | some (.array _) => (decoded.lookup field).getD (.ok [])
  | some other => .error (.childrenNotAList kind field other)

/-- The node of a kind, from its object's members, its children and its attributes. -/
def Node.ofParts (kind : Kind) (members : List (String × Json)) (children : List Node)
    (attributes : Attributes) : Except DecodeError Node :=
  let valueOr (field : String) (default : Json) := (Json.member? members field).getD default
  match kind with
  | .document => .ok (.document attributes children)
  | .heading => do
    let level ← requiredField kind members "level"
    checkLevel level
    return .heading attributes level children
  | .paragraph => .ok (.paragraph attributes children)
  | .codeBlock => do
    let content ← requiredField kind members "content"
    return .codeBlock attributes content (valueOr "language" .null)
  | .blockQuote => .ok (.blockQuote attributes children)
  | .list => do
    let ordered ← requiredField kind members "ordered"
    return .list attributes ordered (valueOr "start" (.int 1)) children
  | .listItem => .ok (.listItem attributes children)
  | .table => .ok (.table attributes 0 children)
  | .tableRow =>
    match valueOr "row_type" (.string "standard") with
    | .string rowType =>
      if rowType = "standard" then .ok (.tableRow attributes 0 children)
      else if rowType = "rule" then
        if children.isEmpty then .ok (.ruleRow attributes 0) else .error .cellsInRule
      else .error (.badRowType (.string rowType))
    | other => .error (.badRowType other)
  | .tableCell => .ok (.tableCell attributes children)
  | .thematicBreak => .ok (.thematicBreak attributes)
  | .text => do
    let content ← requiredField kind members "content"
    return .text attributes content
  | .emphasis => .ok (.styled attributes .emphasis children)
  | .strong => .ok (.styled attributes .strong children)
  | .code => do
    let content ← requiredField kind members "content"
    return .code attributes content
  | .link => do
    let url ← requiredField kind members "url"
    return .link attributes url children
  | .image => do
    let url ← requiredField kind members "url"
    return .image attributes url (valueOr "alt_text" (.string ""))
  | .lineBreak => .ok (.lineBreak attributes (valueOr "soft" (.bool false)))
  | .strikethrough => .ok (.styled attributes .strikethrough children)
  | .superscript => .ok (.styled attributes .superscript children)
  | .subscript => .ok (.styled attributes .subscript children)

/-- The kind an object names under `node_type`. -/
def kindOf? (members : List (String × Json)) : Option Kind :=
  match Json.member? members "node_type" with
  | some (.string name) => Kind.ofName? name
  | _ => none

/-- The text that stands for an object of an unknown kind. -/
def placeholder (found : Json) : Node :=
  .text {} (.string ("[Unknown node type: " ++ found.shown ++ "]"))

/-- The node of an object, from its members and the children decoded from them. Its children are
settled first, then its attributes, then its own fields. -/
def Node.ofMembers (strictness : Strictness) (members : List (String × Json))
    (decoded : List (String × Except DecodeError (List Node))) : Except DecodeError Node :=
  match kindOf? members with
  | none =>
    let found := (Json.member? members "node_type").getD .null
    match strictness with
    | .strict => .error (.unknownKind found)
    | .lenient => .ok (placeholder found)
  | some kind => do
    let children ←
      match kind.childField? with
      | some field => childrenUnder kind members decoded field
      | none => pure []
    let attributes ← Attributes.ofMembers kind members
    Node.ofParts kind members children attributes

namespace Node

mutual

/-- The tree that a JSON value describes. Its tables and rows have no keys yet. -/
def decode (strictness : Strictness) : Json → Except DecodeError Node
  | .object members => ofMembers strictness members (decodeLists strictness members)
  | other => .error (.notAnObject other)

/-- The trees that a list of JSON values describes, or the first error among them. -/
def decodeAll (strictness : Strictness) : List Json → Except DecodeError (List Node)
  | [] => .ok []
  | value :: rest => do
    let node ← decode strictness value
    let nodes ← decodeAll strictness rest
    return node :: nodes

/-- Every member that is a list, decoded as a list of nodes. -/
def decodeLists (strictness : Strictness) :
    List (String × Json) → List (String × Except DecodeError (List Node))
  | [] => []
  | (key, .array items) :: rest => (key, decodeAll strictness items) :: decodeLists strictness rest
  | _ :: rest => decodeLists strictness rest

end

/-- The tree that a JSON value describes, with keys of which no two are equal. -/
def ofJson (strictness : Strictness) (value : Json) : Except DecodeError Node :=
  (decode strictness value).map numbered

end Node

end OutlineWiki
