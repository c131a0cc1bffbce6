import OutlineWiki.Document.Decode
import OutlineWiki.Json.Reader
import OutlineWiki.Json.Writer

/-!
# Trees as text

The JSON text of a tree, and the tree of a JSON text. A text fails in one of three stages: it is not
the text of a JSON object, it has another schema version, or its object does not describe a tree. Beside
these there is a way to fail that is no error of the text: its reader stops at a number that is too long.
-/

namespace OutlineWiki

/-- The stage in which a text turned out not to be a tree. -/
inductive ParsingStage where
  | jsonDecode
  | schemaValidation
  | nodeConstruction
deriving DecidableEq, Repr

/-- The name of a stage. -/
def ParsingStage.name : ParsingStage → String
  | .jsonDecode => "json_decode"
  | .schemaValidation => "schema_validation"
  | .nodeConstruction => "node_construction"

/-- Why a text is not a tree. -/
inductive ParsingError where
  | notJson (fault : Json.LocatedFault)
  | notAnObject
  | schemaVersion (found : Json)
  | notATree (error : DecodeError)
deriving Repr

namespace ParsingError

/-- The stage an error belongs to. -/
def stage : ParsingError → ParsingStage
  | .notJson _ | .notAnObject => .jsonDecode
  | .schemaVersion _ => .schemaValidation
  | .notATree _ => .nodeConstruction

/-- What an error says. -/
def message : ParsingError → String
  | .notJson fault => "Invalid JSON document tree: " ++ fault.message
  | .notAnObject => "Document tree JSON must be an object"
  | .schemaVersion found =>
    "Unsupported schema version: " ++ found.shown ++ ". Supported version is " ++
      toString OutlineWiki.schemaVersion ++ "."
  | .notATree error => error.message

end ParsingError

/-- Why a text gives no tree: it is not the text of one, or its reader stops at a number in it. -/
inductive SourceError where
  | parsing (error : ParsingError)
  | stopped (fault : Json.LocatedFault)
deriving Repr

namespace Node

/-- The JSON text of a tree. -/
def source (layout : Json.Layout) (node : Node) : String :=
  Json.write layout node.toVersionedJson

/-- The tree that the value of a text describes. A value without a version counts as one of the supported
version. -/
def ofSource (strictness : Strictness) (value : Json) : Except ParsingError Node :=
  match value with
  | .object members =>
    let version := (Json.member? members "schema_version").getD (.int schemaVersion)
    if version.isOne then
      (ofJson strictness (.object (Json.dropMember members "schema_version"))).mapError .notATree
    else
      .error (.schemaVersion version)
  | _ => .error .notAnObject

/-- The tree of a JSON text, by a reader that takes numbers of any length. -/
def parse (strictness : Strictness) (text : String) : Except ParsingError Node := do
  let value ← (Json.parse text).mapError .notJson
  ofSource strictness value

/-- The tree of a JSON text, by a reader that may have a limit to the length of numbers. -/
def load (strictness : Strictness) (text : String) (reading : Json.Reading) : Except SourceError Node :=
  match Json.parse text reading with
  | .ok value => (ofSource strictness value).mapError .parsing
  | .error fault => .error (if fault.cause.isOfText then .parsing (.notJson fault) else .stopped fault)

/-- The document a tree stands for: itself, or a document that holds it. -/
def asDocument : Node → Node
  | .document attributes children => .document attributes children
  | other => .document {} [other]

end Node

end OutlineWiki
