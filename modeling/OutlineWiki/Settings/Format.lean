import OutlineWiki.Files.Path
import OutlineWiki.Json.Reader
import OutlineWiki.Toml.Reader
import OutlineWiki.Yaml.Reader

/-!
# Formats of settings files

A settings file is written in TOML, YAML or JSON, told apart by the suffix of its name. All three are read into
the same values. The readers of TOML and YAML are not part of the tool but given to it: it relies on nothing
about them but that they give a value or refuse. A reader can also stop at something in a text that it does not
call malformed, as a number that is too long.
-/

namespace OutlineWiki.Settings

/-- Why a reader gives no value for a text: the text is not in its format, or the reader stops at something in
it. -/
inductive Refusal where
  | malformed (detail : String)
  | stopped (detail : String)
deriving DecidableEq, Repr

/-- The readers of the formats that are not the tool's own. -/
structure Readers where
  toml : String → Except Refusal Value
  yaml : String → Except Refusal Value

/-- What a fault of a TOML text is to a command. -/
def refusalOfToml (text : String) (fault : Toml.Fault) : Refusal :=
  let detail := fault.message text.toList
  match fault with
  | .malformed _ => .malformed detail
  | .manyDigits _ => .stopped detail

/-- What a fault of a YAML text is to a command. -/
def refusalOfYaml (text : String) (fault : Yaml.Fault) : Refusal :=
  let detail := fault.message text.toList
  match fault with
  | .malformed _ => .malformed detail
  | .manyDigits _ | .noSuchTimestamp | .noSuchCharacter => .stopped detail

/-- The readers that a command has unless it is given others. -/
def Readers.usual (halves : Halves) : Readers where
  toml text := (Toml.parse text).mapError (refusalOfToml text)
  yaml text := (Yaml.parse halves text).mapError (refusalOfYaml text)

instance : Inhabited Readers :=
  ⟨.usual default⟩

/-- A format of settings files. -/
inductive Format where
  | toml
  | yaml
  | json
deriving DecidableEq, Inhabited, Repr

namespace Format

/-- The name of a format in messages. -/
def label : Format → String
  | .toml => "TOML"
  | .yaml => "YAML"
  | .json => "JSON"

/-- The format that a suffix in lower case stands for. -/
def ofSuffix? : String → Option Format
  | ".toml" => some .toml
  | ".yaml" => some .yaml
  | ".yml" => some .yaml
  | ".json" => some .json
  | _ => none

/-- The value that a JSON text stands for, or why its reader gives none. -/
def parseJson (halves : Halves) (text : String) : Except Refusal Value :=
  match Json.parse text (.usual halves) with
  | .ok value => .ok (.ofJson value)
  | .error fault => .error (if fault.cause.isOfText then .malformed fault.message else .stopped fault.message)

/-- The value that a text in a format stands for, or why its reader gives none. -/
def parse (format : Format) (readers : Readers) (halves : Halves) (text : String) : Except Refusal Value :=
  match format with
  | .toml => readers.toml text
  | .yaml => readers.yaml text
  | .json => parseJson halves text

end Format

end OutlineWiki.Settings
