import OutlineWiki.Files.Tree
import OutlineWiki.Settings.Format

/-!
# Loading settings

A settings file holds named values. In a project file, known by its name, they are the section of
this tool; in every other file they are all there is. An empty YAML or JSON document counts as a file
without values.
-/

namespace OutlineWiki.Settings

open OutlineWiki.Files

/-- The name of this tool's section in a project file. -/
def sectionName : String := "all2trac"

/-- The name of a project file. -/
def projectFileName : String := "pyproject.toml"

/-- Why a file gives no settings. -/
inductive LoadError where
  | missing (path : Path)
  | notAFile (path : Path)
  | unsupportedFormat (path : Path)
  | malformed (path : Path) (format : Format) (detail : String)
  | notAMapping (path : Path) (format : Format) (found : Value)
  | sectionNotATable (path : Path) (found : Value)
  /-- What should hold the sections of all tools is no table, so none can be looked for in it. -/
  | noSections (path : Path) (found : Value)
  /-- The reader stops at something in the file. -/
  | stopped (path : Path) (detail : String)
  /-- The system cannot even say whether the file exists, or its content is no text. -/
  | unreachable (fault : Files.Fault)
deriving Repr

/-- What an error says. -/
def LoadError.message : LoadError → String
  | .missing path => "Configuration file does not exist: " ++ path.text
  | .notAFile path => "Configuration path is not a file: " ++ path.text
  | .unsupportedFormat path =>
    "Unsupported config file format '" ++ path.suffix ++ "' for " ++ path.text ++
      "; use .toml, .yaml, .yml or .json"
  | .malformed path format detail => path.text ++ " is not valid " ++ format.label ++ ": " ++ detail
  | .notAMapping path format found =>
    format.label ++ " config " ++ path.text ++ " must hold a mapping of options, got " ++ found.kindName
  | .sectionNotATable path found =>
    "[tool." ++ sectionName ++ "] in " ++ path.text ++ " must be a table, got " ++ found.kindName
  | .noSections _ found => "'" ++ found.kindName ++ "' object has no attribute 'get'"
  | .stopped _ detail => detail
  | .unreachable fault => fault.message

/-- Whether an error is none that a command foresees in a file: it is not passed over when the file is only
looked at on the way to another one. -/
def LoadError.escapes : LoadError → Bool
  | .noSections _ _ | .stopped _ _ | .unreachable _ => true
  | _ => false

section

variable (readers : Readers) (tree : Tree) (current : Place) (path : Path)

/-- The values in the content of a file. -/
def valuesOf (format : Format) (content : String) : Except LoadError Values := do
  let text ← (tree.textOf path content).mapError .unreachable
  match format.parse readers tree.halves text with
  | .error (.malformed detail) => throw (.malformed path format detail)
  | .error (.stopped detail) => throw (.stopped path detail)
  | .ok .null => return []
  | .ok (.table members) => return members
  | .ok other => throw (.notAMapping path format other)

/-- This tool's section among the values of a project file; a section that is not there is empty. -/
def sectionOf (project : Values) : Except LoadError Values :=
  match Value.member? project "tool" with
  | none => .ok []
  | some (.table tools) =>
    match Value.member? tools sectionName with
    | none => .ok []
    | some (.table values) => .ok values
    | some other => .error (.sectionNotATable path other)
  | some other => .error (.noSections path other)

/-- The values in the content of a project file. -/
def projectValuesOf (content : String) : Except LoadError Values := do
  sectionOf path (← valuesOf readers tree path .toml content)

/-- Whether a path names a project file; upper and lower case do not matter. -/
def isProjectFile : Bool :=
  Text.lower path.name == projectFileName

/-- The values of the file that a path leads to. -/
def load : Except LoadError Values := do
  match ← (tree.look current path).mapError .unreachable with
  | none => throw (.missing path)
  | some .directory => throw (.notAFile path)
  | some (.file content) =>
    if isProjectFile path then projectValuesOf readers tree path content
    else
      match Format.ofSuffix? path.suffix with
      | none => throw (.unsupportedFormat path)
      | some format => valuesOf readers tree path format content

end

end OutlineWiki.Settings
