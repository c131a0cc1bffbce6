/-!
# Faults

The faults this tool reports of its own accord, told apart by what went wrong: each kind ends a
command with an exit code of its own. A fault carries the text that its reader gets to see.
-/

namespace OutlineWiki

/-- What went wrong. -/
inductive FaultKind where
  /-- A fault of no closer kind. -/
  | general
  /-- An option or a setting is not acceptable. -/
  | validation
  /-- An argument, or a settings file that it names, is not usable. -/
  | argument
  /-- The system refused a file. -/
  | file
  /-- The output could not be written. -/
  | output
  /-- The input is not a document tree. -/
  | parsing
  /-- The document tree cannot be rendered. -/
  | rendering
deriving DecidableEq, Inhabited, Repr

/-- The exit code of a command that a fault of this kind ends. -/
def FaultKind.exitCode : FaultKind → Nat
  | .general => 1
  | .validation | .argument => 3
  | .file | .output => 4
  | .parsing => 6
  | .rendering => 7

/-- A fault and what it says. -/
structure Fault where
  kind : FaultKind
  message : String
deriving DecidableEq, Inhabited, Repr

namespace Fault

/-- The exit code of a command that this fault ends. -/
def exitCode (fault : Fault) : Nat :=
  fault.kind.exitCode

/-- The fault of an output that could not be written, with a text of its own unless one is given. -/
def unwritable (path message : String) : Fault where
  kind := .output
  message := if message = "" then "Failed to write output file: " ++ path else message

/-- The fault of options that belong to something else than the renderer they are given to. -/
def wrongOptions (renderer expected received : String) : Fault where
  kind := .validation
  message := renderer ++ " renderer needs '" ++ expected ++ "' options, got '" ++ received ++ "'."

end Fault

end OutlineWiki
