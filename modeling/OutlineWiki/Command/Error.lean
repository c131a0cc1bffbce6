import OutlineWiki.Document.Failure
import OutlineWiki.Document.Source
import OutlineWiki.Fault
import OutlineWiki.Options
import OutlineWiki.Settings.Discover

/-!
# What stops a command

Everything that can go wrong between the arguments and the output. Most of it is a fault with an exit
code and a text; a few things are not foreseen as faults and stop the command where they happen: a value of a
wrong type inside the tree, a path that no file can have, a content that is no text, something in a text at
which its reader stops, and a project file in which no section can be looked for.
-/

namespace OutlineWiki.Command

/-- Why a command did not do what it was asked to. -/
inductive Error where
  | settings (error : Settings.LoadError)
  | configuration (error : ConfigurationError)
  | file (fault : Files.Fault)
  | reading (error : SourceError)
  | rendering (failure : Failure)
  | unwritable (path : String)
deriving Repr

/-- The fault that what the system says about a path is reported as. -/
def fileFault? (fault : Files.Fault) : Option Fault :=
  if fault.reason.number?.isSome then some { kind := .file, message := fault.message } else none

/-- The fault that an error is reported as. -/
def Error.fault? : Error → Option Fault
  | .settings (.noSections _ _) | .settings (.stopped _ _) => none
  | .settings (.unreachable fault) => fileFault? fault
  | .settings error => some { kind := .argument, message := error.message }
  | .configuration error => some { kind := .validation, message := error.message }
  | .file fault => fileFault? fault
  | .reading (.parsing error) => some { kind := .parsing, message := error.message }
  | .reading (.stopped _) => none
  | .rendering .strayRow => Failure.strayRow.message?.map fun message => { kind := .rendering, message }
  | .rendering _ => none
  | .unwritable path => some (.unwritable path "")

end OutlineWiki.Command
