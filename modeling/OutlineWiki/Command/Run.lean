import OutlineWiki.Command.Arguments
import OutlineWiki.Command.Error
import OutlineWiki.Command.Panel
import OutlineWiki.Renderer

/-!
# Running a command

A command reads settings, reads a document tree, renders it and hands the text on. All that it sees
is a world, a value; all that it does is an outcome: an ending, what it shows, and the files as it
leaves them. The log file is opened first, so that every record reaches it, and the output file is
written last, so that a failing command leaves it alone. Only a markup that no file takes, for it holds halves
of surrogate pairs, comes too late to leave the output file as it was: the file is emptied before its text is
handed to it. Halves come from everywhere, from escapes in the tree and in settings and from bytes of arguments;
the file tree says which characters stand for them.
-/

namespace OutlineWiki.Command

open OutlineWiki.Files
open OutlineWiki.Settings (Readers Standpoint)

/-- What a command sees. -/
structure World where
  place : Standpoint
  /-- The text on standard input; none if what is there is no text. -/
  input : Option String := some ""
  /-- The settings file that the environment names. -/
  environment : Option String := none
  /-- The time that traced records show. -/
  time : String := ""
  readers : Readers := .usual place.tree.halves
deriving Inhabited

/-- The characters that stand for halves of pairs in all texts that a command sees and makes. -/
def World.halves (world : World) : Halves :=
  world.place.tree.halves

/-- How a command ends: with an exit code, with one that the reader of its arguments chose, or with
an error that is no fault. -/
inductive Ending where
  | finished (code : Nat)
  | dismissed (code : Nat)
  | escaped (error : Error)
deriving Repr

/-- What a command does. The texts that it shows are handed to streams, which may take halves of pairs. -/
structure Outcome where
  ending : Ending
  output : String := ""
  errors : String := ""
  tree : Tree
deriving Repr

/-- The name of the command. -/
def commandName : String := "all2trac"

/-- The version of the command. -/
def commandVersion : String := "1.0.0"

/-! ## From the arguments to the text -/

/-- The options that settings and arguments make; an argument wins over a setting. -/
def optionsOf (world : World) (arguments : Arguments) : Except Error Options := do
  let values ←
    if arguments.noConfig then pure []
    else (Settings.inForce world.readers world.place arguments.config world.environment).mapError .settings
  let options ← (({} : Options).configure values).mapError .configuration
  let options := if arguments.preserveBreaks then { options with preserveBreaks := true } else options
  return arguments.languageAliases.foldl (fun options entry => options.addAlias entry.1 entry.2) options

/-- The text that a command reads its tree from: standard input for a dash, else a file. -/
def sourceText (world : World) (name : String) : Except Error String :=
  if name = "-" then
    match world.input with
    | some text => .ok text
    | none => .error (.file { reason := .undecodable, path := .ofString name })
  else (world.place.tree.readText world.place.current (.ofString name)).mapError .file

/-- The tree that a command reads. -/
def loadTree (world : World) (name : String) : Except Error Node := do
  let text ← sourceText world name
  (Node.load .strict text (.usual world.halves)).mapError .reading

/-- What is told about a tree that was read: a document needs no comment. -/
def recordsOfTree (tree : Node) : List Record :=
  match tree.kind with
  | .document => []
  | kind =>
    [{ level := .debug, source := .command, message := "Wrapping " ++ kind.name ++ " root node in a Document" }]

/-- The text of a command, with the records written on the way to it. -/
def produce (world : World) (arguments : Arguments) : List Record × Except Error String :=
  match optionsOf world arguments, loadTree world arguments.input with
  | .error error, _ => ([], .error error)
  | .ok _, .error error => ([], .error error)
  | .ok options, .ok tree =>
    let (result, renderer) := ({ options } : Renderer).renderToString tree.asDocument
    (recordsOfTree tree ++ renderer.state.notices.map .ofNotice, result.mapError .rendering)

/-- Why no file takes the text of a command, if none does: it holds halves of pairs. -/
def unencodable? (world : World) (text : String) : Option Failure :=
  (world.halves.inText? text).map fun found => .unencodable found.1 found.2

/-! ## The log -/

/-- A log being written: its style, the place of its file, the files, and what has been shown. -/
structure Journal where
  style : LogStyle
  file : Option Place := none
  tree : Tree
  errors : String := ""

/-- Writes records to the log and its file. The file does not take lines with halves of pairs. -/
def Journal.write (journal : Journal) (records : List Record) : Journal :=
  let takes (record : Record) : Bool := (journal.tree.halves.inText? (journal.style.line record)).isNone
  let lines := journal.style.lines (records.filter takes)
  { journal with
    errors := journal.errors ++ journal.style.lines records
    tree :=
      match journal.file with
      | some place => if lines = "" then journal.tree else journal.tree.append place lines
      | none => journal.tree }

/-- How the arguments ask for records to be written; a trace shows all of them. -/
def styleOf (world : World) (arguments : Arguments) : LogStyle :=
  if arguments.trace then { least := .debug, time := some world.time } else { least := arguments.logLevel }

/-- The path of a log file from the top of the tree. -/
def logPath (world : World) (name : String) : Path :=
  let path := Path.ofString name
  { anchor := if path.anchor = .here then .top else path.anchor
    names := path.place world.place.current }

/-- Opens the log. A log file that the system refuses is reported, and the log goes on without it. -/
def openJournal (world : World) (arguments : Arguments) : Except Error Journal :=
  let journal : Journal := { style := styleOf world arguments, tree := world.place.tree }
  match arguments.logFile with
  | none | some "" => .ok journal
  | some name =>
    match world.place.tree.openFile world.place.current (logPath world name) with
    | .ok (place, content) =>
      let opened := { journal with file := some place, tree := journal.tree.put place (.file content) }
      .ok (opened.write [{ level := .info, source := .root, message := "Logging to file: " ++ name }])
    | .error fault =>
      if fault.reason.number?.isSome then
        let message := "Could not open log file " ++ name ++ ": " ++ fault.message
        .ok (journal.write [{ level := .warning, source := .root, message }])
      else .error (.file fault)

/-! ## The command -/

/-- The outcome of a command that an error stops. -/
def stopped (journal : Journal) (error : Error) : Outcome :=
  match error.fault? with
  | some fault =>
    { ending := .finished fault.exitCode
      errors := journal.errors ++ "Error: " ++ fault.message ++ "\n"
      tree := journal.tree }
  | none => { ending := .escaped error, errors := journal.errors, tree := journal.tree }

/-- Hands a text on: to a file if one is named, else to standard output, in a panel if asked for. -/
def handOn (world : World) (arguments : Arguments) (journal : Journal) (text : String) : Outcome :=
  match arguments.out with
  | none | some "" =>
    { ending := .finished 0
      output := if arguments.rich then panel arguments.input text else text
      errors := journal.errors
      tree := journal.tree }
  | some name =>
    let failure := unencodable? world text
    match journal.tree.write world.place.current (.ofString name) (if failure.isSome then "" else text) with
    | .ok tree =>
      let journal := { journal with tree }
      match failure with
      | some failure => stopped journal (.rendering failure)
      | none =>
        let journal := journal.write [{ level := .info, source := .command, message := "Wrote " ++ name }]
        { ending := .finished 0, errors := journal.errors, tree := journal.tree }
    | .error fault =>
      stopped journal (if fault.reason.number?.isSome then .unwritable name else .file fault)

/-- Runs a command with arguments. -/
def runWith (world : World) (arguments : Arguments) : Outcome :=
  match openJournal world arguments with
  | .error error => { ending := .escaped error, tree := world.place.tree }
  | .ok journal =>
    let world := { world with place := { world.place with tree := journal.tree } }
    let (records, result) := produce world arguments
    let journal := journal.write records
    match result with
    | .ok text => handOn world arguments journal text
    | .error error => stopped journal error

/-- The line that says how the command is used. -/
def usageLine : String :=
  "usage: " ++ commandName ++ " [-h] [-o OUT] [--version] [--config CONFIG | --no-config] [--preserve-breaks]" ++
    " [--language-alias NAME=CANONICAL] [--rich] [--log-level LEVEL] [--log-file LOG_FILE] [--trace] INPUT\n"

/-- Runs a command line. -/
def run (world : World) (words : List String) : Outcome :=
  match Arguments.parse words with
  | .ok arguments => runWith world arguments
  | .error .help => { ending := .dismissed 0, output := usageLine, tree := world.place.tree }
  | .error .version =>
    { ending := .dismissed 0, output := commandName ++ " " ++ commandVersion ++ "\n", tree := world.place.tree }
  | .error (.usage error) =>
    { ending := .dismissed 2
      errors := usageLine ++ commandName ++ ": error: " ++ error.message ++ "\n"
      tree := world.place.tree }

end OutlineWiki.Command
