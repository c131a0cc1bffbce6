import OutlineWiki.Command.Run
import Std.Time.Format

/-!
# The command line program

The layer between a command and the system. It looks up what the command line can make the command
look at, runs the command on what is there, and puts the outcome into effect: the files that changed,
the text, the messages and the exit code. Nothing is decided here.
-/

namespace OutlineWiki.Command

open OutlineWiki.Files

/-! ## Looking the files up -/

/-- Whether the system opens a file or directory for reading; that nothing is there is no error. -/
def opens (path : String) : IO Bool := do
  match ← (IO.FS.Handle.mk path .read).toBaseIO with
  | .ok _ => return true
  | .error (.noFileOrDirectory ..) | .error (.inappropriateType ..) | .error (.invalidArgument ..) =>
    return false
  | .error error => throw error

/-- What the system has at a place: a directory, or a file with its content, if that is a text. -/
inductive Found where
  | directory
  | file (text : Option String)

/-- What the system has at a place. Only a directory has a dot in it. The content of a file counts as
empty when it is not wanted. -/
def foundAt? (wanted : Bool) (place : Place) : IO (Option Found) := do
  let path := place.path.text
  if ← opens (path ++ "/.") then return some .directory
  if ← opens path then
    if wanted then return some (.file (String.fromUTF8? (← IO.FS.readBinFile path)))
    else return some (.file (some ""))
  return none

/-- The places that a path passes on its way, its end included. -/
def placesAlong (current : Place) (path : String) : List Place :=
  let path := Path.ofString path
  (List.range (path.names.length + 1)).map fun count =>
    { path with names := path.names.take count : Path }.place current

/-- The places at which settings are looked for when no file is named. -/
def settingsPlaces (current home : Place) : List Place :=
  current.withParents.flatMap (fun directory =>
    (Settings.dedicatedNames ++ [Settings.projectFileName]).map fun name => directory ++ [name]) ++
    Settings.dedicatedNames.map fun name => home ++ [name]

/-- The paths to files whose content matters, as far as the arguments and the environment name them: those that a
command reads, and the one that it replaces. -/
def namedPaths (arguments : Arguments) (environment : Option String) : List String :=
  arguments.input :: (arguments.config.toList ++ environment.toList ++ arguments.out.toList)

/-- What the system has at places, after what is already known. -/
def lookUp (wanted : Bool) (known : List (Place × Found)) (places : List Place) : IO (List (Place × Found)) :=
  places.foldlM (fun known place => do
    if known.any (·.1 == place) then return known
    match ← foundAt? wanted place with
    | some found => return known ++ [(place, found)]
    | none => return known) known

/-- The texts of files. -/
def textsOf (known : List (Place × Found)) : List String :=
  known.filterMap fun
    | (_, .file text) => text
    | (_, .directory) => none

/-- The tree of what the system has. Of a content that is no text it only matters that it is none. -/
def treeOf (halves : Halves) (known : List (Place × Found)) : Tree :=
  known.foldl (fun tree (place, found) =>
    match found with
    | .directory => tree.put place .directory
    | .file (some text) => tree.put place (.file text)
    | .file none => tree.put place (.file (.singleton (halves.standIn 0xDCFF)))) { halves }

/-- The bytes that are left in a stream, after those read so far. -/
partial def remainingBytes (stream : IO.FS.Stream) (bytes : ByteArray) : IO ByteArray := do
  let more ← stream.read 65536
  if more.isEmpty then return bytes else remainingBytes stream (bytes ++ more)

/-- All of standard input, if it is a text. -/
def standardInput : IO (Option String) := do
  return (String.fromUTF8? (← remainingBytes (← IO.getStdin) .empty)).map Text.unifyNewlines

/-- What a command with the given arguments sees. The characters that stand for halves of pairs are such as
nothing uses that it can see. -/
def surveyed (arguments : Arguments) (words : List String) : IO World := do
  let current := Path.place [] (.ofString (← IO.currentDir).toString)
  let home := Path.place [] (.ofString ((← IO.getEnv "HOME").getD "/"))
  let environment ← IO.getEnv "ALL2TRAC_CONFIG"
  let named := (namedPaths arguments environment).flatMap (placesAlong current)
  let known ← lookUp true [] (current.withParents ++ settingsPlaces current home ++ named)
  let known ← lookUp false known (arguments.logFile.toList.flatMap (placesAlong current))
  let input ← if arguments.input = "-" then standardInput else pure (some "")
  let halves := Halves.freeIn (words ++ current ++ home ++ environment.toList ++ input.toList ++ textsOf known)
  return {
    place := { tree := treeOf halves known, current, home }
    input
    environment
    time := (← Std.Time.PlainDateTime.now).format "uuuu-MM-dd HH:mm:ss" }

/-! ## Putting the outcome into effect -/

/-- The text of the file at a place, empty when there is none. -/
def contentAt (tree : Tree) (place : Place) : String :=
  match tree.get? place with
  | some (.file content) => content
  | _ => ""

/-- Adds to a log file what it has gained. -/
def extendFile (before after : Tree) (place : Place) : IO Unit := do
  let gained := (contentAt after place).toList.drop (contentAt before place).length
  if after.get? place != before.get? place then
    IO.FS.withFile place.path.text .append fun handle => handle.putStr (.ofList gained)

/-- Writes an output file anew if it has changed. -/
def replaceFile (before after : Tree) (place : Place) : IO Unit := do
  if after.get? place != before.get? place then
    IO.FS.writeFile place.path.text (contentAt after place)

/-- Brings the files that a command writes to up to date. -/
def updateFiles (world : World) (arguments : Arguments) (after : Tree) : IO Unit := do
  let placeOf (path : Option String) : Option Place :=
    (Settings.given? path).map (·.place world.place.current)
  let (out, log) := (placeOf arguments.out, placeOf arguments.logFile)
  if let some place := out then replaceFile world.place.tree after place
  if let some place := log then
    if out != log then extendFile world.place.tree after place

/-- What is said about an error that is no fault. -/
def Error.lastWords : Error → String
  | .settings error => error.message
  | .file fault => fault.message
  | .rendering failure =>
    failure.message?.getD "a value in the document tree does not have the type that its use needs"
  | .configuration error => error.message
  | .reading (.parsing error) => error.message
  | .reading (.stopped fault) => fault.message
  | .unwritable path => (Fault.unwritable path "").message

/-- Shows what a command shows and gives the exit code it ends with. Standard output takes no halves of pairs. -/
def conclude (halves : Halves) (outcome : Outcome) : IO UInt32 := do
  IO.eprint (halves.escaped outcome.errors)
  if let some (position, found) := halves.inText? outcome.output then
    IO.eprintln (commandName ++ ": " ++ encodingMessage position found)
    return 1
  IO.print outcome.output
  match outcome.ending with
  | .finished code | .dismissed code => return code.toUInt32
  | .escaped error =>
    IO.eprintln (commandName ++ ": " ++ halves.escaped error.lastWords)
    return 1

/-- Runs a command line on the system. -/
def perform (words : List String) : IO UInt32 := do
  match Arguments.parse words with
  | .error _ =>
    let tree : Tree := { halves := .freeIn words }
    conclude tree.halves (run { place := { tree, current := [], home := [] } } words)
  | .ok arguments =>
    let world ← surveyed arguments words
    let outcome := run world words
    updateFiles world arguments outcome.tree
    conclude world.halves outcome

end OutlineWiki.Command

/-- The program. What the system refuses beyond what a command foresees is told as the system tells it. -/
def main (words : List String) : IO UInt32 := do
  match ← (OutlineWiki.Command.perform words).toBaseIO with
  | .ok code => return code
  | .error error =>
    IO.eprintln ("Error: " ++ toString error)
    return OutlineWiki.FaultKind.file.exitCode.toUInt32
