import OutlineWiki.Command.Flag
import OutlineWiki.Command.Log
import OutlineWiki.Text.Blank
import OutlineWiki.Text.DecimalDigit
import OutlineWiki.Text.Quoted

/-!
# Arguments

What the words of a command line ask for. First every word is told apart as a flag, a plain word or
the mark after which all words are plain; then the words are taken one after the other. A long flag
may be shortened as long as only one flag starts so, and a value may follow an equals sign, or a
short flag directly.
-/

namespace OutlineWiki.Command

/-- What a command line asks for. -/
structure Arguments where
  input : String
  out : Option String := none
  config : Option String := none
  noConfig : Bool := false
  preserveBreaks : Bool := false
  languageAliases : List (String × String) := []
  rich : Bool := false
  logLevel : Level := .warning
  logFile : Option String := none
  trace : Bool := false
deriving DecidableEq, Inhabited, Repr

/-- Why a command line is not understood. -/
inductive UsageError where
  | ambiguous (word : String) (matching : List String)
  | valueMissing (flag : Flag)
  | valueIgnored (flag : Flag) (value : String)
  | notAllowedWith (flag other : Flag)
  | notAChoice (flag : Flag) (value : String) (choices : List String)
  | notAnAlias (flag : Flag) (value : String)
  | inputMissing
  | notUnderstood (words : List String)
deriving DecidableEq, Repr

/-- What an error says. -/
def UsageError.message : UsageError → String
  | .ambiguous word matching =>
    "ambiguous option: " ++ word ++ " could match " ++ ", ".intercalate matching
  | .valueMissing flag => "argument " ++ flag.name ++ ": expected one argument"
  | .valueIgnored flag value =>
    "argument " ++ flag.name ++ ": ignored explicit argument " ++ Text.quoted value
  | .notAllowedWith flag other => "argument " ++ flag.name ++ ": not allowed with argument " ++ other.name
  | .notAChoice flag value choices =>
    "argument " ++ flag.name ++ ": invalid choice: " ++ Text.quoted value ++ " (choose from " ++
      ", ".intercalate (choices.map Text.quoted) ++ ")"
  | .notAnAlias flag value =>
    "argument " ++ flag.name ++ ": Language alias must look like NAME=CANONICAL, got '" ++ value ++ "'"
  | .inputMissing => "the following arguments are required: INPUT"
  | .notUnderstood words => "unrecognized arguments: " ++ " ".intercalate words

/-- Why no arguments come of a command line: it asks for something else, or it is not understood. -/
inductive Stop where
  | help
  | version
  | usage (error : UsageError)
deriving DecidableEq, Repr

/-! ## Words -/

/-- A word of the command line. -/
inductive Word where
  | plain (text : String)
  /-- The mark after which all words are plain. -/
  | mark
  | flag (flag : Flag) (value : Option String)
  | unknown (text : String)
deriving DecidableEq, Repr

/-- A number below zero, which is a plain word although it starts like a flag. -/
def isNegativeNumber (characters : List Char) : Bool :=
  let isDigit (character : Char) : Bool := (Text.decimalDigit? character).isSome
  match characters with
  | '-' :: rest =>
    match rest.dropWhile isDigit with
    | [] => !rest.isEmpty
    | '.' :: places => !places.isEmpty && places.all isDigit
    | _ => false
  | _ => false

/-- The parts of a word before and after its first equals sign. -/
def splitAtEquals (word : String) : String × Option String :=
  let characters := word.toList
  match characters.dropWhile (· != '=') with
  | '=' :: value => (.ofList (characters.takeWhile (· != '=')), some (.ofList value))
  | _ => (word, none)

/-- A word that starts like a flag but is the spelling of none. -/
def ofUnlisted (word : String) : Word :=
  if isNegativeNumber word.toList || word.toList.contains ' ' then .plain word else .unknown word

/-- The value that the short flag for help would have, given what follows it in the same word. More
short flags may follow it, and are of no interest. -/
def helpValue? : List Char → Option String
  | '-' :: rest => some (.ofList ('-' :: rest))
  | 'h' :: '=' :: rest => some (.ofList rest)
  | 'h' :: rest => helpValue? rest
  | _ => none

/-- A word that starts with a single dash: a short flag with its value right after it, if anything. -/
def readShort (word : String) : Word :=
  let tail := word.toList.drop 2
  match Flag.ofSpelling? (.ofList (word.toList.take 2)) with
  | some .help => .flag .help (helpValue? tail)
  | some found => .flag found (some (.ofList tail))
  | none => ofUnlisted word

/-- A word that starts with two dashes: a long flag, perhaps shortened, perhaps with a value. -/
def readLong (word : String) : Except Stop Word :=
  let (start, value) := splitAtEquals word
  match Flag.startingWith start.toList with
  | [] => .ok (ofUnlisted word)
  | [(_, flag)] => .ok (.flag flag value)
  | several => .error (.usage (.ambiguous word (several.map (·.1))))

/-- What a word is, as long as the mark has not come. -/
def Word.ofString (word : String) : Except Stop Word :=
  match word.toList with
  | [] | ['-'] => .ok (.plain word)
  | '-' :: second :: _ =>
    match Flag.ofSpelling? word, splitAtEquals word with
    | some found, _ => .ok (.flag found none)
    | none, (start, value) =>
      match value, Flag.ofSpelling? start with
      | some _, some found => .ok (.flag found value)
      | _, _ => if second = '-' then readLong word else .ok (readShort word)
  | _ => .ok (.plain word)

/-- What the words of a command line are. -/
def readWords : List String → Except Stop (List Word)
  | [] => .ok []
  | word :: rest =>
    if word = "--" then .ok (.mark :: rest.map .plain)
    else do
      let first ← Word.ofString word
      let more ← readWords rest
      return first :: more

/-! ## Taking the words -/

/-- What has been taken so far: the arguments, their input left open, and the words that nothing
has a use for. -/
structure Draft where
  input : Option String := none
  arguments : Arguments := { input := "" }
  unused : List String := []

/-- The name and the canonical name of an alias. -/
def readAlias? (value : String) : Option (String × String) :=
  match splitAtEquals value with
  | (name, some canonical) =>
    let (name, canonical) := (Text.strip name, Text.strip canonical)
    if name = "" ∨ canonical = "" then none else some (name, canonical)
  | _ => none

/-- What a flag that stands alone does. -/
def Flag.apply (flag : Flag) (arguments : Arguments) : Except Stop Arguments :=
  match flag with
  | .help => .error .help
  | .version => .error .version
  | .noConfig =>
    if arguments.config.isSome then .error (.usage (.notAllowedWith .noConfig .config))
    else .ok { arguments with noConfig := true }
  | .preserveBreaks => .ok { arguments with preserveBreaks := true }
  | .rich => .ok { arguments with rich := true }
  | .trace => .ok { arguments with trace := true }
  | flag => .error (.usage (.valueMissing flag))

/-- What a flag does with its value. -/
def Flag.applyTo (flag : Flag) (value : String) (arguments : Arguments) : Except Stop Arguments :=
  match flag with
  | .out => .ok { arguments with out := some value }
  | .config =>
    if arguments.noConfig then .error (.usage (.notAllowedWith .config .noConfig))
    else .ok { arguments with config := some value }
  | .languageAlias =>
    match readAlias? value with
    | some entry => .ok { arguments with languageAliases := arguments.languageAliases ++ [entry] }
    | none => .error (.usage (.notAnAlias flag value))
  | .logLevel =>
    match Level.ofName? value with
    | some level => .ok { arguments with logLevel := level }
    | none => .error (.usage (.notAChoice flag value (Level.all.map (·.name))))
  | .logFile => .ok { arguments with logFile := some value }
  | flag => .error (.usage (.valueIgnored flag value))

/-- Puts a word aside that nothing has a use for. -/
def Draft.discard (draft : Draft) (text : String) : Draft :=
  { draft with unused := draft.unused ++ [text] }

/-- A plain word is the input, or of no use when there is one. -/
def Draft.takePlain (draft : Draft) (text : String) : Draft :=
  match draft.input with
  | none => { draft with input := some text }
  | some _ => draft.discard text

/-- Takes one word after the other. `afterInput` tells that the input has just been taken, which a mark
then belongs to. -/
def takeWords (draft : Draft) (afterInput : Bool) : List Word → Except Stop Draft
  | [] => .ok draft
  | .plain text :: rest => takeWords (draft.takePlain text) draft.input.isNone rest
  | .mark :: rest =>
    if afterInput || draft.input.isNone then takeWords draft false rest
    else takeWords (draft.discard "--") false rest
  | .unknown text :: rest => takeWords (draft.discard text) false rest
  | .flag flag (some value) :: rest => do
    let arguments ← flag.applyTo value draft.arguments
    takeWords { draft with arguments } false rest
  | .flag flag none :: .plain value :: rest => do
    if flag.takesValue then
      let arguments ← flag.applyTo value draft.arguments
      takeWords { draft with arguments } false rest
    else
      let arguments ← flag.apply draft.arguments
      takeWords { draft with arguments } false (.plain value :: rest)
  | .flag flag none :: rest => do
    let arguments ← flag.apply draft.arguments
    takeWords { draft with arguments } false rest

/-- The arguments of a command line. -/
def Arguments.parse (words : List String) : Except Stop Arguments := do
  let draft ← takeWords {} false (← readWords words)
  match draft.input with
  | none => throw (.usage .inputMissing)
  | some input =>
    if draft.unused.isEmpty then return { draft.arguments with input }
    else throw (.usage (.notUnderstood draft.unused))

end OutlineWiki.Command
