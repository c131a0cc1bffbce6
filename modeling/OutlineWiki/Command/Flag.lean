import OutlineWiki.Text.CodeSet

/-!
# Flags

The options of the command line, in the order in which a list of them is shown, each with its
spellings. A flag either stands alone or takes one value.
-/

namespace OutlineWiki.Command

/-- An option of the command line. -/
inductive Flag where
  | help
  | out
  | version
  | config
  | noConfig
  | preserveBreaks
  | languageAlias
  | rich
  | logLevel
  | logFile
  | trace
deriving DecidableEq, Inhabited, Repr

namespace Flag

/-- All flags. -/
def all : List Flag :=
  [.help, .out, .version, .config, .noConfig, .preserveBreaks, .languageAlias, .rich, .logLevel, .logFile,
    .trace]

/-- The spellings of a flag, a short one first. -/
def spellings : Flag → List String
  | .help => ["-h", "--help"]
  | .out => ["-o", "--out"]
  | .version => ["--version"]
  | .config => ["--config"]
  | .noConfig => ["--no-config"]
  | .preserveBreaks => ["--preserve-breaks"]
  | .languageAlias => ["--language-alias"]
  | .rich => ["--rich"]
  | .logLevel => ["--log-level"]
  | .logFile => ["--log-file"]
  | .trace => ["--trace"]

/-- Whether a flag takes a value. -/
def takesValue : Flag → Bool
  | .out | .config | .languageAlias | .logLevel | .logFile => true
  | .help | .version | .noConfig | .preserveBreaks | .rich | .trace => false

/-- A flag as messages name it. -/
def name (flag : Flag) : String :=
  "/".intercalate flag.spellings

/-- The flag that is spelled so. -/
def ofSpelling? (spelling : String) : Option Flag :=
  all.find? fun flag => flag.spellings.contains spelling

/-- The spellings that start with the given characters, with their flags. -/
def startingWith (start : List Char) : List (String × Flag) :=
  (all.flatMap fun flag => flag.spellings.map fun spelling => (spelling, flag)).filter fun entry =>
    start.isPrefixOf entry.1.toList

end Flag

end OutlineWiki.Command
