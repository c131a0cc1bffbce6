import OutlineWiki.Markup.State

/-!
# The log

What a command tells beside its output. A record has a level and the part of the program it comes
from; records below the level asked for are left out. A traced log shows the time and the part with
every record.
-/

namespace OutlineWiki.Command

/-- How much a record matters. -/
inductive Level where
  | debug
  | info
  | warning
  | error
  | critical
deriving DecidableEq, Inhabited, Repr

namespace Level

/-- All levels, the least first. -/
def all : List Level :=
  [.debug, .info, .warning, .error, .critical]

/-- A level's name. -/
def name : Level → String
  | .debug => "DEBUG"
  | .info => "INFO"
  | .warning => "WARNING"
  | .error => "ERROR"
  | .critical => "CRITICAL"

/-- A level's place among all levels. -/
def rank : Level → Nat
  | .debug => 0
  | .info => 1
  | .warning => 2
  | .error => 3
  | .critical => 4

/-- The level of a name. -/
def ofName? (name : String) : Option Level :=
  all.find? (·.name == name)

end Level

/-- The parts of the program that write records. -/
inductive Source where
  | root
  | command
  | renderer
  | tableLayout
deriving DecidableEq, Inhabited, Repr

/-- The name of a part. -/
def Source.name : Source → String
  | .root => "root"
  | .command => "all2trac.cli"
  | .renderer => "all2trac.renderers.trac"
  | .tableLayout => "all2trac.renderers._table_layout"

/-- A record of the log. -/
structure Record where
  level : Level
  source : Source
  message : String
deriving DecidableEq, Inhabited, Repr

/-- The record of a notice that a rendering gives. -/
def Record.ofNotice (notice : Notice) : Record where
  level := .debug
  source :=
    match notice with
    | .renderingTable _ _ => .renderer
    | .widthsDropped _ => .tableLayout
  message := notice.message

/-- How records are written: from which level on, and with which time if they are traced. -/
structure LogStyle where
  least : Level := .warning
  time : Option String := none
deriving DecidableEq, Inhabited, Repr

/-- The line of a record, or nothing when its level is too low. -/
def LogStyle.line (style : LogStyle) (record : Record) : String :=
  if record.level.rank < style.least.rank then ""
  else
    match style.time with
    | none => record.level.name ++ ": " ++ record.message ++ "\n"
    | some time =>
      "[" ++ time ++ "] [" ++ record.level.name ++ "] [" ++ record.source.name ++ "] " ++ record.message ++ "\n"

/-- The lines of several records. -/
def LogStyle.lines (style : LogStyle) (records : List Record) : String :=
  String.join (records.map style.line)

end OutlineWiki.Command
