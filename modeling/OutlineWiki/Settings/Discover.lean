import OutlineWiki.Settings.Load

/-!
# Finding settings

Which file gives the settings when none is named: the nearest one on the way from a directory to the
top, else one in the user's home. A directory offers the files made for this tool first, then a
project file, which counts only if its section holds something; someone else's broken project file is
passed over, as far as the errors go that are foreseen in it. A file that is named wins over one that the environment names, and that one over all
that can be found.
-/

namespace OutlineWiki.Settings

open OutlineWiki.Files

/-- The names of the files made for this tool, the one that counts most first. -/
def dedicatedNames : List String :=
  [".all2trac.toml", ".all2trac.yaml", ".all2trac.yml", ".all2trac.json"]

/-- Where a command stands: the files, the current directory and the user's home. -/
structure Standpoint where
  tree : Tree
  current : Place
  home : Place
deriving Inhabited, Repr

/-- The file made for this tool that a directory offers. -/
def dedicatedIn? (tree : Tree) (directory : Place) : Option Place :=
  (dedicatedNames.map fun name => directory ++ [name]).find? tree.hasFile

/-- Whether the project file in a directory has something to say. -/
def hasProjectIn (readers : Readers) (tree : Tree) (directory : Place) : Except LoadError Bool :=
  let place := directory ++ [projectFileName]
  match tree.get? place with
  | some (.file content) =>
    match projectValuesOf readers tree place.path content with
    | .ok values => .ok (!values.isEmpty)
    | .error error => if error.escapes then .error error else .ok false
  | _ => .ok false

/-- The first settings file that one of several directories offers. -/
def firstIn (readers : Readers) (tree : Tree) : List Place → Except LoadError (Option Place)
  | [] => .ok none
  | directory :: rest =>
    match dedicatedIn? tree directory with
    | some place => .ok (some place)
    | none => do
      if ← hasProjectIn readers tree directory then return some (directory ++ [projectFileName])
      else firstIn readers tree rest

/-- The settings file nearest to a directory, on the way to the top. -/
def nearest (readers : Readers) (tree : Tree) (start : Place) : Except LoadError (Option Place) :=
  firstIn readers tree start.withParents

/-- The settings file that applies in a directory: the nearest one, else one made for this tool in
the user's home. -/
def discover (readers : Readers) (around : Standpoint) (start : Place) : Except LoadError (Option Place) := do
  match ← nearest readers around.tree start with
  | some place => return some place
  | none => return dedicatedIn? around.tree around.home

/-- A path that is given and not empty. -/
def given? (path : Option String) : Option Path :=
  match path with
  | none | some "" => none
  | some text => some (.ofString text)

/-- The settings in force: those of the file named, else of the file that the environment names, else
of the file found, else none. An error in the chosen file stands. -/
def inForce (readers : Readers) (around : Standpoint) (named environment : Option String) :
    Except LoadError Values := do
  match (given? named).or (given? environment) with
  | some path => load readers around.tree around.current path
  | none =>
    match ← discover readers around around.current with
    | some place => load readers around.tree around.current place.path
    | none => return []

end OutlineWiki.Settings
