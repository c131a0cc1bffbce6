import OutlineWiki.Files.Fault
import OutlineWiki.Text.Lines

/-!
# The file tree

Files and directories by their places. A place is the list of names from the top; the top itself is
the empty list and always a directory. Following a path needs a directory at every step, double dots
included; only its last name may lead to nothing, which is how a new file comes to be. The content of a
file is a text, with a half of a pair for each byte that belongs to no character; with any of these it
cannot be read as a text.
-/

namespace OutlineWiki.Files

/-- The names from the top of the tree to a file or directory. -/
abbrev Place := List String

/-- What is at a place. -/
inductive Entry where
  | file (content : String)
  | directory
deriving DecidableEq, Inhabited, Repr

/-- Files and directories, each at its place, and the characters that stand for halves of pairs in their names
and contents. -/
structure Tree where
  entries : List (Place × Entry) := []
  halves : Halves := {}
deriving DecidableEq, Inhabited, Repr

/-- The directories a place lies in, and before them the place itself, up to the top. -/
def Place.upwards : Nat → Place → List Place
  | 0, place => [place]
  | count + 1, place => place :: Place.upwards count place.dropLast

/-- A place and all directories around it, the nearest first. -/
def Place.withParents (place : Place) : List Place :=
  Place.upwards place.length place

/-- The path from the top to a place. -/
def Place.path (place : Place) : Path :=
  { anchor := .top, names := place }

/-- The place a path leads to when double dots just drop the name before them. -/
def Path.place (current : Place) (path : Path) : Place :=
  path.names.foldl (fun place name => if name = ".." then place.dropLast else place ++ [name])
    (if path.anchor = .here then current else [])

namespace Tree

/-- What is at a place. -/
def get? (tree : Tree) (place : Place) : Option Entry :=
  if place = [] then some .directory else tree.entries.lookup place

/-- The entries with a new one, in the place of an older one. -/
def putEntry (place : Place) (entry : Entry) : List (Place × Entry) → List (Place × Entry)
  | [] => [(place, entry)]
  | found :: rest => if found.1 = place then (place, entry) :: rest else found :: putEntry place entry rest

/-- The tree with something at a place. -/
def put (tree : Tree) (place : Place) (entry : Entry) : Tree :=
  { tree with entries := putEntry place entry tree.entries }

/-- Putting something at a place leaves the characters that stand for halves alone. -/
@[simp] theorem halves_put (tree : Tree) (place : Place) (entry : Entry) : (tree.put place entry).halves = tree.halves :=
  rfl

/-- An entry that was put at a place is found there. -/
theorem lookup_putEntry_self (place : Place) (entry : Entry) (entries : List (Place × Entry)) :
    (putEntry place entry entries).lookup place = some entry := by
  induction entries with
  | nil => simp [putEntry]
  | cons found rest inductionHypothesis =>
    by_cases same : found.1 = place
    · simp [putEntry, same]
    · have other : (place == found.1) = false := beq_eq_false_iff_ne.mpr (Ne.symm same)
      rw [putEntry, if_neg same, List.lookup_cons, other]
      exact inductionHypothesis

/-- Putting an entry at a place leaves all other places alone. -/
theorem lookup_putEntry_of_ne {place other : Place} (different : other ≠ place) (entry : Entry)
    (entries : List (Place × Entry)) :
    (putEntry place entry entries).lookup other = entries.lookup other := by
  have beside : (other == place) = false := beq_eq_false_iff_ne.mpr different
  induction entries with
  | nil => simp [putEntry, List.lookup_cons, beside]
  | cons found rest inductionHypothesis =>
    by_cases same : found.1 = place
    · rw [putEntry, if_pos same, List.lookup_cons, List.lookup_cons, same, beside]
    · rw [putEntry, if_neg same, List.lookup_cons, List.lookup_cons, inductionHypothesis]

/-- What was put at a place below the top is there. -/
theorem get?_put_self (tree : Tree) {place : Place} (below : place ≠ []) (entry : Entry) :
    (tree.put place entry).get? place = some entry := by
  simp [get?, put, below, lookup_putEntry_self]

/-- Putting something at a place leaves all other places alone. -/
theorem get?_put_of_ne (tree : Tree) {place other : Place} (different : other ≠ place) (entry : Entry) :
    (tree.put place entry).get? other = tree.get? other := by
  simp [get?, put, lookup_putEntry_of_ne different]

/-- The tree with a directory at a place, unless something is there. -/
def addDirectory (tree : Tree) (place : Place) : Tree :=
  match tree.get? place with
  | some _ => tree
  | none => tree.put place .directory

/-- The longest name the system takes, in bytes. -/
def longestName : Nat := 255

/-- The place that names lead to from a directory. -/
def follow (tree : Tree) (place : Place) : List String → Except Reason Place
  | [] => .ok place
  | name :: rest =>
    match tree.get? place with
    | none => .error .notFound
    | some (.file _) => .error .notADirectory
    | some .directory =>
      if name = ".." then follow tree place.dropLast rest
      else if tree.halves.nameSize name > longestName then .error .nameTooLong
      else follow tree (place ++ [name]) rest

/-- The place that a path leads to for someone who stands at `current`. -/
def locate (tree : Tree) (current : Place) (path : Path) : Except Reason Place :=
  match path.refusal? tree.halves with
  | some reason => .error reason
  | none => tree.follow (if path.anchor = .here then current else []) path.names

/-- What a path leads to. A path that leads nowhere, or that no file can have, leads to nothing; only
a name too long for the system is a fault. -/
def look (tree : Tree) (current : Place) (path : Path) : Except Fault (Option Entry) :=
  match tree.locate current path with
  | .ok place => .ok (tree.get? place)
  | .error .nameTooLong => .error { reason := .nameTooLong, path }
  | .error _ => .ok none

/-- Whether there is a file at a place. -/
def hasFile (tree : Tree) (place : Place) : Bool :=
  match tree.get? place with
  | some (.file _) => true
  | _ => false

/-- The content of the file that a path leads to. -/
def read (tree : Tree) (current : Place) (path : Path) : Except Fault String :=
  match tree.locate current path with
  | .error reason => .error { reason, path }
  | .ok place =>
    match tree.get? place with
    | some (.file content) => .ok content
    | some .directory => .error { reason := .isADirectory, path }
    | none => .error { reason := .notFound, path }

/-- The text that the content of a file at a path is, with line feeds for every newline. -/
def textOf (tree : Tree) (path : Path) (content : String) : Except Fault String :=
  match tree.halves.inText? content with
  | none => .ok (Text.unifyNewlines content)
  | some _ => .error { reason := .undecodable, path }

/-- The text of the file that a path leads to. -/
def readText (tree : Tree) (current : Place) (path : Path) : Except Fault String := do
  tree.textOf path (← tree.read current path)

/-- The place at which a path lets a file be written, with the content it has so far. -/
def openFile (tree : Tree) (current : Place) (path : Path) : Except Fault (Place × String) :=
  match tree.locate current path with
  | .error reason => .error { reason, path }
  | .ok place =>
    match tree.get? place with
    | some (.file content) => .ok (place, content)
    | some .directory => .error { reason := .isADirectory, path }
    | none => .ok (place, "")

/-- Writes a file anew. -/
def write (tree : Tree) (current : Place) (path : Path) (content : String) : Except Fault Tree := do
  let (place, _) ← tree.openFile current path
  return tree.put place (.file content)

/-- The tree with text added at the end of the file at a place. -/
def append (tree : Tree) (place : Place) (more : String) : Tree :=
  match tree.get? place with
  | some (.file content) => tree.put place (.file (content ++ more))
  | _ => tree.put place (.file more)

end Tree

end OutlineWiki.Files
