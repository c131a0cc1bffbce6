import OutlineWiki.Text.Lowercase

/-!
# Paths

The name of a file: names along the way to it, from the top of the file tree or from the directory
one stands in. A path forgets single dots, doubled slashes and slashes at its end. It keeps double
dots, for only the tree can say what they lead to.
-/

namespace OutlineWiki.Files

/-- Where a path starts. A start with exactly two slashes leads to the top like one with a single
slash, but is written as it was. -/
inductive Anchor where
  | here
  | top
  | doubleTop
deriving DecidableEq, Inhabited, Repr

/-- A path by its start and the names along it, none of them empty or a single dot. -/
structure Path where
  anchor : Anchor := .here
  names : List String := []
deriving DecidableEq, Inhabited, Repr

/-- The parts of a text between slashes. -/
def splitAtSlashes : List Char → List (List Char)
  | [] => [[]]
  | character :: rest =>
    match splitAtSlashes rest with
    | [] => [[character]]
    | part :: more => if character = '/' then [] :: part :: more else (character :: part) :: more

/-- How a text starts, seen as a path. -/
def Anchor.ofChars : List Char → Anchor
  | '/' :: '/' :: '/' :: _ => .top
  | '/' :: '/' :: _ => .doubleTop
  | '/' :: _ => .top
  | _ => .here

/-- The start of a path as it is written. -/
def Anchor.text : Anchor → String
  | .here => ""
  | .top => "/"
  | .doubleTop => "//"

namespace Path

/-- The path that a text names. -/
def ofString (text : String) : Path where
  anchor := .ofChars text.toList
  names := ((splitAtSlashes text.toList).map String.ofList).filter fun name => name != "" && name != "."

/-- The path as it is written; a path without names is written as a single dot. -/
def text (path : Path) : String :=
  match path.anchor, path.names with
  | .here, [] => "."
  | anchor, names => anchor.text ++ "/".intercalate names

/-- The last name of a path, empty when it has none. -/
def name (path : Path) : String :=
  path.names.getLast?.getD ""

/-- Whether a path names no file because it holds the character that ends names. -/
def isBroken (path : Path) : Bool :=
  path.names.any fun name => name.toList.contains '\x00'

end Path

/-- The end of a name from its last dot on; empty when the dot is its first or last character. -/
def suffixOf (name : String) : String :=
  let backwards := name.toList.reverse
  let ending := backwards.takeWhile (· != '.')
  match backwards.dropWhile (· != '.') with
  | '.' :: _ :: _ => if ending.isEmpty then "" else .ofList ('.' :: ending.reverse)
  | _ => ""

/-- The suffix of a path's last name in lower case, by which its format is known. -/
def Path.suffix (path : Path) : String :=
  Text.lower (suffixOf path.name)

end OutlineWiki.Files
