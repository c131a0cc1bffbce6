import OutlineWiki.Files.Path
import OutlineWiki.Text.Halves

/-!
# Faults of the file tree

Why a file cannot be read or written. Most of the reasons are answers of the system, with a number of
their own. A name that no file can have is refused before the system is asked, and a content that is no
text after it has answered.
-/

namespace OutlineWiki.Files

/-- Why a path leads to no file. -/
inductive Reason where
  | notFound
  | notADirectory
  | isADirectory
  | nameTooLong
  | nullCharacter
  /-- The name holds halves of pairs, from a position on, that are no bytes. -/
  | unencodable (position : Nat) (halves : List Nat)
  /-- The content of the file is no text. -/
  | undecodable
deriving DecidableEq, Inhabited, Repr

/-- The system's number for a reason. -/
def Reason.number? : Reason → Option Nat
  | .notFound => some 2
  | .notADirectory => some 20
  | .isADirectory => some 21
  | .nameTooLong => some 36
  | .nullCharacter | .unencodable _ _ | .undecodable => none

/-- A reason in words. -/
def Reason.text : Reason → String
  | .notFound => "No such file or directory"
  | .notADirectory => "Not a directory"
  | .isADirectory => "Is a directory"
  | .nameTooLong => "File name too long"
  | .nullCharacter => "embedded null byte"
  | .unencodable position halves => encodingMessage position halves
  | .undecodable => "'utf-8' codec can't decode the content of the file"

/-- Why a path can be that of no file, if it cannot. -/
def Path.refusal? (path : Path) (halves : Halves) : Option Reason :=
  match halves.refused? Halves.isByte path.text with
  | some (position, found) => some (.unencodable position found)
  | none => if path.isBroken then some .nullCharacter else none

/-- A path that leads to no file, and why. -/
structure Fault where
  reason : Reason
  path : Path
deriving DecidableEq, Inhabited, Repr

/-- A fault as messages show it. -/
def Fault.message (fault : Fault) : String :=
  match fault.reason.number? with
  | some number =>
    "[Errno " ++ toString number ++ "] " ++ fault.reason.text ++ ": " ++ Text.quoted fault.path.text
  | none => fault.reason.text

end OutlineWiki.Files
