import OutlineWiki.Fault
import OutlineWiki.Files.Tree
import OutlineWiki.Renderer

/-!
# Targets

Where a text goes: back to the caller, into a stream of characters or of bytes, to a receiver that
says by its mode which of the two it takes, or into a file, which is then written anew. What is to be
written and where to are values whose kind is checked first.
-/

namespace OutlineWiki

open OutlineWiki.Files

/-- A place for a text. -/
inductive Target where
  | caller
  | characters
  | bytes
  | receiver (mode : Option Json)
  | file (path : String)
  /-- A value that nothing can be written to. -/
  | other (value : Json)
deriving Inhabited, Repr

/-- A text as it was handed over. -/
inductive Delivery where
  | returned (text : String)
  | characters (text : String)
  | bytes (text : ByteArray)
  | file (tree : Tree)

/-- Why a text was not handed over. -/
inductive DeliveryError where
  | contentNotText (found : Json)
  | noTarget (value : Json)
  | file (fault : Files.Fault)
deriving Inhabited, Repr

/-- What an error says. -/
def DeliveryError.message : DeliveryError → String
  | .contentNotText found => "Content must be str, got <class '" ++ found.kindName ++ "'>"
  | .noTarget value => "Unsupported output type: <class '" ++ value.kindName ++ "'>"
  | .file fault => fault.message

/-- Whether a receiver takes bytes: its mode is a text with a `b` in it. -/
def takesBytes (mode : Option Json) : Bool :=
  match mode with
  | some (.string text) => text.toList.contains 'b'
  | _ => false

/-- Hands a text over. -/
def deliver (tree : Tree) (current : Place) (text : String) : Target → Except DeliveryError Delivery
  | .caller => .ok (.returned text)
  | .characters => .ok (.characters text)
  | .bytes => .ok (.bytes text.toUTF8)
  | .receiver mode => .ok (if takesBytes mode then .bytes text.toUTF8 else .characters text)
  | .file path => ((tree.write current (.ofString path) text).map .file).mapError .file
  | .other value => .error (.noTarget value)

/-- Hands over a value that should be a text. -/
def deliverContent (tree : Tree) (current : Place) (content : Json) (target : Target) :
    Except DeliveryError Delivery :=
  match content with
  | .string text => deliver tree current text target
  | other => .error (.contentNotText other)

/-- Why a tree did not reach its target. -/
inductive OutputError where
  | rendering (failure : Failure)
  | unwritable (path : String)
  | delivery (error : DeliveryError)
deriving Inhabited, Repr

/-- Renders a tree and hands the text over. A file that the system refuses is reported by the path
that was asked for. -/
def deliverTree (options : Options) (tree : Tree) (current : Place) (document : Node) (target : Target) :
    Except OutputError Delivery := do
  let text ← (render options document).mapError .rendering
  match deliver tree current text target, target with
  | .error (.file fault), .file path =>
    if fault.reason.number?.isSome then throw (.unwritable path) else throw (.delivery (.file fault))
  | .error error, _ => throw (.delivery error)
  | .ok delivery, _ => return delivery

end OutlineWiki
