import OutlineWiki.Document.Failure
import OutlineWiki.Document.Node

/-!
# Plain text

The text of a tree without its markup: what its texts and inline codes hold, in order. Siblings are
joined with a separator, and siblings without text are left out of the join.
-/

namespace OutlineWiki

/-- The strings of a list of values; any other value is in the way of joining them. -/
def stringsOf : List Json → Except Failure (List String)
  | [] => .ok []
  | .string text :: rest => (stringsOf rest).map (text :: ·)
  | _ :: _ => .error .wrongType

/-- A list of strings holds nothing but strings. -/
@[simp] theorem stringsOf_map_string (texts : List String) :
    stringsOf (texts.map .string) = .ok texts := by
  induction texts with
  | nil => rfl
  | cons text rest inductionHypothesis => simp [stringsOf, inductionHypothesis, Except.map]

/-- The values that hold something, joined. -/
def joinValues (joiner : String) (values : List Json) : Except Failure String :=
  (stringsOf (values.filter Json.isTruthy)).map (joiner.intercalate ·)

/-- The strings of a list of values joined into one value. -/
def joinedValue (joiner : String) (values : Except Failure (List Json)) : Except Failure Json := do
  return .string (← joinValues joiner (← values))

namespace Node

mutual

/-- The text of a tree. A text or inline code is its content, of whatever type that is. -/
def plainText (joiner : String) : Node → Except Failure Json
  | .text _ content | .code _ content => .ok content
  | .document _ children | .blockQuote _ children | .listItem _ children =>
    joinedValue joiner (plainTexts joiner children)
  | .heading _ _ content | .paragraph _ content | .tableCell _ content | .styled _ _ content
  | .link _ _ content => joinedValue joiner (plainTexts joiner content)
  | .list _ _ _ items => joinedValue joiner (plainTexts joiner items)
  | .table _ _ rows => joinedValue joiner (plainTexts joiner rows)
  | .tableRow _ _ cells => joinedValue joiner (plainTexts joiner cells)
  | .codeBlock .. | .ruleRow .. | .thematicBreak .. | .image .. | .lineBreak .. => .ok (.string "")

/-- The text of each tree of a list. -/
def plainTexts (joiner : String) : List Node → Except Failure (List Json)
  | [] => .ok []
  | node :: rest => do
    let value ← plainText joiner node
    let values ← plainTexts joiner rest
    return value :: values

end

/-- The texts of a list of trees, joined. -/
def joinedText (joiner : String) (nodes : List Node) : Except Failure String := do
  joinValues joiner (← plainTexts joiner nodes)

end Node

end OutlineWiki
