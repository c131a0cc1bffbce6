import OutlineWiki.Markup.Writer
import OutlineWiki.Options

/-!
# Marks of inline nodes and blocks

The fixed strings of the wiki's markup and the texts they make. Each function here takes texts that
are already rendered; what they come from is no matter.
-/

namespace OutlineWiki.Markup

/-- The mark before and the mark after styled text. -/
def styleMarks : Style → String × String
  | .emphasis => ("''", "''")
  | .strong => ("'''", "'''")
  | .strikethrough => ("~~", "~~")
  | .superscript => ("^", "^")
  | .subscript => ("_", "")

/-- Text in a style. -/
def styledText (style : Style) (content : String) : String :=
  (styleMarks style).1 ++ content ++ (styleMarks style).2

/-- Inline code. -/
def codeText (content : Json) : String :=
  "\x60" ++ content.shown ++ "\x60"

/-- A link, without its text when that adds nothing to the address. -/
def linkText (url : Json) (content : String) : String :=
  let text := Text.strip content
  let same :=
    match url with
    | .string address => text == address
    | _ => false
  if text == "" || same then "[" ++ url.shown ++ "]" else "[" ++ url.shown ++ " " ++ text ++ "]"

/-- An image, by the wiki's macro. -/
def imageText (url : Json) : String :=
  "[[Image(" ++ url.shown ++ ")]]"

/-- A line break: a newline where the source had one, else the wiki's macro. -/
def lineBreakText (soft : Json) : String :=
  if soft.isTruthy then "\n" else "[[BR]]"

/-- The mark of a heading, one longer than its level. -/
def headingMark : Json → Except Failure String
  | .int level => .ok (Text.replicate (level + 1).toNat '=')
  | .bool level => .ok (Text.replicate (if level then 2 else 1) '=')
  | _ => .error .wrongType

/-- A paragraph's text: on one line, unless its line breaks are kept. -/
def reflow (options : Options) (content : String) : String :=
  if options.preserveBreaks then content else Text.collapse content

/-- Text that would open a processor if it stood at the start of a line, escaped. -/
def escapeHash (content : String) : String :=
  if content.toList.head? = some '#' then "!" ++ content else content

/-- The opening line of a code block. -/
def fence (options : Options) (language : Json) : Except Failure String :=
  if !language.isTruthy then .ok "\x7b\x7b\x7b"
  else
    match language with
    | .string name => .ok ("\x7b\x7b\x7b#!" ++ options.canonicalLanguage name)
    | .array _ | .object _ => .error .wrongType
    | other => .ok ("\x7b\x7b\x7b#!" ++ other.shown)

/-- The lines of a code block's content, without line feeds at its end; nothing when it is empty. -/
def codeLines (content : Json) : Except Failure (List String) :=
  if !content.isTruthy then .ok []
  else
    match content with
    | .string text => .ok [Text.stripNewlinesEnd text]
    | _ => .error .unsuitable

/-- A code block between fences. -/
def codeBlockText (options : Options) (content language : Json) : Except Failure String := do
  let opening ← fence options language
  let inside ← codeLines content
  return "\n".intercalate (opening :: inside ++ ["\x7d\x7d\x7d"])

/-- Every line of a text marked as quoted. -/
def quoteLines (text : String) : String :=
  "\n".intercalate ((Text.lines text).map fun line => if Text.hasInk line then "> " ++ line else ">")

/-- The line between blocks. -/
def thematicBreakText : String := "----"

/-- The indentation of an item in a list at a level. -/
def itemIndent (level : Nat) : String :=
  Text.replicate (1 + 2 * (level - 1)) ' '

/-- The mark of an item: its number, or a star. -/
def itemMark : Json → String
  | .null => "*"
  | number => number.shown ++ "."

/-- The first line of an item. -/
def itemLine (level : Nat) (number : Json) (text : String) : String :=
  Text.stripEnd (itemIndent level ++ itemMark number ++ " " ++ text) ++ "\n"

/-- A cell with its borders and padding. -/
def cellBox (opensGroup : Bool) (content : String) (width : Nat) : String :=
  (if opensGroup then "|| " else " ") ++ Text.padToWidth content width ++ " ||"

end OutlineWiki.Markup
