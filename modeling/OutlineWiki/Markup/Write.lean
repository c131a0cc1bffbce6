import OutlineWiki.Markup.Table

/-!
# Writing nodes

The writer of every kind of node, by recursion on the tree, given how tables are written. A list
keeps the number of its next item in the state while its items are written; an item takes the number
of the innermost list, and the next item gets one, since the wiki counts on from the first.
-/

namespace OutlineWiki

namespace Markup

/-- The number of the next item, which takes it: after it the list goes on with one. -/
def takeNumber : Render Json := do
  let state ← getThe State
  match state.numbers with
  | [] | .null :: _ => return .null
  | number :: outer =>
    set { state with numbers := .int 1 :: outer }
    return number

/-- A document: its blocks. -/
def documentWriter (children : List Writer) : Writer := fun around => do
  return [.string (joinBlocks (← blocks children around))]

/-- A heading: its text on one line after its mark. -/
def headingWriter (level : Json) (content : List Writer) : Writer := fun around => do
  let text := Text.collapse (← capture content around)
  let mark ← settle (headingMark level)
  return [.string (mark ++ " " ++ text)]

/-- A paragraph. -/
def paragraphWriter (options : Options) (content : List Writer) : Writer := fun around => do
  return [.string (escapeHash (reflow options (← capture content around)))]

/-- A code block. -/
def codeBlockWriter (options : Options) (content language : Json) : Writer := fun _ => do
  return [.string (← settle (codeBlockText options content language))]

/-- A block quote: its blocks with every line marked. -/
def blockQuoteWriter (children : List Writer) : Writer := fun around => do
  return [.string (quoteLines (joinBlocks (← blocks children around)))]

/-- A list: its items one level deeper, numbered from the start when it is ordered. -/
def listWriter (ordered start : Json) (items : List Writer) : Writer := fun around => do
  modifyThe State fun state =>
    { state with
      listLevel := state.listLevel + 1
      numbers := (if ordered.isTruthy then start else .null) :: state.numbers }
  let pieces ← inSequence items around
  modifyThe State fun state =>
    { state with listLevel := state.listLevel - 1, numbers := state.numbers.drop 1 }
  return pieces

/-- An item: its line with the text of a leading paragraph, then its other children. -/
def itemWriter (options : Options) (leading : List Writer) (others : List Writer) : Writer := fun around => do
  let level := (← getThe State).listLevel
  let number ← takeNumber
  let text := reflow options (← capture leading around)
  let pieces ← inSequence others around
  return .string (itemLine level number text) :: pieces

/-- A child of an item that is not a list: a block with a line feed after it. -/
def lineWriter (child : Writer) : Writer := fun around => do
  return [.string ((← block child around) ++ "\n")]

/-- Styled text. -/
def styledWriter (style : Style) (content : List Writer) : Writer := fun around => do
  return [.string (styledText style (← capture content around))]

/-- A link. -/
def linkWriter (url : Json) (content : List Writer) : Writer := fun around => do
  return [.string (linkText url (← capture content around))]

end Markup

open Markup

namespace Node

mutual

/-- The writer of a node. -/
def writer (form : TableForm) (options : Options) : Node → Writer
  | .document _ children => documentWriter (writers form options children)
  | .heading _ level content => headingWriter level (writers form options content)
  | .paragraph _ content => paragraphWriter options (writers form options content)
  | .codeBlock _ content language => codeBlockWriter options content language
  | .blockQuote _ children => blockQuoteWriter (writers form options children)
  | .list _ ordered start items => listWriter ordered start (writers form options items)
  | .listItem _ (.paragraph _ content :: others) =>
    itemWriter options (writers form options content) (itemWriters form options others)
  | .listItem _ children => itemWriter options [] (itemWriters form options children)
  | .table _ key rows => form key rows (writers form options rows) (cellWriters form options rows)
  | .tableRow _ _ cells => rowWriter (writers form options cells)
  | .ruleRow attributes key => ruleWriter (.ruleRow attributes key)
  | .tableCell _ content => cellWriter (writers form options content)
  | .thematicBreak _ => .ofStrings [thematicBreakText]
  | .text _ content => fun _ => return [content]
  | .styled _ style content => styledWriter style (writers form options content)
  | .code _ content => .ofStrings [codeText content]
  | .link _ url content => linkWriter url (writers form options content)
  | .image _ url _ => .ofStrings [imageText url]
  | .lineBreak _ soft => .ofStrings [lineBreakText soft]

/-- The writers of nodes. -/
def writers (form : TableForm) (options : Options) : List Node → List Writer
  | [] => []
  | node :: rest => writer form options node :: writers form options rest

/-- The writers of an item's children: lists as they are, all others as blocks on lines. -/
def itemWriters (form : TableForm) (options : Options) : List Node → List Writer
  | [] => []
  | .list _ ordered start items :: rest =>
    listWriter ordered start (writers form options items) :: itemWriters form options rest
  | node :: rest => lineWriter (writer form options node) :: itemWriters form options rest

/-- The writers of the cells of each row. -/
def cellWriters (form : TableForm) (options : Options) : List Node → List (List Writer)
  | [] => []
  | .tableRow _ _ cells :: rest => writers form options cells :: cellWriters form options rest
  | _ :: rest => [] :: cellWriters form options rest

end

end Node

end OutlineWiki
