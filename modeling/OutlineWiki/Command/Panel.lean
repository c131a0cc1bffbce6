import OutlineWiki.Text.Blank
import OutlineWiki.Text.Lines
import OutlineWiki.Text.Width

/-!
# Panels

A text in a frame with a title, for a screen of eighty cells. The frame is as narrow as its content
and its title allow; lines that do not fit on the screen are broken between words, and words that do
not fit on a line are broken anywhere. Cells are counted character by character.
-/

namespace OutlineWiki.Command

open OutlineWiki.Text

/-- The cells of a screen's line. -/
def screenWidth : Nat := 80

/-- The distance of two tab stops. -/
def tabStop : Nat := 8

/-- The control characters that a panel leaves out: bell, backspace, vertical tab, form feed and
carriage return. -/
def isDropped (character : Char) : Bool :=
  [0x7, 0x8, 0xB, 0xC, 0xD].contains character.toNat

/-- The cells of one character. -/
def cellsOf (character : Char) : Nat :=
  (charWidth? character).getD 0

/-- The cells of several characters. -/
def cellCount (characters : List Char) : Nat :=
  Chars.separateWidth characters

/-! ## Lines -/

/-- A character that ends a line when the width of a text is measured. -/
def endsMeasuredLine (character : Char) : Bool :=
  [0xA, 0x1C, 0x1D, 0x1E, 0x85, 0x2028, 0x2029].contains character.toNat

/-- The cells of the widest line of a text, the cells so far in the current line given. -/
def widestLine (soFar : Nat) : List Char → Nat
  | [] => soFar
  | character :: rest =>
    if endsMeasuredLine character then max soFar (widestLine 0 rest)
    else widestLine (soFar + cellsOf character) rest

/-- A line with spaces in the place of tabs, the cells before it given. -/
def expandTabs (position : Nat) : List Char → List Char
  | [] => []
  | character :: rest =>
    if character = '\t' then
      let gap := tabStop - position % tabStop
      List.replicate gap ' ' ++ expandTabs (position + gap) rest
    else character :: expandTabs (position + cellsOf character) rest

/-- Cuts a word into pieces that fit a width; the cells in the first piece so far are given. -/
def chop (width soFar : Nat) : List Char → List (List Char)
  | [] => [[]]
  | character :: rest =>
    let cells := cellsOf character
    let breaksHere := soFar + cells > width
    match chop width (if breaksHere then cells else soFar + cells) rest with
    | [] => [[character]]
    | piece :: pieces =>
      if breaksHere then [] :: (character :: piece) :: pieces else (character :: piece) :: pieces

/-- The words of a line with the blanks after them; blanks at its start belong to the first word. -/
def spacedWords (line : List Char) : List (List Char) :=
  let rec go : List Char → List (List Char)
    | [] => []
    | character :: rest =>
      match go rest with
      | [] => [[character]]
      | word :: more =>
        if isBlank character && !(word.head?.map isBlank).getD true then [character] :: word :: more
        else (character :: word) :: more
  let leading := line.takeWhile isBlank
  match go (line.dropWhile isBlank) with
  | [] => []
  | first :: more => (leading ++ first) :: more

/-- A line being filled: the finished lines before it, its characters, and its cells. -/
structure Filling where
  finished : List (List Char) := []
  current : List Char := []
  cells : Nat := 0

/-- Starts a new line, unless nothing has been written yet. -/
def Filling.turn (filling : Filling) : Filling :=
  if filling.finished.isEmpty && filling.current.isEmpty then filling
  else { finished := filling.finished ++ [filling.current] }

/-- Puts a word where it fits: on this line, on the next one, or in pieces on several. -/
def Filling.addWord (width : Nat) (filling : Filling) (word : List Char) : Filling :=
  let needed := cellCount (Chars.trimEnd word)
  if filling.cells + needed ≤ width then
    { filling with current := filling.current ++ word, cells := filling.cells + cellCount word }
  else if width < needed then
    (chop width 0 word).foldl
      (fun filling piece => { filling.turn with current := piece, cells := cellCount piece }) filling
  else if filling.cells = 0 then { filling with current := filling.current ++ word }
  else { filling.turn with current := word, cells := cellCount word }

/-- The lines that a line is broken into. -/
def breakLine (width : Nat) (line : List Char) : List (List Char) :=
  match spacedWords line with
  | [] => [line]
  | words =>
    let filling := words.foldl (Filling.addWord width) {}
    filling.finished ++ [filling.current]

/-- A line without the blanks at its end that make it longer than a width. -/
def cropBlanks (width : Nat) (line : List Char) : List Char :=
  let trailing := line.length - (Chars.trimEnd line).length
  line.take (line.length - min trailing (line.length - width))

/-- As many characters as fit a width; half a wide character is shown as a space. -/
def cropCells (width soFar : Nat) : List Char → List Char
  | [] => []
  | character :: rest =>
    let cells := soFar + cellsOf character
    if cells ≤ width then character :: cropCells width cells rest
    else if soFar < width then [' '] else []

/-- The lines of a text as a frame of a given inner width shows them. -/
def frameLines (width : Nat) (text : List Char) : List (List Char) :=
  (Chars.lines text).flatMap fun line =>
    (breakLine width (expandTabs 0 line)).map fun part => cropCells width 0 (cropBlanks width part)

/-! ## The frame -/

/-- Spaces up to a width. -/
def fillCells (width : Nat) (line : List Char) : List Char :=
  line ++ List.replicate (width - cellCount line) ' '

/-- A title as a frame shows it, on one line with a space at each side. -/
def titleChars (title : String) : List Char :=
  let oneLine := (title.toList.filter (!isDropped ·)).map fun character =>
    if character = '\n' then ' ' else character
  ' ' :: (expandTabs 0 oneLine ++ [' '])

/-- The upper border, with the title in its middle. -/
def topBorder (inner : Nat) (title : List Char) : List Char :=
  let room := inner - 2
  let shown := cropCells room 0 title
  let excess := room - cellCount shown
  '╭' :: '─' :: (List.replicate (excess / 2) '─' ++ shown ++ List.replicate (excess - excess / 2) '─' ++
    ['─', '╮'])

/-- The lower border. -/
def bottomBorder (inner : Nat) : List Char :=
  '╰' :: (List.replicate inner '─' ++ ['╯'])

/-- A text in a frame. Line feeds at its end do not count. -/
def panel (title text : String) : String :=
  let content := (Chars.trimNewlinesEnd text.toList).filter (!isDropped ·)
  let title := titleChars title
  let inner := min (screenWidth - 2) (max (widestLine 0 content + 2) (cellCount title + 2))
  let lines := (frameLines (inner - 2) content).map fun line =>
    '│' :: ' ' :: (fillCells (inner - 2) line ++ [' ', '│'])
  .ofList ((topBorder inner title :: (lines ++ [bottomBorder inner])).flatMap (· ++ ['\n']))

end OutlineWiki.Command
