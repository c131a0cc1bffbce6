import OutlineWiki.Text.CodeSet

/-!
# Blank characters

What counts as white space in a document: the control characters from tab to carriage return, the
four separators below the space, and every Unicode space. Trimming, collapsing and splitting into
words all use this one class, first on lists of characters and then on strings.
-/

namespace OutlineWiki.Text

/-- The blank characters. Zero width space, word joiner and byte order mark are not among them. -/
def blanks : CodeSet where
  intervals := [(0x9, 0xD), (0x1C, 0x20), (0x85, 0x85), (0xA0, 0xA0), (0x1680, 0x1680), (0x2000, 0x200A),
    (0x2028, 0x2029), (0x202F, 0x202F), (0x205F, 0x205F), (0x3000, 0x3000)]

/-- White space in the sense of this library. -/
def isBlank (character : Char) : Bool :=
  blanks.has character

namespace Chars

/-- Removes blanks at the start. -/
def trimStart (characters : List Char) : List Char :=
  characters.dropWhile isBlank

/-- Removes blanks at the end. -/
def trimEnd (characters : List Char) : List Char :=
  (characters.reverse.dropWhile isBlank).reverse

/-- Removes blanks at both ends. -/
def trim (characters : List Char) : List Char :=
  trimEnd (trimStart characters)

/-- Writes every run of blanks as one space; `inRun` tells that the run has been written already. -/
def squeeze (inRun : Bool) : List Char → List Char
  | [] => []
  | character :: rest =>
    if isBlank character then
      if inRun then squeeze true rest else ' ' :: squeeze true rest
    else
      character :: squeeze false rest

/-- Writes every run of blanks as one space and removes it at both ends. -/
def collapse (characters : List Char) : List Char :=
  trim (squeeze false characters)

/-- The maximal runs of characters that are not blank, in order. -/
def words : List Char → List (List Char)
  | [] => []
  | character :: rest =>
    if isBlank character then words rest
    else
      match rest, words rest with
      | next :: _, word :: more =>
        if isBlank next then [character] :: word :: more else (character :: word) :: more
      | _, found => [character] :: found

end Chars

/-- The text without blanks at its end. -/
def stripEnd (text : String) : String :=
  .ofList (Chars.trimEnd text.toList)

/-- The text without blanks at either end. -/
def strip (text : String) : String :=
  .ofList (Chars.trim text.toList)

/-- The text on one line: its words with single spaces between them. -/
def collapse (text : String) : String :=
  .ofList (Chars.collapse text.toList)

/-- A text shows something when it has a character that is not blank. -/
def hasInk (text : String) : Bool :=
  text.toList.any fun character => !isBlank character

end OutlineWiki.Text
