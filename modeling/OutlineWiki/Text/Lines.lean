/-!
# Lines

Cutting texts at newlines, and removing or squeezing newlines at their ends. Only the line feed
counts as a newline here; `unifyNewlines` brings the other two conventions to it.
-/

namespace OutlineWiki.Text

namespace Chars

/-- The lines of a text: the parts between line feeds, always at least one. -/
def lines : List Char → List (List Char)
  | [] => [[]]
  | '\n' :: rest => [] :: lines rest
  | character :: rest =>
    match lines rest with
    | [] => [[character]]
    | line :: more => (character :: line) :: more

/-- Removes line feeds at the end. -/
def trimNewlinesEnd (characters : List Char) : List Char :=
  (characters.reverse.dropWhile (· == '\n')).reverse

/-- Removes line feeds at the start. -/
def trimNewlinesStart (characters : List Char) : List Char :=
  characters.dropWhile (· == '\n')

/-- Writes every run of line feeds as one; `inRun` tells that the run has been written already. -/
def squeezeNewlines (inRun : Bool) : List Char → List Char
  | [] => []
  | character :: rest =>
    if character = '\n' then
      if inRun then squeezeNewlines true rest else '\n' :: squeezeNewlines true rest
    else
      character :: squeezeNewlines false rest

/-- Writes a carriage return, alone or before a line feed, as a line feed. -/
def unifyNewlines : List Char → List Char
  | [] => []
  | '\r' :: '\n' :: rest => '\n' :: unifyNewlines rest
  | '\r' :: rest => '\n' :: unifyNewlines rest
  | character :: rest => character :: unifyNewlines rest

end Chars

/-- The lines of a text, as strings. -/
def lines (text : String) : List String :=
  (Chars.lines text.toList).map .ofList

/-- The text without line feeds at its end. -/
def stripNewlinesEnd (text : String) : String :=
  .ofList (Chars.trimNewlinesEnd text.toList)

/-- The text without empty lines: no line feed at the start, none after another. -/
def dropEmptyLines (text : String) : String :=
  .ofList (Chars.trimNewlinesStart (Chars.squeezeNewlines false text.toList))

/-- The text with line feeds for every newline convention. -/
def unifyNewlines (text : String) : String :=
  .ofList (Chars.unifyNewlines text.toList)

end OutlineWiki.Text
