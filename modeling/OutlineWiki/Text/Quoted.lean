import OutlineWiki.Text.Printable

/-!
# Quoted text

How a message shows a string so that its bounds and its invisible characters can be seen: between
single quotes, or between double quotes when it holds a single quote and no double one, with
escapes for the backslash, the quote used and every character that is not printable.
-/

namespace OutlineWiki.Text

namespace Chars

/-- A number in hexadecimal with at least `width` digits. -/
def hexadecimal (width number : Nat) : List Char :=
  let digits := Nat.toDigits 16 number
  List.replicate (width - digits.length) '0' ++ digits

/-- The escape that stands for a character that is not printable. -/
def escapeUnprintable (character : Char) : List Char :=
  let code := character.toNat
  if character = '\n' then ['\\', 'n']
  else if character = '\r' then ['\\', 'r']
  else if character = '\t' then ['\\', 't']
  else if code < 0x100 then '\\' :: 'x' :: hexadecimal 2 code
  else if code < 0x10000 then '\\' :: 'u' :: hexadecimal 4 code
  else '\\' :: 'U' :: hexadecimal 8 code

/-- One character of a quoted text. -/
def quoteChar (quote character : Char) : List Char :=
  if character = '\\' ∨ character = quote then ['\\', character]
  else if isPrintable character then [character]
  else escapeUnprintable character

/-- The quote that needs the fewest escapes. -/
def quoteFor (characters : List Char) : Char :=
  if characters.contains '\'' && !characters.contains '"' then '"' else '\''

/-- The text between quotes. -/
def quoted (characters : List Char) : List Char :=
  let quote := quoteFor characters
  quote :: (characters.flatMap (quoteChar quote) ++ [quote])

end Chars

/-- The text between quotes. -/
def quoted (text : String) : String :=
  .ofList (Chars.quoted text.toList)

end OutlineWiki.Text
