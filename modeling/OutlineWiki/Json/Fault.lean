import OutlineWiki.Number.Digits

/-!
# Faults in JSON text

What can be wrong with a text that should be JSON, and where. A place is counted in characters: its
index from the start of the text, and its line and column for a reader. A reader can also stop at a number
that is too long for it; that is told as no error of the text, and without a place.
-/

namespace OutlineWiki.Json

/-- Why a text is not JSON, or why a reader stops at it. -/
inductive FaultCause where
  | byteOrderMark
  | value
  | memberName
  | colon
  | comma
  | trailingText
  | controlCharacter
  | escape
  | unicodeEscape
  | unterminatedString
  /-- A whole number has more digits than the reader takes, which is no error of the text. -/
  | manyDigits (count limit : Nat)
deriving DecidableEq, Repr

/-- What a cause is called in messages. -/
def FaultCause.message : FaultCause → String
  | .byteOrderMark => "Unexpected UTF-8 BOM (decode using utf-8-sig)"
  | .value => "Expecting value"
  | .memberName => "Expecting property name enclosed in double quotes"
  | .colon => "Expecting ':' delimiter"
  | .comma => "Expecting ',' delimiter"
  | .trailingText => "Extra data"
  | .controlCharacter => "Invalid control character at"
  | .escape => "Invalid \\escape"
  | .unicodeEscape => "Invalid \\uXXXX escape"
  | .unterminatedString => "Unterminated string starting at"
  | .manyDigits count limit => manyDigitsMessage count limit

/-- Whether a cause makes a text no JSON. -/
def FaultCause.isOfText : FaultCause → Bool
  | .manyDigits _ _ => false
  | _ => true

/-- A fault while reading: its cause and the text from the place where it was found. -/
structure Fault where
  cause : FaultCause
  rest : List Char
deriving DecidableEq, Repr

/-- A fault with its place in the whole text. -/
structure LocatedFault where
  cause : FaultCause
  index : Nat
  line : Nat
  column : Nat
deriving DecidableEq, Repr

/-- The place of a fault in the text in which it was found. Lines and columns count from one. -/
def Fault.locate (fault : Fault) (text : List Char) : LocatedFault :=
  let index := text.length - fault.rest.length
  let before := text.take index
  { cause := fault.cause
    index := index
    line := before.count '\n' + 1
    column := (before.reverse.takeWhile (· != '\n')).length + 1 }

/-- A fault as messages show it. -/
def LocatedFault.message (fault : LocatedFault) : String :=
  if fault.cause.isOfText then
    fault.cause.message ++ ": line " ++ toString fault.line ++ " column " ++ toString fault.column ++
      " (char " ++ toString fault.index ++ ")"
  else fault.cause.message

end OutlineWiki.Json
