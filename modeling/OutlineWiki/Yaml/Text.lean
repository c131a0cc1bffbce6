import OutlineWiki.Text.Halves
import OutlineWiki.Yaml.Scalar

/-!
# The text of a YAML document

How the text of a document is walked through: blanks, comments and line ends between its parts, the
column in which a part starts, and scalars in their three spellings. A scalar may run over several
lines; its line ends then count as single spaces, and only empty lines between its lines as line
feeds.
-/

namespace OutlineWiki.Yaml

open OutlineWiki.Settings (Value)

/-! ## Between the parts -/

/-- A character that may stand in a document. -/
def isAllowed (character : Char) : Bool :=
  let code := character.toNat
  code == 0x9 || code == 0xA || code == 0xD || code == 0x85 ||
    (Nat.ble 0x20 code && Nat.ble code 0x7E) || (Nat.ble 0xA0 code && Nat.ble code 0xFFFD) ||
    Nat.ble 0x10000 code

/-- Whether a part of a line ends here: at a blank, at the end of the line or of the text. -/
def endsHere : List Char → Bool
  | [] => true
  | character :: _ => character == ' ' || character == '\t' || character == '\n'

/-- Skips spaces, comments and line ends; `inComment` tells that a comment has begun. -/
def skip (inComment : Bool) : List Char → List Char
  | [] => []
  | character :: rest =>
    if character == '\n' then skip false rest
    else if inComment then skip true rest
    else if character == ' ' then skip false rest
    else if character == '#' then skip true rest
    else character :: rest

/-- The characters of a line before the place where `rest` starts in the whole text. -/
def lineBefore (whole rest : List Char) : List Char :=
  ((whole.take (whole.length - rest.length)).reverse.takeWhile (· != '\n')).reverse

/-- The column, counted from zero, in which `rest` starts. -/
def columnOf (whole rest : List Char) : Nat :=
  (lineBefore whole rest).length

/-- Whether nothing but spaces stands before `rest` on its line. -/
def startsLine (whole rest : List Char) : Bool :=
  (lineBefore whole rest).all (· == ' ')

/-- Whether a text starts with three given characters in a row that mark a document's bounds. -/
def isMarker (character : Char) (text : List Char) : Bool :=
  [character, character, character].isPrefixOf text && endsHere (text.drop 3)

/-- Whether a document ends here: at the end of the text or at a marker at the start of a line. -/
def atEnd (whole rest : List Char) : Bool :=
  rest.isEmpty || (columnOf whole rest == 0 && (isMarker '-' rest || isMarker '.' rest))

/-- Whether an entry of a sequence starts here: a dash on its own. -/
def startsEntry : List Char → Bool
  | '-' :: rest => endsHere rest
  | _ => false

/-! ## Line ends within a scalar -/

/-- Skips the blank lines and the indentation after a line end, and counts the line ends skipped. -/
def skipLineEnds (isGap : Char → Bool) : List Char → Nat × List Char
  | [] => (0, [])
  | character :: rest =>
    if character == '\n' then
      let (count, after) := skipLineEnds isGap rest
      (count + 1, after)
    else if isGap character then skipLineEnds isGap rest
    else (0, character :: rest)

/-- What a line end inside a scalar stands for, with the number of empty lines after it. -/
def foldedLineEnd (emptyLines : Nat) : List Char :=
  if emptyLines = 0 then [' '] else List.replicate emptyLines '\n'

/-! ## Scalars without quotes -/

/-- The characters with a meaning of their own inside brackets and braces. -/
def isFlowMark (character : Char) : Bool :=
  [',', '[', ']', '\x7b', '\x7d'].contains character

/-- Whether a scalar without quotes may start here. -/
def startsPlain (inFlow : Bool) : List Char → Bool
  | [] => false
  | character :: rest =>
    if [' ', '\t', '\n', ',', '[', ']', '\x7b', '\x7d', '#', '&', '*', '!', '|', '>', '\'', '"', '%', '@',
        '\x60'].contains character then false
    else if character == '-' then !endsHere rest
    else if character == '?' || character == ':' then !inFlow && !endsHere rest
    else true

/-- Splits off the longest part without blanks that a scalar without quotes can hold. -/
def plainRun (inFlow : Bool) : List Char → List Char × List Char
  | [] => ([], [])
  | character :: rest =>
    let closesKey :=
      character == ':' && (endsHere rest || (inFlow && (rest.head?.map isFlowMark).getD false))
    if endsHere [character] || closesKey || (inFlow && (isFlowMark character || character == '?')) then
      ([], character :: rest)
    else
      let (run, after) := plainRun inFlow rest
      (character :: run, after)

/-- Reads on in a scalar without quotes after its first run, as long as it continues: on the same
line, or on a later one that starts at least in a given column. The bound is a count of runs. -/
def readPlainRest (whole : List Char) (inFlow : Bool) (least : Nat) :
    Nat → List Char → List Char × List Char
  | 0, text => ([], text)
  | bound + 1, text =>
    let spaces := text.takeWhile (· == ' ')
    let afterSpaces := text.dropWhile (· == ' ')
    let (glue, next) :=
      match afterSpaces with
      | '\n' :: rest =>
        let (emptyLines, next) := skipLineEnds (· == ' ') rest
        (foldedLineEnd emptyLines, next)
      | _ => (spaces, afterSpaces)
    let onNewLine := afterSpaces.head? == some '\n'
    let stops := glue.isEmpty || next.head? == some '#' ||
      (onNewLine && (atEnd whole next || (!inFlow && columnOf whole next < least)))
    let (run, after) := plainRun inFlow next
    if stops || run.isEmpty then ([], text)
    else
      let (more, afterMore) := readPlainRest whole inFlow least bound after
      (glue ++ run ++ more, afterMore)

/-- Reads a scalar without quotes. -/
def readPlain (whole : List Char) (inFlow : Bool) (least : Nat) (text : List Char) : List Char × List Char :=
  let (run, after) := plainRun inFlow text
  let (more, afterMore) := readPlainRest whole inFlow least text.length after
  (run ++ more, afterMore)

/-! ## Scalars between quotes -/

/-- The character that a backslash and a letter stand for. -/
def simpleEscape? : Char → Option Char
  | '0' => some '\x00'
  | 'a' => some '\x07'
  | 'b' => some '\x08'
  | 't' | '\t' => some '\t'
  | 'n' => some '\n'
  | 'v' => some '\x0B'
  | 'f' => some '\x0C'
  | 'r' => some '\r'
  | 'e' => some '\x1B'
  | ' ' => some ' '
  | '"' => some '"'
  | '\\' => some '\\'
  | '/' => some '/'
  | 'N' => some '\u0085'
  | '_' => some '\u00A0'
  | 'L' => some '\u2028'
  | 'P' => some '\u2029'
  | _ => none

/-- The number of digits after the letter of a hexadecimal escape. -/
def escapeDigits? : Char → Option Nat
  | 'x' => some 2
  | 'u' => some 4
  | 'U' => some 8
  | _ => none

/-- The character of a code. The code of half a pair stands for that half, and there are codes beyond all
characters. -/
def charOfCode (halves : Halves) (code : Nat) : Except Fault Char :=
  if code.isValidChar then .ok (.ofNat code)
  else if code < 0x110000 then .ok (halves.standIn code)
  else .error .noSuchCharacter

/-- What an escape after a backslash writes, with the text after it. A line end written as an escape
joins two lines. -/
def readEscape (halves : Halves) (text : List Char) : Except Fault (List Char × List Char) :=
  match text with
  | [] => fail text
  | '\n' :: rest =>
    let (emptyLines, after) := skipLineEnds isGap rest
    .ok (List.replicate emptyLines '\n', after)
  | letter :: rest =>
    match simpleEscape? letter, escapeDigits? letter with
    | some meant, _ => .ok ([meant], rest)
    | none, some count =>
      match (rest.take count).mapM (digitValue? 16) with
      | some digits =>
        if digits.length = count then do
          let character ← charOfCode halves (numberOfDigits 16 digits)
          return ([character], rest.drop count)
        else fail text
      | none => fail text
    | none, none => fail text

/-- Reads the rest of a scalar between quotes. The bound is a count of characters. -/
def readQuoted (halves : Halves) (quote : Char) : Nat → List Char → Except Fault (List Char × List Char)
  | 0, text => fail text
  | _, [] => fail []
  | bound + 1, character :: rest =>
    let goOn (written after : List Char) : Except Fault (List Char × List Char) := do
      let (more, afterMore) ← readQuoted halves quote bound after
      return (written ++ more, afterMore)
    if character = quote then
      match rest with
      | next :: after => if quote = '\'' ∧ next = quote then goOn [quote] after else .ok ([], rest)
      | [] => .ok ([], rest)
    else if character = '\\' ∧ quote = '"' then do
      let (written, after) ← readEscape halves rest
      goOn written after
    else if isGap character || character == '\n' then
      let text := character :: rest
      match text.dropWhile isGap with
      | '\n' :: next =>
        let (emptyLines, after) := skipLineEnds isGap next
        goOn (foldedLineEnd emptyLines) after
      | after => goOn (text.takeWhile isGap) after
    else goOn [character] rest

/-! ## Any scalar -/

/-- A scalar with the text after it. -/
structure Found where
  value : Value
  after : List Char

/-- Reads a scalar that starts where the text starts. -/
def readScalar (halves : Halves) (whole : List Char) (inFlow : Bool) (least : Nat) (text : List Char) : Except Fault Found :=
  match text with
  | '\'' :: rest => do
    let (characters, after) ← readQuoted halves '\'' text.length rest
    return { value := .string (.ofList characters), after }
  | '"' :: rest => do
    let (characters, after) ← readQuoted halves '"' text.length rest
    return { value := .string (.ofList characters), after }
  | _ =>
    if startsPlain inFlow text then
      let (characters, after) := readPlain whole inFlow least text
      (resolve text characters).map fun value => { value, after }
    else fail text

/-- Whether a scalar that starts where `text` starts ends on the same line before `after`. -/
def onOneLine (text after : List Char) : Bool :=
  !(text.take (text.length - after.length)).contains '\n'

end OutlineWiki.Yaml
