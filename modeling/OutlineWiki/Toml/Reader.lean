import OutlineWiki.Number.Digits
import OutlineWiki.Settings.Timestamp
import OutlineWiki.Toml.Table

/-!
# Reading TOML

A reader for TOML documents: keys, strings, numbers, truth values, dates and times, arrays and tables. Line
ends must be single line feeds. A fault holds the text from the place where reading stopped, unless a whole
number has too many digits. Values nest, so the reader is bounded by a count that starts above what any text
of that length can use.
-/

namespace OutlineWiki.Toml

open OutlineWiki.Settings (Value Values Date Clock Timestamp)

/-- Where a text stops being TOML, or how many digits the number has at which its reader stops. -/
inductive Fault where
  | malformed (rest : List Char)
  | manyDigits (count : Nat)
deriving DecidableEq, Repr

/-- A step that stops where the given text starts. -/
def fail {α : Type} (rest : List Char) : Except Fault α :=
  .error (.malformed rest)

/-! ## Blanks and comments -/

/-- Blanks within a line. -/
def isGap (character : Char) : Bool :=
  character == ' ' || character == '\t'

/-- Skips the blanks at the start of a text. -/
def skipGap (text : List Char) : List Char :=
  text.dropWhile isGap

/-- A control character that may stand nowhere; the tab may, and the line feed is no business of
this test's callers within a line. -/
def isForbidden (character : Char) : Bool :=
  (character.toNat < 0x20 && character != '\t') || character.toNat == 0x7F

/-- Skips a comment, if one comes next, up to the end of its line. -/
def skipComment (text : List Char) : Except Fault (List Char) :=
  match text with
  | '#' :: rest =>
    match (rest.takeWhile (· != '\n')).find? isForbidden with
    | some _ => fail text
    | none => .ok (rest.dropWhile (· != '\n'))
  | _ => .ok text

/-- Skips blanks, comments and line ends; `inComment` tells that a comment has begun. -/
def skipBetween (inComment : Bool) : List Char → Except Fault (List Char)
  | [] => .ok []
  | character :: rest =>
    if character == '\n' then skipBetween false rest
    else if inComment then
      if isForbidden character then fail (character :: rest) else skipBetween true rest
    else if isGap character then skipBetween false rest
    else if character == '#' then skipBetween true rest
    else .ok (character :: rest)

/-! ## Strings -/

/-- The character that a backslash and a letter stand for. -/
def simpleEscape? : Char → Option Char
  | 'b' => some '\x08'
  | 't' => some '\t'
  | 'n' => some '\n'
  | 'f' => some '\x0C'
  | 'r' => some '\r'
  | '"' => some '"'
  | '\\' => some '\\'
  | _ => none

/-- Where in a quoted string the reader is: between characters, after a backslash, inside a
hexadecimal escape, or in the blanks after a backslash at the end of a line. -/
inductive Phase where
  | plain
  | escaped
  | hexadecimal (missing : Nat) (value : Nat)
  | joining (seenLineEnd : Bool)

/-- What one character does: it closes the string, writes something and goes on, or is a fault. -/
inductive Move where
  | close (after : List Char)
  | go (written : List Char) (phase : Phase)
  | stop

/-- What a character does between characters. A block ends at three quotes in a row. -/
def plainMove (block : Bool) (character : Char) (rest : List Char) : Move :=
  if character = '"' then
    if block then
      match rest with
      | '"' :: '"' :: after => .close after
      | _ => .go ['"'] .plain
    else .close rest
  else if character = '\\' then .go [] .escaped
  else if isForbidden character && !(block && character == '\n') then .stop
  else .go [character] .plain

/-- What a character does. -/
def move (block : Bool) (phase : Phase) (character : Char) (rest : List Char) : Move :=
  match phase with
  | .plain => plainMove block character rest
  | .escaped =>
    if character = 'u' then .go [] (.hexadecimal 3 0)
    else if character = 'U' then .go [] (.hexadecimal 7 0)
    else
      match simpleEscape? character with
      | some meant => .go [meant] .plain
      | none =>
        if block && isGap character then .go [] (.joining false)
        else if block && character == '\n' then .go [] (.joining true)
        else .stop
  | .hexadecimal missing value =>
    match digitValue? 16 character with
    | none => .stop
    | some digit =>
      let code := 16 * value + digit
      match missing with
      | more + 1 => .go [] (.hexadecimal more code)
      | 0 => if code.isValidChar then .go [.ofNat code] .plain else .stop
  | .joining seenLineEnd =>
    if isGap character then .go [] (.joining seenLineEnd)
    else if character = '\n' then .go [] (.joining true)
    else if seenLineEnd then plainMove block character rest
    else .stop

/-- Reads a string from after its opening quotes, which start `opening`. -/
def readQuoted (opening : List Char) (block : Bool) : Phase → List Char → Except Fault (List Char × List Char)
  | _, [] => fail opening
  | phase, character :: rest =>
    match move block phase character rest with
    | .close after => .ok ([], after)
    | .stop => fail (character :: rest)
    | .go written next => do
      let (more, after) ← readQuoted opening block next rest
      return (written ++ more, after)

/-- Reads a string without escapes up to its closing apostrophe, or to three of them. -/
def readLiteral (opening : List Char) (block : Bool) : List Char → Except Fault (List Char × List Char)
  | [] => fail opening
  | character :: rest =>
    let goOn : Except Fault (List Char × List Char) := do
      let (more, after) ← readLiteral opening block rest
      return (character :: more, after)
    if character = '\'' then
      if block then
        match rest with
        | '\'' :: '\'' :: after => .ok ([], after)
        | _ => goOn
      else .ok ([], rest)
    else if isForbidden character && !(block && character == '\n') then fail (character :: rest)
    else goOn

/-- A line feed right after the quotes that open a block does not count. -/
def skipFirstLineEnd (text : List Char) : List Char :=
  match text with
  | '\n' :: rest => rest
  | _ => text

/-- Up to two quotes more right after the three that close a block belong to its text. -/
def takeExtraQuotes (quote : Char) (block : List Char × List Char) : List Char × List Char :=
  let extra := (block.2.take 2).takeWhile (· == quote)
  (block.1 ++ extra, block.2.drop extra.length)

/-- Reads a string on one line, if one comes next. -/
def readString? (text : List Char) : Option (Except Fault (List Char × List Char)) :=
  match text with
  | '"' :: rest => some (readQuoted text false .plain rest)
  | '\'' :: rest => some (readLiteral text false rest)
  | _ => none

/-- Reads a string in one of its four forms, if one comes next. -/
def readText? (text : List Char) : Option (Except Fault (List Char × List Char)) :=
  match text with
  | '"' :: '"' :: '"' :: rest =>
    some ((readQuoted text true .plain (skipFirstLineEnd rest)).map (takeExtraQuotes '"'))
  | '\'' :: '\'' :: '\'' :: rest =>
    some ((readLiteral text true (skipFirstLineEnd rest)).map (takeExtraQuotes '\''))
  | _ => readString? text

/-! ## Keys -/

/-- A character that a key may hold without quotes. -/
def isBare (character : Char) : Bool :=
  character.isAlphanum || character == '-' || character == '_'

/-- Reads one part of a key. -/
def readKeyPart (text : List Char) : Except Fault (String × List Char) :=
  match readString? text with
  | some result => result.map fun found => (.ofList found.1, found.2)
  | none =>
    let name := text.takeWhile isBare
    if name.isEmpty then fail text else .ok (.ofList name, text.dropWhile isBare)

/-- Reads a key: parts with dots between them. The bound is a count of parts. -/
def readKey : Nat → List Char → Except Fault (List String × List Char)
  | 0, text => fail text
  | bound + 1, text => do
    let (part, afterPart) ← readKeyPart text
    match skipGap afterPart with
    | '.' :: rest =>
      let (parts, after) ← readKey bound (skipGap rest)
      return (part :: parts, after)
    | after => return ([part], after)

/-! ## Numbers -/

/-- Digits that may have single underscores between them; the digits before this point are given. -/
def moreDigits (base : Nat) : List Char → List Nat × List Char
  | [] => ([], [])
  | character :: rest =>
    match digitValue? base character, character, rest with
    | some digit, _, _ =>
      let (digits, after) := moreDigits base rest
      (digit :: digits, after)
    | none, '_', next :: _ =>
      if (digitValue? base next).isSome then moreDigits base rest else ([], character :: rest)
    | none, _, _ => ([], character :: rest)

/-- At least one digit, with single underscores between digits. -/
def digits? (base : Nat) (text : List Char) : Option (List Nat × List Char) :=
  match text with
  | [] => none
  | character :: rest =>
    (digitValue? base character).map fun digit =>
      let (digits, after) := moreDigits base rest
      (digit :: digits, after)

/-- A whole number in another base than ten, with its mark. -/
def markedNumber? (text : List Char) : Option (Nat × List Char) :=
  let marked (base : Nat) (rest : List Char) : Option (Nat × List Char) :=
    (digits? base rest).map fun found => (numberOfDigits base found.1, found.2)
  match text with
  | '0' :: 'x' :: rest => marked 16 rest
  | '0' :: 'b' :: rest => marked 2 rest
  | '0' :: 'o' :: rest => marked 8 rest
  | _ => none

/-- A sign, if one comes next; true for a minus. -/
def readSign (text : List Char) : Bool × List Char :=
  match text with
  | '-' :: rest => (true, rest)
  | '+' :: rest => (false, rest)
  | _ => (false, text)

/-- The digits before the point: a zero alone, or digits that start with none. -/
def wholeDigits? (text : List Char) : Option (List Nat × List Char) :=
  match text with
  | '0' :: rest => some ([0], rest)
  | _ => digits? 10 text

/-- The digits after the point, if there are any. -/
def fractionDigits? (text : List Char) : Option (List Nat × List Char) :=
  match text with
  | '.' :: rest => digits? 10 rest
  | _ => none

/-- The exponent, if there is one. -/
def exponent? (text : List Char) : Option (Int × List Char) :=
  match text with
  | mark :: rest =>
    if mark = 'e' ∨ mark = 'E' then
      let (negative, unsigned) := readSign rest
      (digits? 10 unsigned).map fun found =>
        let size : Int := numberOfDigits 10 found.1
        (if negative then -size else size, found.2)
    else none
  | [] => none

/-- A decimal number: a double if it has a point or an exponent, else a whole number, which must not be too
long. -/
def decimal? (text : List Char) : Option (Except Fault (Value × List Char)) := do
  let (negative, unsigned) := readSign text
  let (whole, afterWhole) ← wholeDigits? unsigned
  let fraction := fractionDigits? afterWhole
  let afterFraction := (fraction.map (·.2)).getD afterWhole
  let exponent := exponent? afterFraction
  let after := (exponent.map (·.2)).getD afterFraction
  if fraction.isNone && exponent.isNone then
    if whole.length > usualDigitLimit then return .error (.manyDigits whole.length)
    let size : Int := numberOfDigits 10 whole
    return .ok (.int (if negative then -size else size), after)
  else
    let places := (fraction.map (·.1)).getD []
    let power := (exponent.map (·.1)).getD 0 - places.length
    return .ok (.float (.ofDecimal negative (numberOfDigits 10 (whole ++ places)) power), after)

/-- The doubles that are not finite. -/
def special? (text : List Char) : Option (Value × List Char) :=
  let (negative, unsigned) := readSign text
  match unsigned with
  | 'i' :: 'n' :: 'f' :: after => some (.float (.infinite negative), after)
  | 'n' :: 'a' :: 'n' :: after => some (.float .nan, after)
  | _ => none

/-- Reads a number in any form. -/
def readNumber (text : List Char) : Except Fault (Value × List Char) :=
  match markedNumber? text, decimal? text, special? text with
  | some (value, after), _, _ => .ok (.int value, after)
  | none, some result, _ => result
  | none, none, some found => .ok found
  | none, none, none => fail text

/-! ## Dates and times -/

/-- A day, as it is written: its parts are in range, but there may be no such day. -/
def date? (text : List Char) : Option (Date × List Char) := do
  let (year, afterYear) ← Settings.digits? 4 0 9999 text
  let (month, afterMonth) ← Settings.digits? 2 1 12 (← Settings.afterMark? (· == '-') afterYear)
  let (day, after) ← Settings.digits? 2 1 31 (← Settings.afterMark? (· == '-') afterMonth)
  return ({ year, month, day }, after)

/-- A time of day. -/
def clock? (text : List Char) : Option (Clock × List Char) := do
  let (hour, afterHour) ← Settings.digits? 2 0 23 text
  let (minute, afterMinute) ← Settings.digits? 2 0 59 (← Settings.afterMark? (· == ':') afterHour)
  let (second, afterSecond) ← Settings.digits? 2 0 59 (← Settings.afterMark? (· == ':') afterMinute)
  let (micros, after) := Settings.readMicros afterSecond
  return ({ hour, minute, second, micros }, after)

/-- An offset from universal time, in minutes. -/
def offset? (text : List Char) : Option (Int × List Char) :=
  match text with
  | [] => none
  | mark :: rest =>
    if mark = 'Z' ∨ mark = 'z' then some (0, rest)
    else if mark = '+' ∨ mark = '-' then do
      let (hours, afterHours) ← Settings.digits? 2 0 23 rest
      let (minutes, after) ← Settings.digits? 2 0 59 (← Settings.afterMark? (· == ':') afterHours)
      let size : Int := 60 * hours + minutes
      return (if mark = '-' then -size else size, after)
    else none

/-- A mark between a day and a time of day. -/
def startsClock (character : Char) : Bool :=
  character == 'T' || character == 't' || character == ' '

/-- A timestamp in one of its four forms. -/
def timestamp? (text : List Char) : Option (Timestamp × List Char) :=
  match date? text with
  | none => (clock? text).map fun found => (.time found.1, found.2)
  | some (date, afterDate) =>
    match (Settings.afterMark? startsClock afterDate).bind clock? with
    | none => some (.day date, afterDate)
    | some (clock, afterClock) =>
      match offset? afterClock with
      | some (offset, after) => some (.both date clock (some offset), after)
      | none => some (.both date clock none, afterClock)

/-! ## Values -/

mutual

/-- Reads a value. -/
def readValue : Nat → List Char → Except Fault (Value × List Char)
  | 0, text => fail text
  | bound + 1, text =>
    match readText? text with
    | some result => result.map fun found => (.string (.ofList found.1), found.2)
    | none =>
      match text with
      | 't' :: 'r' :: 'u' :: 'e' :: after => .ok (.bool true, after)
      | 'f' :: 'a' :: 'l' :: 's' :: 'e' :: after => .ok (.bool false, after)
      | '[' :: rest => do
        let (items, after) ← readItems bound (← skipBetween false rest)
        return (.list items, after)
      | '\x7b' :: rest =>
        match skipGap rest with
        | '\x7d' :: after => .ok (.table [], after)
        | inside => do
          let (members, after) ← readMembers bound [] inside
          return (.table (memberValues members), after)
      | _ =>
        match timestamp? text with
        | some (stamp, after) => if stamp.exists then .ok (stamp.value, after) else fail text
        | none => readNumber text

/-- Reads the items of an array up to its closing bracket; a comma may follow the last one. -/
def readItems : Nat → List Char → Except Fault (List Value × List Char)
  | 0, text => fail text
  | bound + 1, text =>
    match text with
    | ']' :: after => .ok ([], after)
    | _ => do
      let (item, afterItem) ← readValue bound text
      match ← skipBetween false afterItem with
      | ']' :: after => return ([item], after)
      | ',' :: rest =>
        let (items, after) ← readItems bound (← skipBetween false rest)
        return (item :: items, after)
      | other => fail other

/-- Reads the members of a table in braces, up to its closing brace, after those given. -/
def readMembers : Nat → Members → List Char → Except Fault (Members × List Char)
  | 0, _, text => fail text
  | bound + 1, members, text => do
    let (key, afterKey) ← readKey (text.length + 1) text
    match afterKey with
    | '=' :: rest =>
      let (value, afterValue) ← readValue bound (skipGap rest)
      match members.assign value key with
      | none => fail text
      | some members =>
        match skipGap afterValue with
        | '\x7d' :: after => return (members, after)
        | ',' :: rest => readMembers bound members (skipGap rest)
        | other => fail other
    | other => fail other

end

/-! ## Documents -/

/-- A document as far as it has been read: the table of the last header, and everything so far. -/
structure Draft where
  header : List String := []
  members : Members := []

/-- Reads the rest of a header after its opening brackets, up to its closing ones. -/
def readHeader (draft : Draft) (closing : List Char) (enter : List String → Members → Option Members)
    (text : List Char) : Except Fault (Draft × List Char) := do
  let (header, after) ← readKey (text.length + 1) (skipGap text)
  match enter header draft.members with
  | none => fail text
  | some members =>
    if closing.isPrefixOf after then return ({ header, members }, after.drop closing.length)
    else fail after

/-- Reads what one line says: a header, a key with its value, or nothing. -/
def readStatement (draft : Draft) (text : List Char) : Except Fault (Draft × List Char) :=
  match text with
  | [] | '\n' :: _ | '#' :: _ => .ok (draft, text)
  | '[' :: '[' :: rest => readHeader draft [']', ']'] Members.addTable rest
  | '[' :: rest => readHeader draft [']'] Members.openTable rest
  | _ => do
    let (key, afterKey) ← readKey (text.length + 1) text
    match afterKey with
    | '=' :: rest =>
      let (value, after) ← readValue (2 * text.length + 2) (skipGap rest)
      match draft.members.assignIn value key draft.header with
      | some members => return ({ draft with members }, after)
      | none => fail text
    | other => fail other

/-- Reads line after line. The bound is a count of lines. -/
def readLines : Nat → Draft → List Char → Except Fault Members
  | 0, _, text => fail text
  | bound + 1, draft, text => do
    let (draft, afterStatement) ← readStatement draft (skipGap text)
    match ← skipComment (skipGap afterStatement) with
    | [] => return draft.members
    | '\n' :: rest => readLines bound draft rest
    | other => fail other

/-- What a fault in a text is called. -/
def Fault.message (fault : Fault) (text : List Char) : String :=
  match fault with
  | .malformed rest =>
    "unexpected text in line " ++ toString ((text.take (text.length - rest.length)).count '\n' + 1)
  | .manyDigits count => manyDigitsMessage count usualDigitLimit

/-- The table that a text stands for. -/
def parse (text : String) : Except Fault Value :=
  let characters := text.toList
  (readLines (characters.length + 1) {} characters).map fun members => .table (memberValues members)

end OutlineWiki.Toml
