import OutlineWiki.Number.Digits
import OutlineWiki.Settings.Timestamp

/-!
# YAML scalars

What a scalar without quotes stands for. By its spelling it is null, a truth value, a whole number, a double or
a timestamp; any other text is a string. A whole number can be too long, and there need be no such timestamp: there
reading stops, although the text is YAML.
-/

namespace OutlineWiki.Yaml

open OutlineWiki.Settings (Value Date Clock Timestamp)

/-- Where a text stops being YAML as it is read here, or why its reader stops at something in it. -/
inductive Fault where
  | malformed (rest : List Char)
  | manyDigits (count : Nat)
  | noSuchTimestamp
  | noSuchCharacter
deriving DecidableEq, Repr

/-- A step that stops where the given text starts. -/
def fail {α : Type} (rest : List Char) : Except Fault α :=
  .error (.malformed rest)

/-- The spellings of null; nothing at all is one of them. -/
def nullWords : List String :=
  ["", "~", "null", "Null", "NULL"]

/-- The spellings of true. -/
def trueWords : List String :=
  ["yes", "Yes", "YES", "true", "True", "TRUE", "on", "On", "ON"]

/-- The spellings of false. -/
def falseWords : List String :=
  ["no", "No", "NO", "false", "False", "FALSE", "off", "Off", "OFF"]

/-- The number that digits stand for. Underscores may stand between and after them. -/
def natOfDigits? (base : Nat) (digits : List Char) : Option Nat :=
  match (digits.filter (· != '_')).mapM (digitValue? base) with
  | some (first :: rest) => some (numberOfDigits base (first :: rest))
  | _ => none

/-- A sign, if there is one; true for a minus. -/
def splitSign (text : List Char) : Bool × List Char :=
  match text with
  | '-' :: rest => (true, rest)
  | '+' :: rest => (false, rest)
  | _ => (false, text)

/-- A decimal number: it starts with a digit, an underscore never comes first. -/
def decimal? (text : List Char) : Option Nat :=
  match text with
  | '_' :: _ => none
  | _ => natOfDigits? 10 text

/-- The parts of a text between colons. -/
def splitAtColons : List Char → List (List Char)
  | [] => [[]]
  | character :: rest =>
    match splitAtColons rest with
    | [] => [[character]]
    | part :: more => if character = ':' then [] :: part :: more else (character :: part) :: more

/-- A part of a number in base sixty: one or two digits below sixty. -/
def sixtieth? (part : List Char) : Option Nat :=
  match part with
  | [_] | [_, _] => ((part.mapM (digitValue? 10)).map (numberOfDigits 10)).filter (· < 60)
  | _ => none

/-- The number of a text without sign. A leading zero marks base eight. -/
def natural? (text : List Char) : Option Nat :=
  match text with
  | ['0'] => some 0
  | '0' :: 'b' :: digits => natOfDigits? 2 digits
  | '0' :: 'x' :: digits => natOfDigits? 16 digits
  | '0' :: digits => natOfDigits? 8 ('0' :: digits)
  | _ =>
    match splitAtColons text with
    | [whole] => decimal? whole
    | whole :: parts => do
      let size ← decimal? whole
      let sixtieths ← parts.mapM sixtieth?
      return sixtieths.foldl (60 * · + ·) size
    | [] => none

/-- The whole number of a text. -/
def integer? (text : List Char) : Option Int :=
  let (negative, size) := splitSign text
  (natural? size).map fun size => if negative then -(size : Int) else size

/-- How many digits a whole number is written with, before its parts in base sixty. In the other bases, which a
zero marks, the count does not matter. -/
def decimalDigits (text : List Char) : Nat :=
  let digits := ((splitSign text).2.takeWhile (· != ':')).filter (· != '_')
  if digits.head? = some '0' then 0 else digits.length

/-- The exponent of a double, whose sign must be written; no text at all is the exponent zero. -/
def exponent? (text : List Char) : Option Int :=
  match text with
  | [] => some 0
  | mark :: sign :: digits =>
    if (mark = 'e' ∨ mark = 'E') ∧ (sign = '-' ∨ sign = '+') then
      ((digits.mapM (digitValue? 10)).filter (!·.isEmpty)).map fun digits =>
        let size : Int := numberOfDigits 10 digits
        if sign = '-' then -size else size
    else none
  | _ => none

/-- The double of a text: digits around a point that is always written. Without digits before the
point there is no sign and at least one digit after it. -/
def double? (text : List Char) : Option Binary64 :=
  let (negative, unsigned) := splitSign text
  if [".inf", ".Inf", ".INF"].contains (String.ofList unsigned) then some (.infinite negative)
  else if [".nan", ".NaN", ".NAN"].contains (String.ofList text) then some .nan
  else
    let isPlace (character : Char) : Bool := character.isDigit || character == '_'
    let whole := unsigned.takeWhile isPlace
    match unsigned.dropWhile isPlace with
    | '.' :: afterPoint =>
      let places := (afterPoint.takeWhile isPlace).filter (· != '_')
      let fits :=
        match whole with
        | [] => text.length == unsigned.length && (afterPoint.head?.map Char.isDigit).getD false
        | first :: _ => first != '_'
      if fits then do
        let exponent ← exponent? (afterPoint.dropWhile isPlace)
        let digits ← natOfDigits? 10 ('0' :: whole ++ places)
        return .ofDecimal negative digits (exponent - places.length)
      else none
    | _ => none

/-- A double in base sixty. -/
def isSixtiethDouble (text : List Char) : Bool :=
  let isPlace (character : Char) : Bool := character.isDigit || character == '_'
  match (splitAtColons (splitSign text).2).reverse with
  | last :: part :: more =>
    let parts := part :: more
    let whole := parts.getLast?.getD []
    (sixtieth? (last.takeWhile (· != '.'))).isSome && (last.dropWhile (· != '.')).head? == some '.' &&
      ((last.dropWhile (· != '.')).drop 1).all isPlace && (parts.dropLast.all fun part => (sixtieth? part).isSome) &&
      (whole.head?.map Char.isDigit).getD false && whole.all isPlace
  | _ => false

/-! ## Timestamps -/

/-- A number of one digit or of two. -/
def oneOrTwo? (text : List Char) : Option (Nat × List Char) :=
  (Settings.digits? 2 0 99 text).or (Settings.digits? 1 0 9 text)

/-- A blank within a line. -/
def isGap (character : Char) : Bool :=
  character == ' ' || character == '\t'

/-- The text after the mark or the blanks between a day and a time of day. -/
def afterDay? (text : List Char) : Option (List Char) :=
  match text with
  | 'T' :: rest | 't' :: rest => some rest
  | character :: rest => if isGap character then some (rest.dropWhile isGap) else none
  | [] => none

/-- A time of day. Its parts may be out of range. -/
def clock? (text : List Char) : Option (Clock × List Char) := do
  let (hour, afterHour) ← oneOrTwo? text
  let (minute, afterMinute) ← Settings.digits? 2 0 99 (← Settings.afterMark? (· == ':') afterHour)
  let (second, afterSecond) ← Settings.digits? 2 0 99 (← Settings.afterMark? (· == ':') afterMinute)
  -- The point of a fraction may stand without digits.
  let isBare := afterSecond.head? == some '.' && ((afterSecond.drop 1).head?.map Char.isDigit).getD false == false
  let (micros, after) := if isBare then (0, afterSecond.drop 1) else Settings.readMicros afterSecond
  return ({ hour, minute, second, micros }, after)

/-- The offset that ends a timestamp, in minutes. -/
def offset? (text : List Char) : Option (Option Int) :=
  match text.dropWhile isGap with
  | [] => if text.isEmpty then some none else none
  | ['Z'] => some (some 0)
  | mark :: rest =>
    if mark = '+' ∨ mark = '-' then do
      let (hours, afterHours) ← oneOrTwo? rest
      let (minutes, after) ←
        match afterHours with
        | ':' :: more => Settings.digits? 2 0 99 more
        | other => some (0, other)
      let size : Int := 60 * hours + minutes
      if after.isEmpty then return some (if mark = '-' then -size else size) else none
    else none

/-- The timestamp of a text, if it is written as one. A day alone has all its digits. -/
def timestamp? (text : List Char) : Option Timestamp := do
  let (year, afterYear) ← Settings.digits? 4 0 9999 text
  let (month, afterMonth) ← oneOrTwo? (← Settings.afterMark? (· == '-') afterYear)
  let (day, afterDay) ← oneOrTwo? (← Settings.afterMark? (· == '-') afterMonth)
  let date : Date := { year, month, day }
  if afterDay.isEmpty then if text.length = 10 then return .day date else none
  else
    let (clock, afterClock) ← clock? (← afterDay? afterDay)
    return .both date clock (← offset? afterClock)

/-! ## Any scalar without quotes -/

/-- Scalars of kinds that are not read here. -/
def isForeign (text : List Char) : Bool :=
  text == ['<', '<'] || text == ['='] || isSixtiethDouble text

/-- The value of a scalar without quotes, which starts where `start` does. -/
def resolve (start text : List Char) : Except Fault Value :=
  let word := String.ofList text
  if nullWords.contains word then .ok .null
  else if trueWords.contains word then .ok (.bool true)
  else if falseWords.contains word then .ok (.bool false)
  else if isForeign text then fail start
  else
    match double? text, integer? text, timestamp? text with
    | some value, _, _ => .ok (.float value)
    | none, some value, _ =>
      let count := decimalDigits text
      if count > usualDigitLimit then .error (.manyDigits count) else .ok (.int value)
    | none, none, some stamp => if stamp.exists then .ok stamp.value else .error .noSuchTimestamp
    | none, none, none => .ok (.string word)

end OutlineWiki.Yaml
