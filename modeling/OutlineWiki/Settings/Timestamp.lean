import OutlineWiki.Settings.Value

/-!
# Dates and times

Timestamps as settings files write them: a date, a time of day, or both, and then perhaps with an offset. No
setting of this tool is one, so it only matters which of them there are and how messages show them.
-/

namespace OutlineWiki.Settings

/-- A day by its year, month and day of the month. -/
structure Date where
  year : Nat
  month : Nat
  day : Nat
deriving DecidableEq, Repr

/-- A time of day. -/
structure Clock where
  hour : Nat
  minute : Nat
  second : Nat
  micros : Nat := 0
deriving DecidableEq, Repr

/-- A timestamp; the offset counts minutes, those of places to the west below zero. -/
inductive Timestamp where
  | day (date : Date)
  | time (clock : Clock)
  | both (date : Date) (clock : Clock) (offset : Option Int)
deriving DecidableEq, Repr

/-- Whether a year has one more day. -/
def isLeapYear (year : Nat) : Bool :=
  year % 4 == 0 && (year % 100 != 0 || year % 400 == 0)

/-- The number of days of a month. -/
def daysOf (year month : Nat) : Nat :=
  if month = 2 then if isLeapYear year then 29 else 28
  else if month = 4 ∨ month = 6 ∨ month = 9 ∨ month = 11 then 30
  else 31

/-- Whether there is such a day. Years count from one and have four digits. -/
def Date.exists (date : Date) : Bool :=
  Nat.ble 1 date.year && Nat.ble date.year 9999 && Nat.ble 1 date.month && Nat.ble date.month 12 &&
    Nat.ble 1 date.day && Nat.ble date.day (daysOf date.year date.month)

/-- Whether there is such a time of day. -/
def Clock.exists (clock : Clock) : Bool :=
  Nat.blt clock.hour 24 && Nat.blt clock.minute 60 && Nat.blt clock.second 60

/-- Whether there is such a timestamp. An offset is less than a day. -/
def Timestamp.exists : Timestamp → Bool
  | .day date => date.exists
  | .time clock => clock.exists
  | .both date clock offset => date.exists && clock.exists && offset.all fun offset => Nat.blt offset.natAbs 1440

/-- A number with at least `width` digits. -/
def padded (width number : Nat) : String :=
  let digits := toString number
  .ofList (List.replicate (width - digits.length) '0') ++ digits

/-- A day as it is written. -/
def Date.shown (date : Date) : String :=
  padded 4 date.year ++ "-" ++ padded 2 date.month ++ "-" ++ padded 2 date.day

/-- A time of day as it is written. -/
def Clock.shown (clock : Clock) : String :=
  padded 2 clock.hour ++ ":" ++ padded 2 clock.minute ++ ":" ++ padded 2 clock.second ++
    (if clock.micros = 0 then "" else "." ++ padded 6 clock.micros)

/-- An offset as it is written. -/
def shownOffset (offset : Int) : String :=
  let size := offset.natAbs
  (if offset < 0 then "-" else "+") ++ padded 2 (size / 60) ++ ":" ++ padded 2 (size % 60)

/-- The numbers of a day in a list. -/
def Date.numbers (date : Date) : List Nat :=
  [date.year, date.month, date.day]

/-- The numbers of a time of day in a list, without zeros at its end. -/
def Clock.numbers (clock : Clock) : List Nat :=
  [clock.hour, clock.minute] ++
    (if clock.micros != 0 then [clock.second, clock.micros] else if clock.second != 0 then [clock.second] else [])

/-- Numbers with commas between them. -/
def listed (numbers : List Nat) : String :=
  ", ".intercalate (numbers.map toString)

/-- An offset as messages show it inside another value. -/
def quotedOffset (offset : Int) : String :=
  let seconds := offset * 60
  let inDay :=
    if offset < 0 then "days=-1, seconds=" ++ toString (seconds + 86400) else "seconds=" ++ toString seconds
  if offset = 0 then "datetime.timezone.utc" else "datetime.timezone(datetime.timedelta(" ++ inDay ++ "))"

/-- The value that a timestamp is in a settings file. -/
def Timestamp.value : Timestamp → Value
  | .day date => .other "date" ("datetime.date(" ++ listed date.numbers ++ ")") date.shown
  | .time clock => .other "time" ("datetime.time(" ++ listed clock.numbers ++ ")") clock.shown
  | .both date clock offset =>
    let zone :=
      match offset with
      | some offset => ", tzinfo=" ++ quotedOffset offset
      | none => ""
    .other "datetime" ("datetime.datetime(" ++ listed (date.numbers ++ clock.numbers) ++ zone ++ ")")
      (date.shown ++ " " ++ clock.shown ++ (offset.map shownOffset).getD "")

/-! ## Reading -/

/-- A number of decimal digits, between bounds, at the start of a text. -/
def digits? (count least most : Nat) (text : List Char) : Option (Nat × List Char) :=
  let digits := text.take count
  let value := digits.foldl (fun value digit => 10 * value + (digit.toNat - 0x30)) 0
  if digits.length = count ∧ digits.all Char.isDigit ∧ least ≤ value ∧ value ≤ most then
    some (value, text.drop count)
  else none

/-- What follows a mark at the start of a text. -/
def afterMark? (isMark : Char → Bool) : List Char → Option (List Char)
  | [] => none
  | character :: rest => if isMark character then some rest else none

/-- The millionths of a second after a point. Further digits do not count. -/
def readMicros (text : List Char) : Nat × List Char :=
  match text with
  | '.' :: rest =>
    let digits := rest.takeWhile Char.isDigit
    let kept := (digits ++ List.replicate 6 '0').take 6
    if digits.isEmpty then (0, text)
    else (kept.foldl (fun value digit => 10 * value + (digit.toNat - 0x30)) 0, rest.dropWhile Char.isDigit)
  | _ => (0, text)

end OutlineWiki.Settings
