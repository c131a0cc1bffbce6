import OutlineWiki.Json.Basic
import OutlineWiki.Json.Fault
import OutlineWiki.Text.Halves

/-!
# Reading JSON

A reader for JSON text. Beyond the standard it takes the words for the three doubles that are not
finite. A string may name half a surrogate pair, which no text here can hold, and a whole number may have
more digits than there is room for; what is made of them is up to the reading. Each step returns the value
it read with the text that follows, or a fault. Values nest, so the reader is bounded by a count that starts
above what any text of that length can use.
-/

namespace OutlineWiki.Json

/-- What a reader makes of texts that go beyond what it can hold: the most digits it takes in a whole
number, if there is a limit, and the character it puts in the place of half a pair. -/
structure Reading where
  digitLimit : Option Nat := none
  half : Nat → Char := fun _ => '\uFFFD'

/-- The reading with a limit to the digits of a whole number. -/
def Reading.upTo (limit : Nat) : Reading where
  digitLimit := some limit

/-- The reading of a command. -/
def Reading.usual (halves : Halves) : Reading where
  digitLimit := some usualDigitLimit
  half := halves.standIn

/-- A step that finds a fault where the given text starts. -/
def fail {α : Type} (cause : FaultCause) (rest : List Char) : Except Fault (α × List Char) :=
  .error { cause, rest }

/-- The blanks that may stand between the parts of a JSON text. -/
def isGap (character : Char) : Bool :=
  character == ' ' || character == '\t' || character == '\n' || character == '\r'

/-- Skips the blanks at the start of a text. -/
def skipGap (text : List Char) : List Char :=
  text.dropWhile isGap

/-! ## Strings -/

/-- The character that a backslash and a letter stand for. -/
def simpleEscape? : Char → Option Char
  | '"' => some '"'
  | '\\' => some '\\'
  | '/' => some '/'
  | 'b' => some '\x08'
  | 'f' => some '\x0C'
  | 'n' => some '\n'
  | 'r' => some '\r'
  | 't' => some '\t'
  | _ => none

/-- The value of a hexadecimal digit. -/
def hexDigit? (character : Char) : Option Nat :=
  let code := character.toNat
  if Nat.ble 0x30 code && Nat.ble code 0x39 then some (code - 0x30)
  else if Nat.ble 0x41 code && Nat.ble code 0x46 then some (code - 0x41 + 10)
  else if Nat.ble 0x61 code && Nat.ble code 0x66 then some (code - 0x61 + 10)
  else none

/-- Where in a string the reader is: between characters, after a backslash, or inside a
hexadecimal escape. The last two remember where the escape started. -/
inductive StringPhase where
  | plain
  | escaped (start : List Char)
  | hexadecimal (start : List Char) (missing : Nat) (value : Nat)

/-- Reads the rest of a string whose opening quote starts `opening`. The result holds code points,
and code units for hexadecimal escapes. -/
def readCodes (opening : List Char) : StringPhase → List Char → Except Fault (List Nat × List Char)
  | .plain, [] => fail .unterminatedString opening
  | .plain, character :: rest =>
    if character = '"' then .ok ([], rest)
    else if character = '\\' then readCodes opening (.escaped (character :: rest)) rest
    else if character.toNat < 0x20 then fail .controlCharacter (character :: rest)
    else do
      let (codes, after) ← readCodes opening .plain rest
      return (character.toNat :: codes, after)
  | .escaped _, [] => fail .unterminatedString opening
  | .escaped start, character :: rest =>
    if character = 'u' then readCodes opening (.hexadecimal (character :: rest) 3 0) rest
    else
      match simpleEscape? character with
      | none => fail .escape start
      | some meant => do
        let (codes, after) ← readCodes opening .plain rest
        return (meant.toNat :: codes, after)
  | .hexadecimal start _ _, [] => fail .unicodeEscape start
  | .hexadecimal start missing value, character :: rest =>
    match hexDigit? character with
    | none => fail .unicodeEscape start
    | some digit =>
      match missing with
      | more + 1 => readCodes opening (.hexadecimal start more (16 * value + digit)) rest
      | 0 =>
        -- An escape that ends the text is reported as a broken escape.
        if rest.isEmpty then fail .unicodeEscape start
        else do
          let (codes, after) ← readCodes opening .plain rest
          return ((16 * value + digit) :: codes, after)

/-- The first code unit of a pair that stands for one character. -/
def isHighSurrogate (code : Nat) : Bool :=
  Nat.ble 0xD800 code && Nat.ble code 0xDBFF

/-- The second code unit of a pair that stands for one character. -/
def isLowSurrogate (code : Nat) : Bool :=
  Nat.ble 0xDC00 code && Nat.ble code 0xDFFF

/-- The character of a code point; half a pair on its own is up to the reading. -/
def charOfCode (code : Nat) (reading : Reading := {}) : Char :=
  if isHighSurrogate code || isLowSurrogate code then reading.half code else .ofNat code

/-- The characters of a list of codes, pairs of code units joined. -/
def charsOfCodes (codes : List Nat) (reading : Reading := {}) : List Char :=
  match codes with
  | [] => []
  | [code] => [charOfCode code reading]
  | high :: low :: rest =>
    if isHighSurrogate high && isLowSurrogate low then
      .ofNat (0x10000 + (high - 0xD800) * 0x400 + (low - 0xDC00)) :: charsOfCodes rest reading
    else
      charOfCode high reading :: charsOfCodes (low :: rest) reading

/-- Reads a string from after its opening quote, which starts `opening`. -/
def readString (opening rest : List Char) (reading : Reading := {}) : Except Fault (String × List Char) := do
  let (codes, after) ← readCodes opening .plain rest
  return (.ofList (charsOfCodes codes reading), after)

/-! ## Numbers -/

/-- The value of a run of decimal digits. -/
def natOfDigits (digits : List Char) : Nat :=
  digits.foldl (fun value digit => 10 * value + (digit.toNat - 0x30)) 0

/-- The digits after a point, when a point with at least one digit after it comes next. -/
def readFraction (text : List Char) : Option (List Char) × List Char :=
  match text with
  | '.' :: rest =>
    let digits := rest.takeWhile Char.isDigit
    if digits.isEmpty then (none, text) else (some digits, rest.dropWhile Char.isDigit)
  | _ => (none, text)

/-- The exponent, when a mark with at least one digit after it and its sign comes next. -/
def readExponent (text : List Char) : Option Int × List Char :=
  match text with
  | mark :: rest =>
    if mark = 'e' ∨ mark = 'E' then
      let (negative, afterSign) :=
        match rest with
        | '-' :: more => (true, more)
        | '+' :: more => (false, more)
        | more => (false, more)
      let digits := afterSign.takeWhile Char.isDigit
      if digits.isEmpty then (none, text)
      else
        let size : Int := natOfDigits digits
        (some (if negative then -size else size), afterSign.dropWhile Char.isDigit)
    else (none, text)
  | [] => (none, text)

/-- The digits before the point: a zero alone, or digits that start with none. -/
def readWhole? (text : List Char) : Option (List Char × List Char) :=
  match text with
  | '0' :: rest => some (['0'], rest)
  | digit :: _ =>
    if digit.isDigit then some (text.takeWhile Char.isDigit, text.dropWhile Char.isDigit) else none
  | [] => none

/-- The number of a sign, its digits and its exponent. -/
def numberOf (negative : Bool) (whole : List Char) (fraction : Option (List Char))
    (exponent : Option Int) : Json :=
  match fraction, exponent with
  | none, none =>
    let size : Int := natOfDigits whole
    .int (if negative then -size else size)
  | _, _ =>
    let places := fraction.getD []
    .float (.ofDecimal negative (natOfDigits (whole ++ places)) (exponent.getD 0 - places.length))

/-- The limit that a number goes beyond, if it does. Only a number without point and exponent is whole. -/
def Reading.exceeded? (reading : Reading) (whole : List Char) (fraction : Option (List Char))
    (exponent : Option Int) : Option Nat :=
  reading.digitLimit.filter fun limit => fraction.isNone && exponent.isNone && limit < whole.length

/-- Without a limit no number goes beyond it. -/
@[simp] theorem Reading.exceeded?_unlimited (whole : List Char) (fraction : Option (List Char))
    (exponent : Option Int) : ({} : Reading).exceeded? whole fraction exponent = none :=
  rfl

/-- Reads a number. -/
def readNumber (text : List Char) (reading : Reading := {}) : Except Fault (Json × List Char) :=
  let (negative, unsigned) :=
    match text with
    | '-' :: rest => (true, rest)
    | _ => (false, text)
  match readWhole? unsigned with
  | none => fail .value text
  | some (whole, afterWhole) =>
    let (fraction, afterFraction) := readFraction afterWhole
    let (exponent, after) := readExponent afterFraction
    match reading.exceeded? whole fraction exponent with
    | some limit => fail (.manyDigits whole.length limit) text
    | none => .ok (numberOf negative whole fraction exponent, after)

/-! ## Values -/

/-- The words that stand for values. -/
def words : List (List Char × Json) :=
  [("null".toList, .null), ("true".toList, .bool true), ("false".toList, .bool false),
    ("NaN".toList, .float .nan), ("Infinity".toList, .float (.infinite false)),
    ("-Infinity".toList, .float (.infinite true))]

/-- The value of the word that a text starts with. -/
def readWord? (text : List Char) : Option (Json × List Char) :=
  (words.find? fun word => word.1.isPrefixOf text).map fun word => (word.2, text.drop word.1.length)

/-- An object with each key once: the last value of a key, in the place of the first. -/
def objectOf (members : List (String × Json)) : Json :=
  .object (members.foldl (fun kept member => setMember kept member.1 member.2) [])

mutual

/-- Reads a value that starts where the text starts. -/
def readValue (bound : Nat) (text : List Char) (reading : Reading := {}) : Except Fault (Json × List Char) :=
  match bound with
  | 0 => fail .value text
  | bound + 1 =>
    match text with
    | '"' :: rest => do
      let (value, after) ← readString text rest reading
      return (.string value, after)
    | '[' :: rest =>
      match skipGap rest with
      | ']' :: after => .ok (.array [], after)
      | inside => do
        let (items, after) ← readItems bound inside reading
        return (.array items, after)
    | '\x7b' :: rest =>
      match skipGap rest with
      | '\x7d' :: after => .ok (.object [], after)
      | inside => do
        let (members, after) ← readMembers bound inside reading
        return (objectOf members, after)
    | _ =>
      match readWord? text with
      | some found => .ok found
      | none => readNumber text reading

/-- Reads the items of a list that is not empty, up to its closing bracket. -/
def readItems (bound : Nat) (text : List Char) (reading : Reading := {}) :
    Except Fault (List Json × List Char) :=
  match bound with
  | 0 => fail .value text
  | bound + 1 => do
    let (item, afterItem) ← readValue bound text reading
    match skipGap afterItem with
    | ']' :: after => return ([item], after)
    | ',' :: more =>
      let (items, after) ← readItems bound (skipGap more) reading
      return (item :: items, after)
    | other => fail .comma other

/-- Reads the members of an object that is not empty, up to its closing brace. -/
def readMembers (bound : Nat) (text : List Char) (reading : Reading := {}) :
    Except Fault (List (String × Json) × List Char) :=
  match bound with
  | 0 => fail .value text
  | bound + 1 =>
    match text with
    | '"' :: rest => do
      let (key, afterKey) ← readString text rest reading
      match skipGap afterKey with
      | ':' :: beforeValue =>
        let (value, afterValue) ← readValue bound (skipGap beforeValue) reading
        match skipGap afterValue with
        | '\x7d' :: after => return ([(key, value)], after)
        | ',' :: more =>
          let (members, after) ← readMembers bound (skipGap more) reading
          return ((key, value) :: members, after)
        | other => fail .comma other
      | other => fail .colon other
    | other => fail .memberName other

end

/-- Reads a text that holds one value and nothing else. -/
def readAll (text : List Char) (reading : Reading := {}) : Except Fault Json :=
  match text with
  | '\uFEFF' :: _ => .error { cause := .byteOrderMark, rest := text }
  | _ => do
    let (value, after) ← readValue (2 * text.length + 2) (skipGap text) reading
    match skipGap after with
    | [] => return value
    | other => .error { cause := .trailingText, rest := other }

/-- The value that a JSON text stands for, or the first fault in it. -/
def parse (text : String) (reading : Reading := {}) : Except LocatedFault Json :=
  (readAll text.toList reading).mapError (·.locate text.toList)

end OutlineWiki.Json
