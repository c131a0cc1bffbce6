import OutlineWiki.Yaml.Text

/-!
# Reading YAML

A reader for single YAML documents of mappings, sequences and scalars, in blocks by indentation or between
brackets and braces: the part of YAML that settings are written in. Anchors, tags, block scalars, merges,
directives and keys marked as such are refused. Keys are scalars of any kind. Parts nest, so the reader is
bounded by a count that starts above what any text of that length can use.
-/

namespace OutlineWiki.Yaml

open OutlineWiki.Settings (Value Values)

/-- The text after the colon that makes a key of the scalar between `text` and `after`. -/
def afterColon? (inFlow : Bool) (text after : List Char) : Option (List Char) :=
  match skip false after with
  | ':' :: rest => if onOneLine text (':' :: rest) && (inFlow || endsHere rest) then some rest else none
  | _ => none

/-! ## Brackets and braces -/

/-- Whether a value is left out before the text, which may only close it or go on with the next. -/
def leavesOut : List Char → Bool
  | [] => false
  | character :: _ => [',', ']', '\x7d'].contains character

mutual

/-- Reads a value inside brackets or braces, or one that starts with them. -/
def readFlow (halves : Halves) (whole : List Char) : Nat → List Char → Except Fault (Value × List Char)
  | 0, text => fail text
  | bound + 1, text =>
    match text with
    | '[' :: rest => do
      let (items, after) ← readFlowItems halves whole bound (skip false rest)
      return (.list items, after)
    | '\x7b' :: rest => do
      let (members, after) ← readFlowMembers halves whole bound [] (skip false rest)
      return (.table members, after)
    | _ => do
      let found ← readScalar halves whole true 0 text
      return (found.value, found.after)

/-- Reads the value of a key after its colon; it may be left out. -/
def readFlowValue (halves : Halves) (whole : List Char) : Nat → List Char → Except Fault (Value × List Char)
  | 0, text => fail text
  | bound + 1, text =>
    let next := skip false text
    if leavesOut next then .ok (.null, next) else readFlow halves whole bound next

/-- Reads the items up to the closing bracket. A key with its value counts as a mapping of its own. -/
def readFlowItems (halves : Halves) (whole : List Char) : Nat → List Char → Except Fault (List Value × List Char)
  | 0, text => fail text
  | bound + 1, text =>
    match text with
    | ']' :: after => .ok ([], after)
    | _ => do
      let (value, afterValue) ← readFlow halves whole bound text
      let (item, afterItem) ←
        match afterColon? true text afterValue with
        | none => pure (value, afterValue)
        | some rest =>
          match value with
          | .list _ | .table _ => fail rest
          | key => do
            let (value, after) ← readFlowValue halves whole bound rest
            pure (Value.table [(key, value)], after)
      match skip false afterItem with
      | ']' :: after => return ([item], after)
      | ',' :: rest =>
        let (items, after) ← readFlowItems halves whole bound (skip false rest)
        return (item :: items, after)
      | other => fail other

/-- Reads the members up to the closing brace, after those given. A key may stand without a value. -/
def readFlowMembers (halves : Halves) (whole : List Char) :
    Nat → Values → List Char → Except Fault (Values × List Char)
  | 0, _, text => fail text
  | bound + 1, members, text =>
    match text with
    | '\x7d' :: after => .ok (members, after)
    | _ => do
      let found ← readScalar halves whole true 0 text
      let (value, afterValue) ←
        match afterColon? true text found.after with
        | none => pure (.null, found.after)
        | some rest => readFlowValue halves whole bound rest
      let members := Value.setMember members (found.value) value
      match skip false afterValue with
      | '\x7d' :: after => return (members, after)
      | ',' :: rest => readFlowMembers halves whole bound members (skip false rest)
      | other => fail other

end

/-! ## Blocks -/

mutual

/-- Reads a node that starts where the text starts. Its later lines start at least in the column
`least`; `mayNest` tells that a sequence or a mapping may begin here. -/
def readNode (halves : Halves) (whole : List Char) : Nat → Nat → Bool → List Char → Except Fault (Value × List Char)
  | 0, _, _, text => fail text
  | bound + 1, least, mayNest, text =>
    if startsEntry text then
      if mayNest then do
        let (items, after) ← readEntries halves whole bound (columnOf whole text) text
        return (.list items, after)
      else fail text
    else
      match text with
      | '[' :: _ | '\x7b' :: _ => do
        let (value, after) ← readFlow halves whole bound text
        match afterColon? false text after with
        | some rest => fail rest
        | none => return (value, after)
      | _ => do
        let found ← readScalar halves whole false least text
        match afterColon? false text found.after with
        | none => return (found.value, found.after)
        | some rest =>
          if mayNest then
            let (members, after) ←
              readMembers halves whole bound (columnOf whole text) [] (found.value) rest
            return (.table members, after)
          else fail rest

/-- Reads the entries of a sequence whose dashes stand in the given column; the text starts with the
first one. -/
def readEntries (halves : Halves) (whole : List Char) : Nat → Nat → List Char → Except Fault (List Value × List Char)
  | 0, _, text => fail text
  | bound + 1, column, text => do
    let inside := skip false (text.drop 1)
    let (item, afterItem) ←
      if !atEnd whole inside && column < columnOf whole inside then
        readNode halves whole bound (column + 1) true inside
      else pure (.null, inside)
    let next := skip false afterItem
    if !atEnd whole next && columnOf whole next = column && startsEntry next then
      let (items, after) ← readEntries halves whole bound column next
      return (item :: items, after)
    else return ([item], next)

/-- Reads the value of a key and the members after it, whose keys stand in the given column; the text
starts after the colon of the key. -/
def readMembers (halves : Halves) (whole : List Char) :
    Nat → Nat → Values → Value → List Char → Except Fault (Values × List Char)
  | 0, _, _, _, text => fail text
  | bound + 1, column, members, key, text => do
    let inside := skip false text
    let (value, afterValue) ←
      if atEnd whole inside then pure (.null, inside)
      else if !startsLine whole inside then readNode halves whole bound (column + 1) false inside
      else if column < columnOf whole inside then readNode halves whole bound (column + 1) true inside
      else if column = columnOf whole inside && startsEntry inside then do
        let (items, after) ← readEntries halves whole bound column inside
        pure (Value.list items, after)
      else pure (.null, inside)
    let members := Value.setMember members key value
    let next := skip false afterValue
    if !atEnd whole next && columnOf whole next = column && !startsEntry next then
      let found ← readScalar halves whole false (column + 1) next
      match afterColon? false next found.after with
      | some rest => readMembers halves whole bound column members (found.value) rest
      | none => fail next
    else return (members, next)

end

/-! ## Documents -/

/-- The text after a marker at the start of a document, and whether there was one. -/
def skipStart (text : List Char) : Bool × List Char :=
  if isMarker '-' text then (true, skip false (text.drop 3)) else (false, text)

/-- Whether a text holds nothing more than the end of a document. -/
def isFinished (whole rest : List Char) : Bool :=
  let afterMarker :=
    if columnOf whole rest == 0 && isMarker '.' rest then skip false (rest.drop 3) else rest
  afterMarker.isEmpty

/-- Reads a text that holds one document and nothing else; an empty document is null. -/
def readDocument (halves : Halves) (whole : List Char) : Except Fault Value := do
  match whole.find? (!isAllowed ·) with
  | some _ => fail whole
  | none => pure ()
  let first := skip false whole
  let (marked, start) := if columnOf whole first == 0 then skipStart first else (false, first)
  let (value, after) ←
    if atEnd whole start then pure (.null, start)
    else readNode halves whole (4 * whole.length + 4) 0 (!marked || startsLine whole start) start
  let rest := skip false after
  if isFinished whole rest then return value else fail rest

/-- What a fault in a text is called. -/
def Fault.message (fault : Fault) (text : List Char) : String :=
  match fault with
  | .malformed rest =>
    "unexpected text in line " ++ toString ((text.take (text.length - rest.length)).count '\n' + 1)
  | .manyDigits count => manyDigitsMessage count usualDigitLimit
  | .noSuchTimestamp => "there is no such date or time"
  | .noSuchCharacter => "chr() arg not in range(0x110000)"

/-- The value that a text stands for. A byte order mark at its start does not count. -/
def parse (halves : Halves) (text : String) : Except Fault Value :=
  match text.toList with
  | '\uFEFF' :: rest => readDocument halves rest
  | characters => readDocument halves characters

end OutlineWiki.Yaml
