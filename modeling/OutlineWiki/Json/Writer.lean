import OutlineWiki.Json.Basic
import OutlineWiki.Text.Lines
import OutlineWiki.Text.Width

/-!
# Writing JSON

A value is written on one line, with a space after each comma and colon, or over several lines with
every item on a line of its own below an indentation. Strings are written as they are, with escapes
for the quote, the backslash and the control characters below the space.
-/

namespace OutlineWiki.Json

/-- How a value is laid out: on one line, or with a text of indentation for each level. -/
inductive Layout where
  | compact
  | indented (unit : String)
deriving DecidableEq, Repr

/-- One character of a written string. -/
def escapeChar (character : Char) : List Char :=
  if character = '"' then ['\\', '"']
  else if character = '\\' then ['\\', '\\']
  else if character = '\n' then ['\\', 'n']
  else if character = '\r' then ['\\', 'r']
  else if character = '\t' then ['\\', 't']
  else if character = '\x0C' then ['\\', 'f']
  else if character = '\x08' then ['\\', 'b']
  else if character.toNat < 0x20 then '\\' :: 'u' :: Text.Chars.hexadecimal 4 character.toNat
  else [character]

/-- A string between double quotes. -/
def writeString (text : String) : String :=
  .ofList ('"' :: (text.toList.flatMap escapeChar ++ ['"']))

/-- The text of a number, a truth value or null. -/
def writeScalar : Json → String
  | .null => "null"
  | .bool value => if value then "true" else "false"
  | .int value => toString value
  | .float value => value.toText "NaN" "Infinity"
  | .string value => writeString value
  | .array _ => "[]"
  | .object _ => "\x7b\x7d"

/-- The line break before an item at a depth. -/
def Layout.break (layout : Layout) (depth : Nat) : String :=
  match layout with
  | .compact => ""
  | .indented unit => "\n" ++ String.join (List.replicate depth unit)

/-- What stands between two items at a depth. -/
def Layout.separator (layout : Layout) (depth : Nat) : String :=
  match layout with
  | .compact => ", "
  | .indented _ => "," ++ layout.break depth

mutual

/-- The text of a value whose items are at the next depth. -/
def writeAt (layout : Layout) (depth : Nat) : Json → String
  | .array items =>
    match items with
    | [] => "[]"
    | _ :: _ =>
      "[" ++ layout.break (depth + 1) ++ writeItems layout (depth + 1) items ++ layout.break depth ++ "]"
  | .object members =>
    match members with
    | [] => "\x7b\x7d"
    | _ :: _ =>
      "\x7b" ++ layout.break (depth + 1) ++ writeMembers layout (depth + 1) members ++
        layout.break depth ++ "\x7d"
  | scalar => writeScalar scalar

/-- The items of a list at a depth. -/
def writeItems (layout : Layout) (depth : Nat) : List Json → String
  | [] => ""
  | [item] => writeAt layout depth item
  | item :: rest => writeAt layout depth item ++ layout.separator depth ++ writeItems layout depth rest

/-- The members of an object at a depth. -/
def writeMembers (layout : Layout) (depth : Nat) : List (String × Json) → String
  | [] => ""
  | [(key, value)] => writeString key ++ ": " ++ writeAt layout depth value
  | (key, value) :: rest =>
    writeString key ++ ": " ++ writeAt layout depth value ++ layout.separator depth ++
      writeMembers layout depth rest

end

/-- The text of a value. -/
def write (layout : Layout) (value : Json) : String :=
  writeAt layout 0 value

end OutlineWiki.Json
