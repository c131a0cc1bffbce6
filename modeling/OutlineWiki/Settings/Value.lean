import OutlineWiki.Json.Basic

/-!
# Values of settings

What the readers of the formats find in a settings file. The keys of a table can be values of any kind. Of
values that no setting can be only that is kept which messages show: the name of their kind, and their
text inside other values and on its own.
-/

namespace OutlineWiki.Settings

/-- A value in a settings file. -/
inductive Value where
  | null
  | bool (value : Bool)
  | int (value : Int)
  | float (value : Binary64)
  | string (value : String)
  | list (items : List Value)
  | table (members : List (Value × Value))
  /-- A value of another kind, as a date. -/
  | other (kind quoted shown : String)
deriving Inhabited, Repr, BEq

/-- The members of a table, in the order in which they were written. -/
abbrev Values := List (Value × Value)

namespace Value

mutual

/-- The value of a settings file that a JSON value is. -/
def ofJson : Json → Value
  | .null => .null
  | .bool value => .bool value
  | .int value => .int value
  | .float value => .float value
  | .string value => .string value
  | .array items => .list (ofItems items)
  | .object members => .table (ofMembers members)

/-- The items of a list. -/
def ofItems : List Json → List Value
  | [] => []
  | item :: rest => ofJson item :: ofItems rest

/-- The members of an object, whose keys are texts. -/
def ofMembers : List (String × Json) → Values
  | [] => []
  | (key, value) :: rest => (.string key, ofJson value) :: ofMembers rest

end

/-- Whether a value is a certain text. -/
def isText (value : Value) (text : String) : Bool :=
  match value with
  | .string found => found == text
  | _ => false

/-- The value of the first member whose key is a text. -/
def member? (members : Values) (key : String) : Option Value :=
  (members.find? fun member => member.1.isText key).map (·.2)

/-- The members with a value for a key: in the place of the old one, or at the end. -/
def setMember (members : Values) (key value : Value) : Values :=
  match members with
  | [] => [(key, value)]
  | member :: rest => if member.1 == key then (key, value) :: rest else member :: setMember rest key value

/-- The name of a value's kind in messages. -/
def kindName : Value → String
  | .null => "NoneType"
  | .bool _ => "bool"
  | .int _ => "int"
  | .float _ => "float"
  | .string _ => "str"
  | .list _ => "list"
  | .table _ => "dict"
  | .other kind _ _ => kind

mutual

/-- A value as messages show it inside another value, strings between quotes. -/
def quoted : Value → String
  | .null => "None"
  | .bool value => if value then "True" else "False"
  | .int value => toString value
  | .float value => value.toText "nan" "inf"
  | .string value => Text.quoted value
  | .list items => "[" ++ quotedItems items ++ "]"
  | .table members => "\x7b" ++ quotedMembers members ++ "\x7d"
  | .other _ quoted _ => quoted

/-- The items of a list with commas between them. -/
def quotedItems : List Value → String
  | [] => ""
  | [item] => item.quoted
  | item :: rest => item.quoted ++ ", " ++ quotedItems rest

/-- The members of a table with commas between them. -/
def quotedMembers : Values → String
  | [] => ""
  | [(key, value)] => key.quoted ++ ": " ++ value.quoted
  | (key, value) :: rest => key.quoted ++ ": " ++ value.quoted ++ ", " ++ quotedMembers rest

end

/-- A value as messages show it on its own, strings bare. -/
def shown : Value → String
  | .string value => value
  | .other _ _ shown => shown
  | value => value.quoted

end Value

end OutlineWiki.Settings
