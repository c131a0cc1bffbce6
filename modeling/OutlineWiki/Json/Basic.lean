import OutlineWiki.Number.Shortest
import OutlineWiki.Text.Quoted

/-!
# JSON values

The values a document tree is handed over in. Members of an object keep the order in which they
were written. Scalar fields of a node are not checked when a tree is read, so a value of any kind
can stand where a number or a text is meant; this module says how such a value counts as a
condition and how a message or the output shows it.
-/

namespace OutlineWiki

/-- A JSON value. Numbers with a point or an exponent are doubles, all others whole numbers. -/
inductive Json where
  | null
  | bool (value : Bool)
  | int (value : Int)
  | float (value : Binary64)
  | string (value : String)
  | array (items : List Json)
  | object (members : List (String × Json))
deriving Inhabited, Repr, BEq

namespace Json

/-- The value of the first member with a key. -/
def member? (members : List (String × Json)) (key : String) : Option Json :=
  (members.find? fun member => member.1 == key).map (·.2)

/-- The members with a value for a key: in the place of the old one, or at the end. -/
def setMember (members : List (String × Json)) (key : String) (value : Json) : List (String × Json) :=
  match members with
  | [] => [(key, value)]
  | member :: rest =>
    if member.1 == key then (key, value) :: rest else member :: setMember rest key value

/-- The members without those that have a key. -/
def dropMember (members : List (String × Json)) (key : String) : List (String × Json) :=
  members.filter fun member => member.1 != key

/-- A member that was set is found with its value. -/
theorem member?_setMember_self (members : List (String × Json)) (key : String) (value : Json) :
    member? (setMember members key value) key = some value := by
  induction members with
  | nil => simp [setMember, member?]
  | cons member rest inductionHypothesis =>
    by_cases same : member.1 = key
    · simp [setMember, member?, same]
    · simpa [setMember, member?, same] using inductionHypothesis

/-- Setting a member leaves the values of all other keys alone. -/
theorem member?_setMember_of_ne (members : List (String × Json)) {key other : String} (value : Json)
    (different : other ≠ key) :
    member? (setMember members key value) other = member? members other := by
  induction members with
  | nil => simp [setMember, member?, different.symm]
  | cons member rest inductionHypothesis =>
    by_cases same : member.1 = key
    · simp [setMember, member?, same, different.symm]
    · by_cases found : member.1 = other
      · subst found
        simp [setMember, member?, same]
      · simpa [setMember, member?, same, found] using inductionHypothesis

/-- A dropped member is no longer found. -/
theorem member?_dropMember_self (members : List (String × Json)) (key : String) :
    member? (dropMember members key) key = none := by
  simp [member?, dropMember]

/-- Dropping a member leaves the values of all other keys alone. -/
theorem member?_dropMember_of_ne (members : List (String × Json)) {key other : String}
    (different : other ≠ key) :
    member? (dropMember members key) other = member? members other := by
  induction members with
  | nil => rfl
  | cons member rest inductionHypothesis =>
    by_cases same : member.1 = key
    · simpa [member?, dropMember, same, different.symm] using inductionHypothesis
    · by_cases found : member.1 = other
      · simp [member?, dropMember, found, different]
      · simpa [member?, dropMember, same, found] using inductionHypothesis

/-- Whether a value counts as true: null, false, zero and everything empty do not. -/
def isTruthy : Json → Bool
  | .null => false
  | .bool value => value
  | .int value => value != 0
  | .float value => !value.isZero
  | .string value => value != ""
  | .array items => !items.isEmpty
  | .object members => !members.isEmpty

/-- The name of a value's kind in messages. -/
def kindName : Json → String
  | .null => "NoneType"
  | .bool _ => "bool"
  | .int _ => "int"
  | .float _ => "float"
  | .string _ => "str"
  | .array _ => "list"
  | .object _ => "dict"

mutual

/-- A value as messages show it inside another value, strings between quotes. -/
def quoted : Json → String
  | .null => "None"
  | .bool value => if value then "True" else "False"
  | .int value => toString value
  | .float value => value.toText "nan" "inf"
  | .string value => Text.quoted value
  | .array items => "[" ++ quotedItems items ++ "]"
  | .object members => "\x7b" ++ quotedMembers members ++ "\x7d"

/-- The items of a list with commas between them. -/
def quotedItems : List Json → String
  | [] => ""
  | [item] => item.quoted
  | item :: rest => item.quoted ++ ", " ++ quotedItems rest

/-- The members of an object with commas between them. -/
def quotedMembers : List (String × Json) → String
  | [] => ""
  | [(key, value)] => Text.quoted key ++ ": " ++ value.quoted
  | (key, value) :: rest => Text.quoted key ++ ": " ++ value.quoted ++ ", " ++ quotedMembers rest

end

/-- A value as the output shows it: a string bare, all else as in messages. -/
def shown : Json → String
  | .string value => value
  | value => value.quoted

/-- Whether a value is a number that equals one; true counts as one. -/
def isOne : Json → Bool
  | .bool value => value
  | .int value => value == 1
  | .float value => value.atLeast 1 && value.atMost 1
  | _ => false

end Json

end OutlineWiki
