import OutlineWiki.Settings.Value

/-!
# Tables being filled

The state of a TOML document while it is read. A table remembers how it came to be, because that
decides what may still be added: a header opens a table once, a dotted key never enters a table that
a header has opened, and values written in place are closed for good.
-/

namespace OutlineWiki.Toml

open OutlineWiki.Settings (Value Values)

/-- How a table came to be: on the way to a header's table, by a header of its own, or by a dotted
key. -/
inductive Origin where
  | onTheWay
  | header
  | dottedKey
deriving DecidableEq, Repr

/-- What stands under a key: a closed value, a table, or a list of tables of which only the last
one can still grow. -/
inductive Item where
  | closed (value : Value)
  | table (origin : Origin) (members : List (String × Item))
  | tables (earlier : List (List (String × Item))) (last : List (String × Item))
deriving Inhabited, Repr

/-- The members of a table, in the order in which they were written. -/
abbrev Members := List (String × Item)

mutual

/-- The value that an item stands for. -/
def Item.value : Item → Value
  | .closed value => value
  | .table _ members => .table (memberValues members)
  | .tables earlier last => .list (tableValues earlier ++ [.table (memberValues last)])

/-- The values of members, under their keys. -/
def memberValues : List (String × Item) → Values
  | [] => []
  | (key, item) :: rest => (.string key, item.value) :: memberValues rest

/-- The values of several tables. -/
def tableValues : List (List (String × Item)) → List Value
  | [] => []
  | members :: rest => .table (memberValues members) :: tableValues rest

end

namespace Members

/-- The members with an item under a key, in the place of an older one. -/
def set (members : Members) (key : String) (item : Item) : Members :=
  match members with
  | [] => [(key, item)]
  | member :: rest => if member.1 == key then (key, item) :: rest else member :: set rest key item

/-- Changes the table under a key, which comes to be if there is none. -/
def within (members : Members) (key : String) (change : Members → Option Members) : Option Members :=
  match members.lookup key with
  | none => (change []).map fun inside => members.set key (.table .onTheWay inside)
  | some (.table origin inside) => (change inside).map fun inside => members.set key (.table origin inside)
  | some (.tables earlier last) => (change last).map fun last => members.set key (.tables earlier last)
  | some (.closed _) => none

/-- Opens the table of a header; none if it cannot be opened, or not once more. -/
def openTable : List String → Members → Option Members
  | [], _ => none
  | [key], members =>
    match members.lookup key with
    | none => some (members.set key (.table .header []))
    | some (.table .onTheWay inside) => some (members.set key (.table .header inside))
    | some _ => none
  | key :: path, members => members.within key (openTable path)

/-- Adds a table at the end of the list of tables of a header. -/
def addTable : List String → Members → Option Members
  | [], _ => none
  | [key], members =>
    match members.lookup key with
    | none => some (members.set key (.tables [] []))
    | some (.tables earlier last) => some (members.set key (.tables (earlier ++ [last]) []))
    | some _ => none
  | key :: path, members => members.within key (addTable path)

/-- Gives a dotted key its value; none if it has one, or if the key enters a table it must not. -/
def assign (value : Value) : List String → Members → Option Members
  | [], _ => none
  | [key], members =>
    match members.lookup key with
    | none => some (members.set key (.closed value))
    | some _ => none
  | key :: path, members =>
    match members.lookup key with
    | none => (assign value path []).map fun inside => members.set key (.table .dottedKey inside)
    | some (.table .header _) => none
    | some (.table _ inside) =>
      (assign value path inside).map fun inside => members.set key (.table .dottedKey inside)
    | some _ => none

/-- Gives a dotted key its value in the table of a header. -/
def assignIn (value : Value) (path : List String) : List String → Members → Option Members
  | [], members => members.assign value path
  | key :: header, members => members.within key (assignIn value path header)

end Members

end OutlineWiki.Toml
