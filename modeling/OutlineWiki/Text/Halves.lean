import OutlineWiki.Number.Digits
import OutlineWiki.Text.Quoted

/-!
# Halves of surrogate pairs

A text from outside can hold half a surrogate pair without the other half: an escape names one, and a byte that
belongs to no character is kept as one. No text here holds a half, so another character stands for it, out of a
block for private use that the texts at hand do not use for anything else. Like the halves, the characters there are
no blanks, no digits and not printable, and one cell wide. No file takes a half in its text; only in names do the
halves that are bytes pass.
-/

namespace OutlineWiki

/-- A block of characters that stand for the halves of pairs, by the code point of the first of them. -/
structure Halves where
  first : Nat := 0xF0000
  isPrivate : 0xF0000 ≤ first := by decide
  inRange : first + 0x7FF < 0x110000 := by decide
deriving DecidableEq, Repr

namespace Halves

instance : Inhabited Halves :=
  ⟨{}⟩

/-- The first of the code units that are halves. -/
def firstHalf : Nat := 0xD800

/-- The number of code units that are halves. -/
def count : Nat := 0x800

/-- The character that stands for a half. -/
def standIn (halves : Halves) (half : Nat) : Char :=
  .ofNat (halves.first + (half - firstHalf))

/-- The half that a character stands for, if it stands for one. -/
def half? (halves : Halves) (character : Char) : Option Nat :=
  let code := character.toNat
  if Nat.ble halves.first code && Nat.blt code (halves.first + count) then some (code - halves.first + firstHalf)
  else none

/-- Whether a half is kept for a byte that belongs to no character. -/
def isByte (half : Nat) : Bool :=
  Nat.ble 0xDC80 half && Nat.ble half 0xDCFF

/-- Whether a character passes where the given halves do. -/
def passes (halves : Halves) (taken : Nat → Bool) (character : Char) : Bool :=
  (halves.half? character).all taken

/-- The first halves in a row in a text that do not pass, with their position. Behind a half that does not pass
no other one passes. -/
def refused? (halves : Halves) (taken : Nat → Bool) (text : String) : Option (Nat × List Nat) :=
  let before := text.toList.takeWhile (halves.passes taken)
  match text.toList.dropWhile (halves.passes taken) with
  | [] => none
  | rest => some (before.length, (rest.takeWhile (halves.half? · |>.isSome)).filterMap halves.half?)

/-- The first halves in a row in a text, with their position: there no file takes the text. -/
def inText? (halves : Halves) (text : String) : Option (Nat × List Nat) :=
  halves.refused? (fun _ => false) text

/-- The size of a name in bytes. -/
def nameSize (halves : Halves) (name : String) : Nat :=
  name.toList.foldl (fun size character => size + if (halves.half? character).isSome then 1 else character.utf8Size) 0

/-- The character codes that escapes in a text may name, of those that need two halves or eight digits. -/
def escapedCodes : List Char → List Nat
  | '\\' :: 'u' :: rest =>
    let after := (rest.drop 4).dropWhile (· == '\\')
    match after with
    | 'u' :: more => (0x10000 + (code rest 4 - 0xD800) * 0x400 + (code more 4 - 0xDC00)) :: escapedCodes rest
    | _ => escapedCodes rest
  | '\\' :: 'U' :: rest => code rest 8 :: escapedCodes rest
  | _ :: rest => escapedCodes rest
  | [] => []
where
  code (text : List Char) (count : Nat) : Nat :=
    numberOfDigits 16 ((text.take count).filterMap (digitValue? 16))

/-- Whether texts leave the characters alone that stand for halves, also in their escapes. -/
def isFree (halves : Halves) (texts : List String) : Bool :=
  texts.all fun text =>
    (halves.inText? text).isNone && (escapedCodes text.toList).all fun code => halves.half? (.ofNat code) == none

/-- The blocks among which one is chosen. -/
def blocks : List Halves :=
  (List.finRange 64).map fun (index : Fin 64) =>
    { first := 0xF0000 + 0x800 * index.val, isPrivate := by omega, inRange := by omega }

/-- A block that texts leave alone, if there is one. -/
def freeIn (texts : List String) : Halves :=
  (blocks.find? (·.isFree texts)).getD {}

/-- Characters as a stream shows them that takes no halves: escapes name them. Where a text is quoted, the escape
of a character that stands for a half becomes that of the half. -/
def escapedChars (halves : Halves) : List Char → List Char
  | '\\' :: 'U' :: a :: b :: c :: d :: e :: f :: g :: h :: rest =>
    match halves.half? (.ofNat (escapedCodes.code [a, b, c, d, e, f, g, h] 8)) with
    | some half => '\\' :: 'u' :: Text.Chars.hexadecimal 4 half ++ escapedChars halves rest
    | none => '\\' :: 'U' :: escapedChars halves (a :: b :: c :: d :: e :: f :: g :: h :: rest)
  | character :: rest =>
    match halves.half? character with
    | some half => '\\' :: 'u' :: Text.Chars.hexadecimal 4 half ++ escapedChars halves rest
    | none => character :: escapedChars halves rest
  | [] => []

/-- A text as a stream shows it that takes no halves. -/
def escaped (halves : Halves) (text : String) : String :=
  .ofList (halves.escapedChars text.toList)

end Halves

/-- What is said about text that no file takes: one half by what it is, several only by where they are. -/
def encodingMessage (position : Nat) : List Nat → String
  | [half] =>
    "'utf-8' codec can't encode character '\\u" ++ .ofList (Text.Chars.hexadecimal 4 half) ++ "' in position " ++
      toString position ++ ": surrogates not allowed"
  | halves =>
    "'utf-8' codec can't encode characters in position " ++ toString position ++ "-" ++
      toString (position + halves.length - 1) ++ ": surrogates not allowed"

end OutlineWiki
