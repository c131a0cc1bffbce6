import OutlineWiki.Text.WidthTables

/-!
# Display width

The number of terminal cells a text takes. A text is measured from left to right: a zero width
joiner hides the character after it, and variation selector 16 widens the character before it when
that character has an emoji form. A text with a control character in it is measured one character
at a time instead, control characters counting as nothing.
-/

namespace OutlineWiki.Text

/-- The cells one character takes; none for a control character, which cannot be shown. -/
def charWidth? (character : Char) : Option Nat :=
  let code := character.toNat
  if Nat.ble 0x20 code && Nat.ble code 0x7E then some 1
  else if (Nat.ble 0x1 code && Nat.ble code 0x1F) || (Nat.ble 0x7F code && Nat.ble code 0x9F) then none
  else if zeroWidthCodes.hasCode code then some 0
  else if wideCodes.hasCode code then some 2
  else some 1

/-- The joiner that makes one glyph of the characters at its sides. -/
def zeroWidthJoiner : Char := '\u200D'

/-- The selector that asks for the emoji form of the character before it. -/
def variationSelector16 : Char := '\uFE0F'

/-- The cells variation selector 16 adds to the character it follows. -/
def selectorGain (character : Char) : Nat :=
  if emojiWidenedCodes.has character then 1 else 0

namespace Chars

/-- The cells a text takes, measured in context; none when it holds a control character that is not
hidden by a joiner. `base` is the last character that takes a cell and has not been widened. -/
def sequenceWidth? (base : Option Char) : List Char → Option Nat
  | [] => some 0
  | character :: rest =>
    if character = zeroWidthJoiner then
      match rest with
      | [] => some 0
      | _ :: afterHidden => sequenceWidth? base afterHidden
    else
      match (if character = variationSelector16 then base else none) with
      | some widened => (sequenceWidth? none rest).map (selectorGain widened + ·)
      | none =>
        match charWidth? character with
        | none => none
        | some 0 => sequenceWidth? base rest
        | some cells => (sequenceWidth? (some character) rest).map (cells + ·)

/-- The cells of the characters one by one, control characters counting as nothing. -/
def separateWidth : List Char → Nat
  | [] => 0
  | character :: rest => (charWidth? character).getD 0 + separateWidth rest

/-- The cells a text takes. -/
def displayWidth (characters : List Char) : Nat :=
  (sequenceWidth? none characters).getD (separateWidth characters)

end Chars

/-- The cells a text takes. -/
def displayWidth (text : String) : Nat :=
  Chars.displayWidth text.toList

/-- A text of spaces, or of another character. -/
def replicate (count : Nat) (character : Char) : String :=
  .ofList (List.replicate count character)

/-- The text followed by spaces up to a width; a wider text stays as it is. -/
def padToWidth (text : String) (width : Nat) : String :=
  text ++ replicate (width - displayWidth text) ' '

end OutlineWiki.Text
