import OutlineWiki.Json.Reader

/-!
# The language of JSON texts

Which texts are JSON and which value each of them stands for, by rules that mention neither a place in
the text nor a bound. Beyond the standard there are the words for the three doubles that are not finite;
of several members with one key the last value counts. Every rule speaks of a whole text, so that a
text with more behind its value is not JSON.
-/

namespace OutlineWiki.Json

/-- A text of nothing but blanks, as it may stand between the parts of a text. -/
def IsGap (text : List Char) : Prop :=
  ∀ character ∈ text, isGap character

/-! ## Strings -/

/-- What stands between the quotes of a string, and the codes it stands for. A quote, a backslash and
the control characters below the space only stand there as escapes. -/
inductive StringText : List Char → List Nat → Prop where
  | empty : StringText [] []
  | plain {character : Char} {text : List Char} {codes : List Nat} (noQuote : character ≠ '"')
      (noBackslash : character ≠ '\\') (noControl : 0x20 ≤ character.toNat)
      (rest : StringText text codes) : StringText (character :: text) (character.toNat :: codes)
  | simple {letter meant : Char} {text : List Char} {codes : List Nat}
      (escape : simpleEscape? letter = some meant) (rest : StringText text codes) :
      StringText ('\\' :: letter :: text) (meant.toNat :: codes)
  | unicode {digits : List Char} {values : List Nat} {text : List Char} {codes : List Nat}
      (four : digits.length = 4) (hexadecimal : digits.mapM hexDigit? = some values)
      (rest : StringText text codes) :
      StringText ('\\' :: 'u' :: (digits ++ text))
        (values.foldl (fun code value => 16 * code + value) 0 :: codes)

/-! ## Numbers -/

/-- A run of at least one decimal digit. -/
structure IsDigits (digits : List Char) : Prop where
  notEmpty : digits ≠ []
  decimal : ∀ digit ∈ digits, digit.isDigit

/-- The digits before the point: a zero alone, or digits that start with none. -/
inductive WholeText : List Char → Prop where
  | zero : WholeText ['0']
  | digits {digits : List Char} (run : IsDigits digits) (noZero : digits.head? ≠ some '0') :
      WholeText digits

/-- A point and the digits after it, or nothing. -/
inductive FractionText : List Char → Option (List Char) → Prop where
  | absent : FractionText [] none
  | present {digits : List Char} (run : IsDigits digits) : FractionText ('.' :: digits) (some digits)

/-- The sign that may stand before the digits of an exponent, and whether it makes it negative. -/
inductive SignText : List Char → Bool → Prop where
  | absent : SignText [] false
  | plus : SignText ['+'] false
  | minus : SignText ['-'] true

/-- A mark, a sign and the digits of an exponent, or nothing. -/
inductive ExponentText : List Char → Option Int → Prop where
  | absent : ExponentText [] none
  | present {mark : Char} {sign digits : List Char} {negative : Bool} (isMark : mark = 'e' ∨ mark = 'E')
      (signed : SignText sign negative) (run : IsDigits digits) :
      ExponentText (mark :: (sign ++ digits))
        (some (if negative then -(natOfDigits digits : Int) else natOfDigits digits))

/-- A number without its sign, and what it stands for with one or without. -/
inductive UnsignedText : List Char → (Bool → Json) → Prop where
  | parts {whole fraction exponent : List Char} {places : Option (List Char)} {power : Option Int}
      (wholeText : WholeText whole) (fractionText : FractionText fraction places)
      (exponentText : ExponentText exponent power) :
      UnsignedText (whole ++ (fraction ++ exponent)) (numberOf · whole places power)

/-- A number and what it stands for. -/
inductive NumberText : List Char → Json → Prop where
  | unsigned {text : List Char} {value : Bool → Json} (unsigned : UnsignedText text value) :
      NumberText text (value false)
  | negative {text : List Char} {value : Bool → Json} (unsigned : UnsignedText text value) :
      NumberText ('-' :: text) (value true)

/-! ## Values -/

mutual

/-- The text of a value, without blanks around it. -/
inductive ValueText : List Char → Json → Prop where
  | word {text : List Char} {value : Json} (isWord : (text, value) ∈ words) : ValueText text value
  | number {text : List Char} {value : Json} (isNumber : NumberText text value) : ValueText text value
  | string {text : List Char} {codes : List Nat} (inside : StringText text codes) :
      ValueText ('"' :: (text ++ ['"'])) (.string (.ofList (charsOfCodes codes)))
  | emptyArray {gap : List Char} (blank : IsGap gap) : ValueText ('[' :: (gap ++ [']'])) (.array [])
  | array {gap text : List Char} {items : List Json} (blank : IsGap gap) (inside : ItemsText text items) :
      ValueText ('[' :: (gap ++ text)) (.array items)
  | emptyObject {gap : List Char} (blank : IsGap gap) :
      ValueText ('\x7b' :: (gap ++ ['\x7d'])) (.object [])
  | object {gap text : List Char} {members : List (String × Json)} (blank : IsGap gap)
      (inside : MembersText text members) : ValueText ('\x7b' :: (gap ++ text)) (objectOf members)

/-- The items of a list that has some, up to and with its closing bracket. -/
inductive ItemsText : List Char → List Json → Prop where
  | last {text gap : List Char} {item : Json} (itemText : ValueText text item) (blank : IsGap gap) :
      ItemsText (text ++ (gap ++ [']'])) [item]
  | next {text gap gapAfter more : List Char} {item : Json} {items : List Json}
      (itemText : ValueText text item) (blank : IsGap gap) (blankAfter : IsGap gapAfter)
      (itemsText : ItemsText more items) :
      ItemsText (text ++ (gap ++ ',' :: (gapAfter ++ more))) (item :: items)

/-- A member of an object: its key, a colon and its value. -/
inductive MemberText : List Char → String × Json → Prop where
  | pair {key gap gapAfter text : List Char} {codes : List Nat} {value : Json}
      (keyText : StringText key codes) (blank : IsGap gap) (blankAfter : IsGap gapAfter)
      (valueText : ValueText text value) :
      MemberText ('"' :: (key ++ '"' :: (gap ++ ':' :: (gapAfter ++ text))))
        (.ofList (charsOfCodes codes), value)

/-- The members of an object that has some, up to and with its closing brace. -/
inductive MembersText : List Char → List (String × Json) → Prop where
  | last {text gap : List Char} {member : String × Json} (memberText : MemberText text member)
      (blank : IsGap gap) : MembersText (text ++ (gap ++ ['\x7d'])) [member]
  | next {text gap gapAfter more : List Char} {member : String × Json} {members : List (String × Json)}
      (memberText : MemberText text member) (blank : IsGap gap) (blankAfter : IsGap gapAfter)
      (membersText : MembersText more members) :
      MembersText (text ++ (gap ++ ',' :: (gapAfter ++ more))) (member :: members)

end

/-- A text is JSON and stands for a value: it is the text of that value, with blanks around it. -/
def Spells (text : String) (value : Json) : Prop :=
  ∃ before inside after, text.toList = before ++ (inside ++ after) ∧ IsGap before ∧ IsGap after ∧
    ValueText inside value

end OutlineWiki.Json
