import OutlineWiki.Json.Reader
import OutlineWiki.Json.Writer

/-!
# Scalars read back from their text

What the writer makes of a string or a whole number, the reader takes for that string or number, in
front of any text that does not prolong it. A string ends at its own closing quote, so any text may
follow it; a number ends where no digit, point or exponent follows.
-/

namespace OutlineWiki.Json

/-! ## Strings -/

/-- A hexadecimal digit is read with its value. -/
theorem hexDigit?_digitChar {digit : Nat} (small : digit < 16) :
    hexDigit? (Nat.digitChar digit) = some digit := by
  have every : ∀ digit < 16, hexDigit? (Nat.digitChar digit) = some digit := by decide
  exact every digit small

/-- The four digits that escape a control character. -/
theorem hexadecimal_control {code : Nat} (control : code < 0x20) :
    Text.Chars.hexadecimal 4 code =
      ['0', '0', Nat.digitChar (code / 16), Nat.digitChar (code % 16)] := by
  have every : ∀ code < 0x20, Text.Chars.hexadecimal 4 code =
      ['0', '0', Nat.digitChar (code / 16), Nat.digitChar (code % 16)] := by decide
  exact every code control

/-- Adds a code to what was read after it. -/
def consCode (code : Nat) (found : List Nat × List Char) : List Nat × List Char :=
  (code :: found.1, found.2)

/-- A backslash and a letter are read as the character the letter stands for. -/
theorem readCodes_simpleEscape {letter meant : Char} (simple : simpleEscape? letter = some meant)
    (opening rest : List Char) :
    readCodes opening .plain ('\\' :: letter :: rest) =
      (readCodes opening .plain rest).map (consCode meant.toNat) := by
  have noUnicode : letter ≠ 'u' := by
    rintro rfl
    simp [simpleEscape?] at simple
  rw [readCodes, if_neg (by decide), if_pos rfl, readCodes, if_neg noUnicode, simple]
  cases readCodes opening .plain rest <;> rfl

/-- Four hexadecimal digits are read as the code they write, if anything follows them. -/
theorem readCodes_unicodeEscape {code : Nat} (control : code < 0x20) (opening : List Char)
    {rest : List Char} (more : rest ≠ []) :
    readCodes opening .plain ('\\' :: 'u' :: (Text.Chars.hexadecimal 4 code ++ rest)) =
      (readCodes opening .plain rest).map (consCode code) := by
  have zero : hexDigit? '0' = some 0 := rfl
  have high : hexDigit? (Nat.digitChar (code / 16)) = some (code / 16) :=
    hexDigit?_digitChar (by omega)
  have low : hexDigit? (Nat.digitChar (code % 16)) = some (code % 16) :=
    hexDigit?_digitChar (by omega)
  have whole : 16 * (16 * (16 * 0 + 0) + code / 16) + code % 16 = code := by omega
  have notEmpty : ¬ rest.isEmpty = true := by simpa using more
  rw [hexadecimal_control control]
  simp only [List.cons_append, List.nil_append]
  rw [readCodes, if_neg (by decide), if_pos rfl, readCodes, if_pos rfl]
  simp only [readCodes, zero, high, low, Nat.mul_zero, Nat.zero_add, notEmpty]
  rw [show 16 * (code / 16) + code % 16 = code by omega]
  cases readCodes opening .plain rest <;> rfl

/-- A written character is read as itself, if anything follows it. -/
theorem readCodes_escapeChar (opening : List Char) (character : Char) {rest : List Char}
    (more : rest ≠ []) :
    readCodes opening .plain (escapeChar character ++ rest) =
      (readCodes opening .plain rest).map (consCode character.toNat) := by
  unfold escapeChar
  split
  · subst character; exact readCodes_simpleEscape rfl opening rest
  split
  · subst character; exact readCodes_simpleEscape rfl opening rest
  split
  · subst character; exact readCodes_simpleEscape rfl opening rest
  split
  · subst character; exact readCodes_simpleEscape rfl opening rest
  split
  · subst character; exact readCodes_simpleEscape rfl opening rest
  split
  · subst character; exact readCodes_simpleEscape rfl opening rest
  split
  · subst character; exact readCodes_simpleEscape rfl opening rest
  split
  case isTrue control => exact readCodes_unicodeEscape control opening more
  case isFalse noQuote noBackslash _ _ _ _ _ noControl =>
    rw [List.singleton_append, readCodes, if_neg noQuote, if_neg noBackslash, if_neg noControl]
    cases readCodes opening .plain rest <;> rfl

/-- The inside of a written string is read up to its closing quote. -/
theorem readCodes_written (opening characters rest : List Char) :
    readCodes opening .plain (characters.flatMap escapeChar ++ '"' :: rest) =
      .ok (characters.map Char.toNat, rest) := by
  induction characters with
  | nil => rfl
  | cons character characters inductionHypothesis =>
    rw [List.flatMap_cons, List.append_assoc, readCodes_escapeChar opening character (by simp),
      inductionHypothesis]
    rfl

/-- No character is the first half of a pair of code units. -/
theorem isHighSurrogate_toNat (character : Char) : isHighSurrogate character.toNat = false := by
  have valid : character.toNat.isValidChar := character.valid
  rw [isHighSurrogate, ← Bool.not_eq_true, Bool.and_eq_true, Nat.ble_eq, Nat.ble_eq]
  simp only [Nat.isValidChar] at valid
  omega

/-- No character is the second half of a pair of code units. -/
theorem isLowSurrogate_toNat (character : Char) : isLowSurrogate character.toNat = false := by
  have valid : character.toNat.isValidChar := character.valid
  rw [isLowSurrogate, ← Bool.not_eq_true, Bool.and_eq_true, Nat.ble_eq, Nat.ble_eq]
  simp only [Nat.isValidChar] at valid
  omega

/-- The code of a character stands for that character. -/
theorem charOfCode_toNat (character : Char) : charOfCode character.toNat = character := by
  simp [charOfCode, isHighSurrogate_toNat, isLowSurrogate_toNat]

/-- The codes of characters stand for those characters: none of them is joined with the next. -/
theorem charsOfCodes_map_toNat (characters : List Char) :
    charsOfCodes (characters.map Char.toNat) = characters := by
  induction characters with
  | nil => rfl
  | cons character characters inductionHypothesis =>
    cases characters with
    | nil => simp [charsOfCodes, charOfCode_toNat]
    | cons next characters =>
      simp only [List.map_cons] at inductionHypothesis ⊢
      rw [charsOfCodes, isHighSurrogate_toNat, Bool.false_and, if_neg Bool.false_ne_true,
        charOfCode_toNat, inductionHypothesis]

/-- A written string is read back. -/
theorem readString_written (opening : List Char) (text : String) (rest : List Char) :
    readString opening (text.toList.flatMap escapeChar ++ '"' :: rest) = .ok (text, rest) := by
  simp [readString, readCodes_written, charsOfCodes_map_toNat, bind, Except.bind, pure, Except.pure]

/-- The characters of a written string. -/
theorem toList_writeString (text : String) :
    (writeString text).toList = '"' :: (text.toList.flatMap escapeChar ++ ['"']) :=
  String.toList_ofList

/-! ## Whole numbers -/

/-- A text that does not prolong a number in front of it. -/
def EndsNumber (rest : List Char) : Prop :=
  ∀ next ∈ rest.head?, next.isDigit = false ∧ next ≠ '.' ∧ next ≠ 'e' ∧ next ≠ 'E'

/-- The digits in front of a text that starts with none are all its digits. -/
theorem takeWhile_digits {digits rest : List Char} (allDigits : ∀ digit ∈ digits, digit.isDigit)
    (ends : ∀ next ∈ rest.head?, next.isDigit = false) :
    (digits ++ rest).takeWhile Char.isDigit = digits ∧
      (digits ++ rest).dropWhile Char.isDigit = rest := by
  rw [List.takeWhile_append_of_pos allDigits, List.dropWhile_append_of_pos allDigits]
  cases rest with
  | nil => simp
  | cons next rest => simp [ends next rfl]

/-- Nothing that does not prolong a number starts with a fraction. -/
theorem readFraction_ends {rest : List Char} (ends : EndsNumber rest) :
    readFraction rest = (none, rest) := by
  unfold readFraction
  split
  case h_1 more => exact absurd rfl (ends '.' rfl).2.1
  case h_2 => rfl

/-- Nothing that does not prolong a number starts with an exponent. -/
theorem readExponent_ends {rest : List Char} (ends : EndsNumber rest) :
    readExponent rest = (none, rest) := by
  cases rest with
  | nil => rfl
  | cons next rest =>
    obtain ⟨-, -, noSmall, noLarge⟩ := ends next rfl
    have noMark : ¬ (next = 'e' ∨ next = 'E') := not_or.mpr ⟨noSmall, noLarge⟩
    simp only [readExponent, if_neg noMark]

/-- The digits of a positive number do not start with a zero. -/
theorem head_toDigits_ne_zero {number : Nat} (positive : 0 < number) (more : List Char) :
    Nat.toDigits 10 number ≠ '0' :: more := by
  induction number using Nat.strongRecOn generalizing more with
  | ind number inductionHypothesis =>
    rw [Nat.toDigits_eq_if (by decide)]
    split
    · intro same
      have zero : number.digitChar = '0' := (List.cons.inj same).1
      simp only [Nat.digitChar_eq_zero] at zero
      omega
    · intro same
      cases front : Nat.toDigits 10 (number / 10) with
      | nil => exact Nat.toDigits_ne_nil front
      | cons digit digits =>
        rw [front, List.cons_append] at same
        obtain ⟨rfl, -⟩ := List.cons.inj same
        exact inductionHypothesis (number / 10) (by omega) (by omega) digits front

/-- No number starts with a sign. -/
theorem head_toDigits_ne_sign (number : Nat) (rest more : List Char) :
    Nat.toDigits 10 number ++ rest ≠ '-' :: more := by
  intro same
  cases shape : Nat.toDigits 10 number with
  | nil => exact Nat.toDigits_ne_nil shape
  | cons digit digits =>
    have isDigit : digit.isDigit := Nat.isDigit_of_mem_toDigits (b := 10) (n := number)
      (by decide) (by decide) (by simp [shape])
    rw [shape, List.cons_append] at same
    obtain ⟨rfl, -⟩ := List.cons.inj same
    exact absurd isDigit (by decide)

/-- The digits of a number are the whole part of what they start. -/
theorem readWhole?_toDigits (number : Nat) {rest : List Char} (ends : EndsNumber rest) :
    readWhole? (Nat.toDigits 10 number ++ rest) = some (Nat.toDigits 10 number, rest) := by
  rcases Nat.eq_zero_or_pos number with rfl | positive
  · simp [readWhole?]
  · have allDigits : ∀ digit ∈ Nat.toDigits 10 number, digit.isDigit := fun _ =>
      Nat.isDigit_of_mem_toDigits (by decide) (by decide)
    obtain ⟨taken, dropped⟩ := takeWhile_digits allDigits fun next first => (ends next first).1
    cases shape : Nat.toDigits 10 number with
    | nil => exact absurd shape Nat.toDigits_ne_nil
    | cons digit digits =>
      have noZero : digit ≠ '0' := by
        rintro rfl
        exact head_toDigits_ne_zero positive digits shape
      have isDigit : digit.isDigit := allDigits digit (by simp [shape])
      rw [shape] at taken dropped
      rw [List.cons_append] at taken dropped ⊢
      unfold readWhole?
      split
      case h_1 same => exact absurd (List.cons.inj same).1 noZero
      case h_2 other _ same =>
        obtain ⟨rfl, -⟩ := List.cons.inj same
        rw [if_pos isDigit, taken, dropped]
      case h_3 same => cases same

/-- The digits of a number stand for it. -/
theorem natOfDigits_toDigits (number : Nat) : natOfDigits (Nat.toDigits 10 number) = number := by
  have spelled : natOfDigits (Nat.toDigits 10 number) =
      Nat.ofDigitChars 10 (Nat.toDigits 10 number) 0 := by
    rw [Nat.ofDigitChars_eq_foldl]
    rfl
  rw [spelled, Nat.ofDigitChars_ten_toDigits]

/-- The characters of a whole number: its digits, after a sign when it is negative. -/
theorem toList_toString_int (number : Int) :
    (toString number).toList =
      if number < 0 then '-' :: Nat.toDigits 10 number.natAbs else Nat.toDigits 10 number.natAbs := by
  cases number with
  | ofNat size =>
    have notNegative : ¬ (Int.ofNat size < 0) := by simp
    rw [if_neg notNegative]
    exact Nat.toList_repr
  | negSucc size =>
    have negative : Int.negSucc size < 0 := Int.negSucc_lt_zero size
    rw [if_pos negative]
    show ("-" ++ (size + 1).repr).toList = _
    simp [Nat.toList_repr]

/-- A written whole number is read back, in front of a text that does not prolong it. -/
theorem readNumber_written (number : Int) {rest : List Char} (ends : EndsNumber rest) :
    readNumber ((toString number).toList ++ rest) = .ok (.int number, rest) := by
  have whole := readWhole?_toDigits number.natAbs ends
  rw [toList_toString_int]
  by_cases negative : number < 0
  · have signed : -(number.natAbs : Int) = number := by omega
    have value : numberOf true (Nat.toDigits 10 number.natAbs) none none = .int number := by
      show Json.int (-(natOfDigits (Nat.toDigits 10 number.natAbs) : Int)) = .int number
      rw [natOfDigits_toDigits, signed]
    simp [if_pos negative, readNumber, whole, readFraction_ends ends, readExponent_ends ends, value]
  · have unsigned : (number.natAbs : Int) = number := by omega
    have value : numberOf false (Nat.toDigits 10 number.natAbs) none none = .int number := by
      show Json.int (natOfDigits (Nat.toDigits 10 number.natAbs) : Int) = .int number
      rw [natOfDigits_toDigits, unsigned]
    -- The sign's case of the reader is closed by this hypothesis.
    have noSign := head_toDigits_ne_sign number.natAbs rest
    rw [if_neg negative]
    simp [readNumber, whole, readFraction_ends ends, readExponent_ends ends, value]

end OutlineWiki.Json
