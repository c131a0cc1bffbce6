import OutlineWiki.Json.Grammar
import OutlineWiki.Proofs.JsonScalars
import OutlineWiki.Proofs.Outcomes

/-!
# The strings and numbers that are read

What the reader takes for a string or a number is one by the rules of the language, and every string
and every number of the language is taken for one. A string ends at its own closing quote; a number is
taken up to what does not prolong it, part by part.
-/

namespace OutlineWiki.Json

/-! ## Strings -/

/-- Hexadecimal digits are taken one after the other, each as the next digit of the code. -/
theorem readCodes_hexadecimal {digits : List Char} {values : List Nat}
    (hexadecimal : digits.mapM hexDigit? = some values) (opening start : List Char) {missing : Nat}
    (count : digits.length = missing + 1) (value : Nat) {rest : List Char} (more : rest ≠ []) :
    readCodes opening (.hexadecimal start missing value) (digits ++ rest) =
      (readCodes opening .plain rest).map
        (consCode (values.foldl (fun code digit => 16 * code + digit) value)) := by
  induction digits generalizing values missing value with
  | nil => simp at count
  | cons character digits inductionHypothesis =>
    simp only [List.mapM_cons, Option.bind_eq_bind, Option.bind_eq_some_iff, Option.pure_def,
      Option.some.injEq] at hexadecimal
    obtain ⟨digit, isDigit, others, areDigits, rfl⟩ := hexadecimal
    rw [List.length_cons, Nat.add_right_cancel_iff] at count
    cases missing with
    | zero =>
      obtain rfl := List.length_eq_zero_iff.mp count
      obtain rfl : others = [] := by simpa using areDigits.symm
      have notEmpty : ¬ rest.isEmpty = true := by simpa using more
      simp only [List.cons_append, List.nil_append, readCodes, isDigit, if_neg notEmpty, List.foldl]
      cases readCodes opening .plain rest <;> rfl
    | succ missing =>
      simp only [List.cons_append, readCodes, isDigit, List.foldl_cons]
      exact inductionHypothesis areDigits count (16 * value + digit)

/-- A text that may stand in a string is read up to the closing quote behind it. -/
theorem readCodes_of_stringText {text : List Char} {codes : List Nat}
    (inside : StringText text codes) (opening rest : List Char) :
    readCodes opening .plain (text ++ '"' :: rest) = .ok (codes, rest) := by
  induction inside with
  | empty => rfl
  | plain noQuote noBackslash noControl _ inductionHypothesis =>
    rw [List.cons_append, readCodes, if_neg noQuote, if_neg noBackslash, if_neg (by omega),
      inductionHypothesis]
    rfl
  | simple escape _ inductionHypothesis =>
    rw [List.cons_append, List.cons_append, readCodes_simpleEscape escape, inductionHypothesis]
    rfl
  | unicode four hexadecimal _ inductionHypothesis =>
    rw [List.cons_append, List.cons_append, List.append_assoc, readCodes, if_neg (by decide),
      if_pos rfl, readCodes, if_pos rfl, readCodes_hexadecimal hexadecimal _ _ four 0 (by simp),
      inductionHypothesis]
    rfl

/-- What the reader takes up to the closing quote, by where it stands in the string: after a backslash
or inside an escape it still takes the rest of that escape. -/
def StringPhase.Takes : StringPhase → List Char → List Nat → Prop
  | .plain, text, codes => StringText text codes
  | .escaped _, text, codes => StringText ('\\' :: text) codes
  | .hexadecimal _ missing value, text, codes =>
    ∃ digits values more others, text = digits ++ more ∧ digits.length = missing + 1 ∧
      digits.mapM hexDigit? = some values ∧ StringText more others ∧
      codes = values.foldl (fun code digit => 16 * code + digit) value :: others

/-- What is read up to a quote may stand in a string. -/
theorem takes_of_readCodes {opening : List Char} {phase : StringPhase} {text rest : List Char}
    {codes : List Nat} (isRead : readCodes opening phase text = .ok (codes, rest)) :
    ∃ inside, text = inside ++ '"' :: rest ∧ phase.Takes inside codes := by
  fun_induction readCodes opening phase text generalizing codes with
  | case1 | case4 | case6 | case8 | case10 | case11 | case13 => cases isRead
  | case2 =>
    obtain ⟨rfl, rfl⟩ := Prod.mk.inj (Except.ok.inj isRead)
    exact ⟨[], rfl, .empty⟩
  | case3 rest _ inductionHypothesis =>
    obtain ⟨inside, rfl, takes⟩ := inductionHypothesis isRead
    exact ⟨'\\' :: inside, rfl, takes⟩
  | case5 character rest noQuote noBackslash noControl inductionHypothesis =>
    obtain ⟨⟨others, after⟩, others_read, isRead⟩ := bind_eq_ok.mp isRead
    obtain ⟨rfl, rfl⟩ := Prod.mk.inj (pure_eq_ok.mp isRead)
    obtain ⟨inside, rfl, takes⟩ := inductionHypothesis others_read
    exact ⟨character :: inside, rfl, .plain noQuote noBackslash (by omega) takes⟩
  | case7 start rest inductionHypothesis =>
    obtain ⟨inside, rfl, digits, values, more, others, rfl, four, hexadecimal, takes, rfl⟩ :=
      inductionHypothesis isRead
    exact ⟨'u' :: (digits ++ more), rfl, .unicode four hexadecimal takes⟩
  | case9 start letter rest _ meant escape inductionHypothesis =>
    obtain ⟨⟨others, after⟩, others_read, isRead⟩ := bind_eq_ok.mp isRead
    obtain ⟨rfl, rfl⟩ := Prod.mk.inj (pure_eq_ok.mp isRead)
    obtain ⟨inside, rfl, takes⟩ := inductionHypothesis others_read
    exact ⟨letter :: inside, rfl, .simple escape takes⟩
  | case12 start value character rest digit isDigit missing inductionHypothesis =>
    obtain ⟨inside, rfl, digits, values, more, others, rfl, count, hexadecimal, takes, rfl⟩ :=
      inductionHypothesis isRead
    refine ⟨character :: (digits ++ more), rfl, character :: digits, digit :: values, more, others, rfl,
      ?_, ?_, takes, rfl⟩
    · simpa using count
    · simp [isDigit, hexadecimal]
  | case14 start value character rest digit isDigit _ inductionHypothesis =>
    obtain ⟨⟨others, after⟩, others_read, isRead⟩ := bind_eq_ok.mp isRead
    obtain ⟨rfl, rfl⟩ := Prod.mk.inj (pure_eq_ok.mp isRead)
    obtain ⟨inside, rfl, takes⟩ := inductionHypothesis others_read
    exact ⟨character :: inside, rfl, [character], [digit], inside, others, rfl, rfl, by simp [isDigit],
      takes, rfl⟩

/-- A string is read exactly when its inside may stand in a string, up to its closing quote. -/
theorem readString_eq_ok {opening text rest : List Char} {value : String} :
    readString opening text = .ok (value, rest) ↔
      ∃ inside codes, text = inside ++ '"' :: rest ∧ StringText inside codes ∧
        value = .ofList (charsOfCodes codes) := by
  constructor
  · intro isRead
    obtain ⟨⟨codes, after⟩, codes_read, isRead⟩ := bind_eq_ok.mp isRead
    obtain ⟨rfl, rfl⟩ := Prod.mk.inj (pure_eq_ok.mp isRead)
    obtain ⟨inside, rfl, takes⟩ := takes_of_readCodes codes_read
    exact ⟨inside, codes, rfl, takes, rfl⟩
  · rintro ⟨inside, codes, rfl, spelled, rfl⟩
    rw [readString, readCodes_of_stringText spelled]
    rfl

/-! ## Numbers -/

/-- A text that does not start with a digit. -/
def EndsDigits (rest : List Char) : Prop :=
  ∀ next ∈ rest.head?, next.isDigit = false

/-- A text that starts neither with a digit nor with a point. -/
def EndsWhole (rest : List Char) : Prop :=
  ∀ next ∈ rest.head?, next.isDigit = false ∧ next ≠ '.'

/-- The digits that a text starts with, if there are any, are a run of digits. -/
theorem isDigits_takeWhile {text : List Char} (notEmpty : text.takeWhile Char.isDigit ≠ []) :
    IsDigits (text.takeWhile Char.isDigit) :=
  ⟨notEmpty, fun digit inside => List.all_eq_true.mp List.all_takeWhile digit inside⟩

/-- A run of digits starts with a digit. -/
theorem IsDigits.first {digits : List Char} (run : IsDigits digits) :
    ∃ digit more, digits = digit :: more ∧ digit.isDigit := by
  cases digits with
  | nil => exact absurd rfl run.notEmpty
  | cons digit more => exact ⟨digit, more, rfl, run.decimal digit List.mem_cons_self⟩

/-- The digits before the point start with a digit. -/
theorem WholeText.first {whole : List Char} (wholeText : WholeText whole) :
    ∃ digit more, whole = digit :: more ∧ digit.isDigit := by
  cases wholeText with
  | zero => exact ⟨'0', [], rfl, rfl⟩
  | digits run _ => exact run.first

/-- What is read as the digits before the point are such digits. -/
theorem wholeText_of_readWhole? {text whole rest : List Char}
    (isRead : readWhole? text = some (whole, rest)) : text = whole ++ rest ∧ WholeText whole := by
  unfold readWhole? at isRead
  split at isRead
  case h_1 more =>
    obtain ⟨rfl, rfl⟩ := Prod.mk.inj (Option.some.inj isRead)
    exact ⟨rfl, .zero⟩
  case h_2 digit more noZero =>
    obtain ⟨isDigit, isRead⟩ := Option.ite_none_right_eq_some.mp isRead
    obtain ⟨rfl, rfl⟩ := Prod.mk.inj (Option.some.inj isRead)
    have different : digit ≠ '0' := fun same => noZero (by rw [same])
    refine ⟨(List.takeWhile_append_dropWhile ..).symm, .digits (isDigits_takeWhile ?_) ?_⟩
    · simp [isDigit]
    · simpa [isDigit] using different
  case h_3 => cases isRead

/-- Digits before the point are read up to what is none. -/
theorem readWhole?_of_wholeText {whole rest : List Char} (wholeText : WholeText whole)
    (ends : EndsDigits rest) : readWhole? (whole ++ rest) = some (whole, rest) := by
  cases wholeText with
  | zero => rfl
  | digits run noZero =>
    obtain ⟨taken, dropped⟩ := takeWhile_digits run.decimal ends
    obtain ⟨digit, more, rfl, isDigit⟩ := run.first
    unfold readWhole?
    split
    case h_1 same => exact absurd (congrArg some (List.cons.inj same).1) noZero
    case h_2 other _ same =>
      obtain ⟨rfl, -⟩ := List.cons.inj same
      rw [if_pos isDigit, taken, dropped]
    case h_3 same => cases same

/-- What is read as a fraction is one. -/
theorem fractionText_of_readFraction {text rest : List Char} {places : Option (List Char)}
    (isRead : readFraction text = (places, rest)) :
    ∃ fraction, text = fraction ++ rest ∧ FractionText fraction places := by
  unfold readFraction at isRead
  split at isRead
  case h_1 more =>
    simp only [List.isEmpty_iff] at isRead
    split at isRead
    case isTrue =>
      obtain ⟨rfl, rfl⟩ := Prod.mk.inj isRead
      exact ⟨[], rfl, .absent⟩
    case isFalse notEmpty =>
      obtain ⟨rfl, rfl⟩ := Prod.mk.inj isRead
      exact ⟨'.' :: more.takeWhile Char.isDigit, by simp, .present (isDigits_takeWhile notEmpty)⟩
  case h_2 =>
    obtain ⟨rfl, rfl⟩ := Prod.mk.inj isRead
    exact ⟨[], rfl, .absent⟩

/-- A fraction is read up to what does not prolong it. -/
theorem readFraction_of_fractionText {fraction rest : List Char} {places : Option (List Char)}
    (fractionText : FractionText fraction places) (ends : EndsWhole rest) :
    readFraction (fraction ++ rest) = (places, rest) := by
  cases fractionText with
  | absent =>
    unfold readFraction
    split
    case h_1 more same => exact absurd rfl (ends '.' (by simp [show rest = '.' :: more from same])).2
    case h_2 => rfl
  | present run =>
    obtain ⟨taken, dropped⟩ := takeWhile_digits run.decimal fun next first => (ends next first).1
    simp [readFraction, taken, dropped, run.notEmpty]

/-- Whether a minus stands in front of the digits of an exponent, and the text after its sign. -/
def splitSign : List Char → Bool × List Char
  | '-' :: more => (true, more)
  | '+' :: more => (false, more)
  | more => (false, more)

/-- A sign in front of a text is one that may stand in front of digits. -/
theorem signText_splitSign (text : List Char) :
    ∃ sign, text = sign ++ (splitSign text).2 ∧ SignText sign (splitSign text).1 := by
  unfold splitSign
  split
  · exact ⟨['-'], rfl, .minus⟩
  · exact ⟨['+'], rfl, .plus⟩
  · exact ⟨[], rfl, .absent⟩

/-- A sign in front of a run of digits is told from them. -/
theorem splitSign_of_signText {sign digits : List Char} {negative : Bool}
    (signed : SignText sign negative) (run : IsDigits digits) (rest : List Char) :
    splitSign (sign ++ (digits ++ rest)) = (negative, digits ++ rest) := by
  obtain ⟨digit, more, rfl, isDigit⟩ := run.first
  cases signed with
  | absent =>
    unfold splitSign
    split
    case h_1 same =>
      obtain ⟨rfl, -⟩ := List.cons.inj same
      exact absurd isDigit (by decide)
    case h_2 same =>
      obtain ⟨rfl, -⟩ := List.cons.inj same
      exact absurd isDigit (by decide)
    case h_3 => rfl
  | plus => rfl
  | minus => rfl

/-- What is read as an exponent after its mark. -/
theorem readExponent_mark {mark : Char} (isMark : mark = 'e' ∨ mark = 'E') (rest : List Char) :
    readExponent (mark :: rest) =
      if (splitSign rest).2.takeWhile Char.isDigit = [] then (none, mark :: rest)
      else
        (some (if (splitSign rest).1 then
            -(natOfDigits ((splitSign rest).2.takeWhile Char.isDigit) : Int)
          else natOfDigits ((splitSign rest).2.takeWhile Char.isDigit)),
          (splitSign rest).2.dropWhile Char.isDigit) := by
  simp only [← List.isEmpty_iff]
  simp only [readExponent, if_pos isMark]
  rfl

/-- What is read as an exponent is one. -/
theorem exponentText_of_readExponent {text rest : List Char} {power : Option Int}
    (isRead : readExponent text = (power, rest)) :
    ∃ exponent, text = exponent ++ rest ∧ ExponentText exponent power := by
  cases text with
  | nil =>
    obtain ⟨rfl, rfl⟩ := Prod.mk.inj isRead
    exact ⟨[], rfl, .absent⟩
  | cons mark more =>
    by_cases isMark : mark = 'e' ∨ mark = 'E'
    · rw [readExponent_mark isMark] at isRead
      obtain ⟨sign, shape, signed⟩ := signText_splitSign more
      split at isRead
      case isTrue =>
        obtain ⟨rfl, rfl⟩ := Prod.mk.inj isRead
        exact ⟨[], rfl, .absent⟩
      case isFalse notEmpty =>
        obtain ⟨rfl, rfl⟩ := Prod.mk.inj isRead
        refine ⟨_, ?_, .present isMark signed (isDigits_takeWhile notEmpty)⟩
        rw [List.cons_append, List.append_assoc, List.takeWhile_append_dropWhile, ← shape]
    · simp only [readExponent, if_neg isMark] at isRead
      obtain ⟨rfl, rfl⟩ := Prod.mk.inj isRead
      exact ⟨[], rfl, .absent⟩

/-- An exponent is read up to what does not prolong it. -/
theorem readExponent_of_exponentText {exponent rest : List Char} {power : Option Int}
    (exponentText : ExponentText exponent power) (ends : EndsNumber rest) :
    readExponent (exponent ++ rest) = (power, rest) := by
  cases exponentText with
  | absent => exact readExponent_ends ends
  | present isMark signed run =>
    obtain ⟨taken, dropped⟩ := takeWhile_digits run.decimal fun next first => (ends next first).1
    rw [List.cons_append, List.append_assoc, readExponent_mark isMark,
      splitSign_of_signText signed run, taken, dropped, if_neg run.notEmpty]

/-- An exponent does not prolong the digits or the fraction in front of it. -/
theorem endsWhole_exponent {exponent rest : List Char} {power : Option Int}
    (exponentText : ExponentText exponent power) (ends : EndsNumber rest) :
    EndsWhole (exponent ++ rest) := by
  intro next first
  cases exponentText with
  | absent => exact ⟨(ends next first).1, (ends next first).2.1⟩
  | present isMark =>
    obtain rfl : _ = next := by simpa using first
    rcases isMark with rfl | rfl <;> exact ⟨rfl, by decide⟩

/-- A fraction does not prolong the digits in front of it. -/
theorem endsDigits_fraction {fraction rest : List Char} {places : Option (List Char)}
    (fractionText : FractionText fraction places) (ends : EndsWhole rest) :
    EndsDigits (fraction ++ rest) := by
  intro next first
  cases fractionText with
  | absent => exact (ends next first).1
  | present =>
    obtain rfl : '.' = next := by simpa using first
    rfl

/-- A number without a sign starts with a digit. -/
theorem UnsignedText.first {text : List Char} {value : Bool → Json} (unsigned : UnsignedText text value) :
    ∃ digit more, text = digit :: more ∧ digit.isDigit := by
  obtain ⟨wholeText, _, _⟩ := unsigned
  obtain ⟨digit, more, rfl, isDigit⟩ := wholeText.first
  exact ⟨digit, _, rfl, isDigit⟩

/-- The parts of a number after its sign, read one after the other. -/
def readUnsigned? (negative : Bool) (text : List Char) : Option (Json × List Char) :=
  (readWhole? text).map fun (whole, afterWhole) =>
    let (places, afterFraction) := readFraction afterWhole
    let (power, rest) := readExponent afterFraction
    (numberOf negative whole places power, rest)

/-- What is read after a sign is a number without one. -/
theorem unsignedText_of_readUnsigned? {negative : Bool} {text rest : List Char} {value : Json}
    (isRead : readUnsigned? negative text = some (value, rest)) :
    ∃ inside meant, text = inside ++ rest ∧ UnsignedText inside meant ∧ value = meant negative := by
  obtain ⟨⟨whole, afterWhole⟩, whole_read, isRead⟩ := Option.map_eq_some_iff.mp isRead
  cases fraction_read : readFraction afterWhole with | mk places afterFraction
  cases exponent_read : readExponent afterFraction with | mk power after
  simp only [fraction_read, exponent_read] at isRead
  obtain ⟨rfl, rfl⟩ := Prod.mk.inj isRead
  obtain ⟨rfl, wholeText⟩ := wholeText_of_readWhole? whole_read
  obtain ⟨fraction, rfl, fractionText⟩ := fractionText_of_readFraction fraction_read
  obtain ⟨exponent, rfl, exponentText⟩ := exponentText_of_readExponent exponent_read
  exact ⟨whole ++ (fraction ++ exponent), _, by simp, .parts wholeText fractionText exponentText, rfl⟩

/-- A number without a sign is read up to what does not prolong it. -/
theorem readUnsigned?_of_unsignedText {text rest : List Char} {meant : Bool → Json}
    (unsigned : UnsignedText text meant) (negative : Bool) (ends : EndsNumber rest) :
    readUnsigned? negative (text ++ rest) = some (meant negative, rest) := by
  obtain ⟨wholeText, fractionText, exponentText⟩ := unsigned
  have afterFraction := endsWhole_exponent exponentText ends
  have afterWhole := endsDigits_fraction fractionText afterFraction
  simp [readUnsigned?, readWhole?_of_wholeText wholeText afterWhole,
    readFraction_of_fractionText fractionText afterFraction,
    readExponent_of_exponentText exponentText ends]

/-- After a minus the reader takes a number without a sign, and makes it negative. -/
theorem readNumber_minus (text : List Char) :
    readNumber ('-' :: text) =
      match readUnsigned? true text with
      | some found => .ok found
      | none => fail .value ('-' :: text) := by
  simp only [readNumber, readUnsigned?]
  cases readWhole? text <;> rfl

/-- Without a minus the reader takes a number without a sign as it is. -/
theorem readNumber_unsigned {text : List Char} (noMinus : ∀ rest, text ≠ '-' :: rest) :
    readNumber text =
      match readUnsigned? false text with
      | some found => .ok found
      | none => fail .value text := by
  -- The hypothesis rules out the sign's case of the reader.
  simp only [readNumber, readUnsigned?]
  cases readWhole? text <;> rfl

/-- What is read as a number is one. -/
theorem numberText_of_readNumber {text rest : List Char} {value : Json}
    (isRead : readNumber text = .ok (value, rest)) :
    ∃ inside, text = inside ++ rest ∧ NumberText inside value := by
  by_cases minus : ∃ unsigned, text = '-' :: unsigned
  · obtain ⟨unsigned, rfl⟩ := minus
    rw [readNumber_minus] at isRead
    split at isRead
    case h_1 found found_read =>
      obtain rfl := Except.ok.inj isRead
      obtain ⟨inside, meant, rfl, unsignedText, rfl⟩ := unsignedText_of_readUnsigned? found_read
      exact ⟨'-' :: inside, rfl, .negative unsignedText⟩
    case h_2 => cases isRead
  · rw [readNumber_unsigned (not_exists.mp minus)] at isRead
    split at isRead
    case h_1 found found_read =>
      obtain rfl := Except.ok.inj isRead
      obtain ⟨inside, meant, rfl, unsignedText, rfl⟩ := unsignedText_of_readUnsigned? found_read
      exact ⟨inside, rfl, .unsigned unsignedText⟩
    case h_2 => cases isRead

/-- A number is read up to what does not prolong it. -/
theorem readNumber_of_numberText {text rest : List Char} {value : Json}
    (number : NumberText text value) (ends : EndsNumber rest) :
    readNumber (text ++ rest) = .ok (value, rest) := by
  cases number with
  | unsigned unsigned =>
    have noMinus : ∀ more, text ++ rest ≠ '-' :: more := by
      obtain ⟨digit, tail, rfl, isDigit⟩ := unsigned.first
      intro more same
      obtain ⟨rfl, -⟩ := List.cons.inj same
      exact absurd isDigit (by decide)
    rw [readNumber_unsigned noMinus, readUnsigned?_of_unsignedText unsigned false ends]
  | negative unsigned =>
    rw [List.cons_append, readNumber_minus, readUnsigned?_of_unsignedText unsigned true ends]

end OutlineWiki.Json
