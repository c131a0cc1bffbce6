import OutlineWiki.Proofs.JsonGrammar

/-!
# Numbers too long for their reader

A reader with a limit to the digits of a whole number stops at the first one that goes beyond it, whatever
comes behind. Which texts these are is told without the reader, by what may stand before a value in a text
that is JSON so far. At all other texts the limit makes no difference.
-/

namespace OutlineWiki.Json

/-! ## What stands before a value -/

mutual

/-- The start of a value's text up to a value inside it, or up to the value itself. -/
inductive ValueLead : List Char → Prop where
  | self : ValueLead []
  | array {gap lead : List Char} (blank : IsGap gap) (inside : ItemsLead lead) :
      ValueLead ('[' :: (gap ++ lead))
  | object {gap lead : List Char} (blank : IsGap gap) (inside : MembersLead lead) :
      ValueLead ('\x7b' :: (gap ++ lead))

/-- The start of the items of a list up to a value in one of them. -/
inductive ItemsLead : List Char → Prop where
  | first {lead : List Char} (inside : ValueLead lead) : ItemsLead lead
  | later {text gap gapAfter lead : List Char} {item : Json} (itemText : ValueText text item)
      (blank : IsGap gap) (blankAfter : IsGap gapAfter) (inside : ItemsLead lead) :
      ItemsLead (text ++ (gap ++ ',' :: (gapAfter ++ lead)))

/-- The start of the members of an object up to a value in one of them. -/
inductive MembersLead : List Char → Prop where
  | first {key gap gapAfter lead : List Char} {codes : List Nat} (keyText : StringText key codes)
      (blank : IsGap gap) (blankAfter : IsGap gapAfter) (inside : ValueLead lead) :
      MembersLead ('"' :: (key ++ '"' :: (gap ++ ':' :: (gapAfter ++ lead))))
  | later {text gap gapAfter lead : List Char} {member : String × Json} (memberText : MemberText text member)
      (blank : IsGap gap) (blankAfter : IsGap gapAfter) (inside : MembersLead lead) :
      MembersLead (text ++ (gap ++ ',' :: (gapAfter ++ lead)))

end

/-- The digits of a whole number stand alone: neither more digits nor a fraction nor an exponent follows. -/
structure StandsAlone (whole after : List Char) : Prop where
  digits : ∀ more rest, after = more ++ rest → WholeText (whole ++ more) → more = []
  fraction : ∀ more rest places, after = more ++ rest → ¬ FractionText more (some places)
  exponent : ∀ more rest power, after = more ++ rest → ¬ ExponentText more (some power)

/-- A text starts with the digits of a whole number, more of them than a limit. -/
def LongDigits (limit : Nat) (text : List Char) : Prop :=
  ∃ whole after, text = whole ++ after ∧ WholeText whole ∧ StandsAlone whole after ∧ limit < whole.length

/-- A text starts with a whole number of more digits than a limit, which may have a minus. -/
def StartsLong (limit : Nat) (text : List Char) : Prop :=
  LongDigits limit text ∨ ∃ unsigned, text = '-' :: unsigned ∧ LongDigits limit unsigned

/-- A text is JSON up to a whole number of more digits than a limit. -/
def MeetsLong (limit : Nat) (text : String) : Prop :=
  ∃ gap lead rest, text.toList = gap ++ (lead ++ rest) ∧ IsGap gap ∧ ValueLead lead ∧ StartsLong limit rest

/-- A reader stops at a number that is too long for it. -/
def Stops {Value : Type} (outcome : Except Fault Value) : Prop :=
  ∃ fault, outcome = .error fault ∧ fault.cause.isOfText = false

variable {limit : Nat} {Value Next : Type}

/-- A reader that gives a value does not stop. -/
theorem not_stops_ok (value : Value) : ¬ Stops (.ok value) := by
  rintro ⟨fault, stopped, -⟩
  cases stopped

/-- A reader that finds a fault of the text does not stop. -/
theorem not_stops_error {cause : FaultCause} (ofText : cause.isOfText = true) (rest : List Char) :
    ¬ Stops (.error { cause, rest } : Except Fault Value) := by
  rintro ⟨fault, stopped, notOfText⟩
  obtain rfl := Except.error.inj stopped
  cases ofText.symm.trans notOfText

/-- Two steps of a reader stop only where one of them does. -/
theorem not_stops_bind {outcome : Except Fault Value} {next : Value → Except Fault Next}
    (first : ¬ Stops outcome) (second : ∀ value, outcome = .ok value → ¬ Stops (next value)) :
    ¬ Stops (outcome >>= next) := by
  cases outcome with
  | ok value => exact second value rfl
  | error fault =>
    rintro ⟨_, stopped, notOfText⟩
    obtain rfl := Except.error.inj stopped
    exact first ⟨_, rfl, notOfText⟩

/-! ## Long numbers -/

/-- More digits behind a run that starts with no zero are digits before the point as well. -/
theorem wholeText_append {whole more : List Char} (run : IsDigits whole) (noZero : whole.head? ≠ some '0')
    (decimal : ∀ digit ∈ more, digit.isDigit) : WholeText (whole ++ more) := by
  refine .digits ⟨by simp [run.notEmpty], fun digit inside => ?_⟩ ?_
  · rcases List.mem_append.mp inside with inWhole | inMore
    · exact run.decimal digit inWhole
    · exact decimal digit inMore
  · obtain ⟨first, others, rfl, -⟩ := run.first
    exact noZero

/-- The digits that are read before a point are all there are. -/
theorem readWhole?_eq_some {whole after : List Char} :
    readWhole? (whole ++ after) = some (whole, after) ↔
      WholeText whole ∧ ∀ more rest, after = more ++ rest → WholeText (whole ++ more) → more = [] := by
  constructor
  · intro isRead
    obtain ⟨-, wholeText⟩ := wholeText_of_readWhole? isRead
    refine ⟨wholeText, ?_⟩
    rintro (_ | ⟨digit, more⟩) rest rfl longer
    · rfl
    cases wholeText with
    | zero =>
      cases longer with
      | digits _ noZero => exact absurd rfl noZero
    | digits run noZero =>
      have isDigit : digit.isDigit := by
        generalize both : whole ++ digit :: more = digits at longer
        cases longer with
        | zero => simp [List.append_eq_singleton_iff, run.notEmpty] at both
        | digits all _ => exact all.decimal digit (by simp [← both])
      obtain ⟨first, others, rfl, isFirst⟩ := run.first
      have notZero : first ≠ '0' := fun same => noZero (by rw [same]; rfl)
      have taken : ((first :: others) ++ digit :: (more ++ rest)).takeWhile Char.isDigit =
          (first :: others) ++ (digit :: (more ++ rest)).takeWhile Char.isDigit :=
        List.takeWhile_append_of_pos run.decimal
      simp only [List.cons_append, readWhole?, if_pos isFirst] at isRead taken
      simp [taken, isDigit] at isRead
  · rintro ⟨wholeText, all⟩
    cases wholeText with
    | zero => rfl
    | digits run noZero =>
      refine readWhole?_of_wholeText (.digits run noZero) fun next first => ?_
      obtain ⟨rest, rfl⟩ : ∃ rest, after = next :: rest := by simpa [List.head?_eq_some_iff] using first
      rw [← Bool.not_eq_true]
      intro isDigit
      have longer : WholeText (whole ++ [next]) := wholeText_append run noZero (by simpa using isDigit)
      cases all [next] rest rfl longer

/-- No fraction is read exactly where none stands. -/
theorem readFraction_eq_none {text rest : List Char} :
    readFraction text = (none, rest) ↔
      rest = text ∧ ∀ more behind places, text = more ++ behind → ¬ FractionText more (some places) := by
  constructor
  · intro isRead
    obtain ⟨fraction, shape, nothing⟩ := fractionText_of_readFraction isRead
    cases nothing
    refine ⟨shape.symm, ?_⟩
    rintro more behind places rfl (_ | ⟨run⟩)
    obtain ⟨digit, others, rfl, isDigit⟩ := run.first
    simp [readFraction, isDigit] at isRead
  · rintro ⟨rfl, none⟩
    cases isRead : readFraction rest with | mk found after
    obtain ⟨fraction, shape, fractionText⟩ := fractionText_of_readFraction isRead
    cases found with
    | none =>
      cases fractionText
      rw [shape, List.nil_append]
    | some places => exact absurd fractionText (none fraction after places shape)

/-- No exponent is read exactly where none stands. -/
theorem readExponent_eq_none {text rest : List Char} :
    readExponent text = (none, rest) ↔
      rest = text ∧ ∀ more behind power, text = more ++ behind → ¬ ExponentText more (some power) := by
  constructor
  · intro isRead
    obtain ⟨exponent, shape, nothing⟩ := exponentText_of_readExponent isRead
    cases nothing
    refine ⟨shape.symm, ?_⟩
    rintro more behind power rfl (_ | ⟨isMark, signed, run⟩)
    obtain ⟨digit, others, rfl, isDigit⟩ := run.first
    rw [List.cons_append, List.append_assoc, readExponent_mark isMark, splitSign_of_signText signed run] at isRead
    simp [isDigit] at isRead
  · rintro ⟨rfl, none⟩
    cases isRead : readExponent rest with | mk found after
    obtain ⟨exponent, shape, exponentText⟩ := exponentText_of_readExponent isRead
    cases found with
    | none =>
      cases exponentText
      rw [shape, List.nil_append]
    | some power => exact absurd exponentText (none exponent after power shape)

/-- The parts of a number are beyond a limit exactly when it starts with too many digits. -/
theorem exceeded?_iff {text whole afterWhole afterFraction after : List Char} {places : Option (List Char)}
    {power : Option Int} (whole_read : readWhole? text = some (whole, afterWhole))
    (fraction_read : readFraction afterWhole = (places, afterFraction))
    (exponent_read : readExponent afterFraction = (power, after)) :
    (Reading.upTo limit).exceeded? whole places power = some limit ↔ LongDigits limit text := by
  constructor
  · intro exceeded
    simp only [Reading.exceeded?, Reading.upTo, Option.filter_eq_some_iff, Bool.and_eq_true, Option.isNone_iff_eq_none,
      decide_eq_true_eq, true_and] at exceeded
    obtain ⟨⟨rfl, rfl⟩, long⟩ := exceeded
    obtain ⟨rfl, noFraction⟩ := readFraction_eq_none.mp fraction_read
    obtain ⟨rfl, noExponent⟩ := readExponent_eq_none.mp exponent_read
    obtain ⟨rfl, -⟩ := wholeText_of_readWhole? whole_read
    obtain ⟨wholeText, noDigits⟩ := readWhole?_eq_some.mp whole_read
    exact ⟨whole, _, rfl, wholeText, ⟨noDigits, noFraction, noExponent⟩, long⟩
  · rintro ⟨digits, rest, rfl, wholeText, alone, long⟩
    rw [readWhole?_eq_some.mpr ⟨wholeText, alone.digits⟩] at whole_read
    obtain ⟨rfl, rfl⟩ := Prod.mk.inj (Option.some.inj whole_read)
    rw [readFraction_eq_none.mpr ⟨rfl, alone.fraction⟩] at fraction_read
    obtain ⟨rfl, rfl⟩ := Prod.mk.inj fraction_read
    rw [readExponent_eq_none.mpr ⟨rfl, alone.exponent⟩] at exponent_read
    obtain ⟨rfl, rfl⟩ := Prod.mk.inj exponent_read
    simp [Reading.exceeded?, Reading.upTo, long]

/-- A number that is not read has no digits that could be too many. -/
theorem not_longDigits {text : List Char} (none : readWhole? text = none) : ¬ LongDigits limit text := by
  rintro ⟨whole, after, rfl, wholeText, alone, -⟩
  rw [readWhole?_eq_some.mpr ⟨wholeText, alone.digits⟩] at none
  cases none

/-- Whether a number has a minus, and its text behind it. -/
def signedPart (text : List Char) : Bool × List Char :=
  match text with
  | '-' :: unsigned => (true, unsigned)
  | _ => (false, text)

/-- Too many digits stand at the start of a text or behind its minus. -/
theorem startsLong_iff {text : List Char} : StartsLong limit text ↔ LongDigits limit (signedPart text).2 := by
  unfold signedPart
  split
  case h_1 unsigned =>
    constructor
    · rintro (⟨whole, after, same, wholeText, -⟩ | ⟨other, same, long⟩)
      · obtain ⟨digit, others, rfl, isDigit⟩ := wholeText.first
        obtain ⟨rfl, -⟩ := List.cons.inj same
        exact absurd isDigit (by decide)
      · obtain ⟨-, rfl⟩ := List.cons.inj same
        exact long
    · exact fun long => .inr ⟨unsigned, rfl, long⟩
  case h_2 noMinus =>
    constructor
    · rintro (long | ⟨unsigned, rfl, -⟩)
      · exact long
      · exact absurd rfl (noMinus unsigned)
    · exact .inl

/-- A number is read part by part, and refused when it is too long. -/
theorem readNumber_eq (text : List Char) (reading : Reading) :
    readNumber text reading =
      match readWhole? (signedPart text).2 with
      | none => fail .value text
      | some (whole, afterWhole) =>
        match reading.exceeded? whole (readFraction afterWhole).1 (readExponent (readFraction afterWhole).2).1 with
        | some limit => fail (.manyDigits whole.length limit) text
        | none =>
          .ok (numberOf (signedPart text).1 whole (readFraction afterWhole).1
              (readExponent (readFraction afterWhole).2).1, (readExponent (readFraction afterWhole).2).2) :=
  rfl

/-- A number is read as without a limit unless it is too long. -/
theorem readNumber_limited (limit : Nat) (text : List Char) :
    (StartsLong limit text ∧ Stops (readNumber text (.upTo limit))) ∨
      (¬ StartsLong limit text ∧ readNumber text (.upTo limit) = readNumber text) := by
  rw [startsLong_iff, readNumber_eq, readNumber_eq]
  cases whole_read : readWhole? (signedPart text).2 with
  | none => exact .inr ⟨not_longDigits whole_read, rfl⟩
  | some found =>
    obtain ⟨whole, afterWhole⟩ := found
    cases fraction_read : readFraction afterWhole with | mk places afterFraction
    cases exponent_read : readExponent afterFraction with | mk power after
    simp only [fraction_read, exponent_read, Reading.exceeded?_unlimited]
    rw [← exceeded?_iff whole_read fraction_read exponent_read]
    cases exceeded : (Reading.upTo limit).exceeded? whole places power with
    | none => exact .inr ⟨by simp, rfl⟩
    | some found =>
      obtain rfl : limit = found := by
        simpa [Reading.upTo] using (Option.mem_filter_iff.mp exceeded).1
      exact .inl ⟨rfl, _, rfl, rfl⟩

/-- Without a limit no number makes the reader stop. -/
theorem not_stops_readNumber (text : List Char) : ¬ Stops (readNumber text) := by
  rw [readNumber_eq]
  simp only [Reading.exceeded?_unlimited]
  split
  · exact not_stops_error rfl text
  · exact not_stops_ok _

/-! ## Strings -/

/-- A limit to numbers says nothing about the characters of a string. -/
theorem charsOfCodes_upTo (codes : List Nat) : charsOfCodes codes (.upTo limit) = charsOfCodes codes := by
  fun_induction charsOfCodes codes (.upTo limit) <;> simp_all [charsOfCodes, charOfCode, Reading.upTo]

/-- No string makes the reader stop. -/
theorem not_stops_readCodes (opening : List Char) (phase : StringPhase) (text : List Char) :
    ¬ Stops (readCodes opening phase text) := by
  fun_induction readCodes opening phase text
  case case2 => exact not_stops_ok _
  case case3 inductionHypothesis | case7 inductionHypothesis | case12 inductionHypothesis =>
    exact inductionHypothesis
  case case5 inductionHypothesis | case9 inductionHypothesis | case14 inductionHypothesis =>
    exact not_stops_bind inductionHypothesis fun _ _ => not_stops_ok _
  all_goals exact not_stops_error rfl _

/-- A string is read as without a limit. -/
theorem readString_upTo (opening rest : List Char) :
    readString opening rest (.upTo limit) = readString opening rest := by
  simp only [readString, charsOfCodes_upTo]

/-- A string that is read does not stop the reader. -/
theorem not_stops_readString (opening rest : List Char) : ¬ Stops (readString opening rest) :=
  not_stops_bind (not_stops_readCodes opening .plain rest) fun _ _ => not_stops_ok _

/-! ## Values -/

/-- How a reader with a limit compares to one without: it may stop, and then for a reason; else it comes to the
same, and the one without does not stop. -/
def Compares (reason : Prop) (limited unlimited : Except Fault Value) : Prop :=
  (reason ∧ Stops limited) ∨ (limited = unlimited ∧ ¬ Stops unlimited)

/-- The same outcome that does not stop compares to itself. -/
theorem Compares.same {reason : Prop} {outcome : Except Fault Value} (goesOn : ¬ Stops outcome) :
    Compares reason outcome outcome :=
  .inr ⟨rfl, goesOn⟩

/-- A step that stops makes the whole stop. -/
theorem Stops.bind {outcome : Except Fault Value} (stops : Stops outcome) (next : Value → Except Fault Next) :
    Stops (outcome >>= next) := by
  obtain ⟨fault, rfl, notOfText⟩ := stops
  exact ⟨fault, rfl, notOfText⟩

/-- Two steps compare if each of them does. -/
theorem Compares.bind {first reason : Prop} {limited unlimited : Except Fault Value}
    {next nextUnlimited : Value → Except Fault Next} (known : Compares first limited unlimited)
    (because : first → reason)
    (later : ∀ value, unlimited = .ok value → Compares reason (next value) (nextUnlimited value)) :
    Compares reason (limited >>= next) (unlimited >>= nextUnlimited) := by
  rcases known with ⟨isFirst, stops⟩ | ⟨rfl, goesOn⟩
  · exact .inl ⟨because isFirst, stops.bind next⟩
  · cases limited with
    | error fault => exact .inr ⟨rfl, not_stops_bind goesOn nofun⟩
    | ok value => exact later value rfl

/-- A text leads to a number that is too long. -/
def LeadsToLong (Lead : List Char → Prop) (limit : Nat) (text : List Char) : Prop :=
  ∃ lead rest, text = lead ++ rest ∧ Lead lead ∧ StartsLong limit rest

/-- A bounded reader with a limit compares to one without: it stops where its text leads to a number that is
too long. -/
structure ComparesAll (limit bound : Nat) : Prop where
  value : ∀ text, Compares (LeadsToLong ValueLead limit text) (readValue bound text (.upTo limit))
    (readValue bound text)
  items : ∀ text, Compares (LeadsToLong ItemsLead limit text) (readItems bound text (.upTo limit))
    (readItems bound text)
  members : ∀ text, Compares (LeadsToLong MembersLead limit text) (readMembers bound text (.upTo limit))
    (readMembers bound text)

/-- A value compares if what is read for its parts does. -/
theorem compares_readValue {bound : Nat} (less : ComparesAll limit bound) (text : List Char) :
    Compares (LeadsToLong ValueLead limit text) (readValue (bound + 1) text (.upTo limit))
      (readValue (bound + 1) text) := by
  simp only [readValue]
  split
  case h_1 rest =>
    rw [readString_upTo]
    exact .same (not_stops_bind (not_stops_readString _ rest) fun _ _ => not_stops_ok _)
  case h_2 rest =>
    obtain ⟨gap, shape, blank⟩ := gap_skipGap rest
    split
    case h_1 => exact .same (not_stops_ok _)
    case h_2 =>
      refine (less.items (skipGap rest)).bind ?_ fun _ _ => .same (not_stops_ok _)
      rintro ⟨lead, long, split, inside, startsLong⟩
      exact ⟨'[' :: (gap ++ lead), long, by rw [shape, split]; simp, .array blank inside, startsLong⟩
  case h_3 rest =>
    obtain ⟨gap, shape, blank⟩ := gap_skipGap rest
    split
    case h_1 => exact .same (not_stops_ok _)
    case h_2 =>
      refine (less.members (skipGap rest)).bind ?_ fun _ _ => .same (not_stops_ok _)
      rintro ⟨lead, long, split, inside, startsLong⟩
      exact ⟨'\x7b' :: (gap ++ lead), long, by rw [shape, split]; simp, .object blank inside, startsLong⟩
  case h_4 =>
    split
    case h_1 => exact .same (not_stops_ok _)
    case h_2 =>
      rcases readNumber_limited limit text with ⟨startsLong, stops⟩ | ⟨-, same⟩
      · exact .inl ⟨⟨[], text, rfl, .self, startsLong⟩, stops⟩
      · exact .inr ⟨same, not_stops_readNumber text⟩

/-- Items compare if what is read with a smaller bound does. -/
theorem compares_readItems {bound : Nat} (less : ComparesAll limit bound) (text : List Char) :
    Compares (LeadsToLong ItemsLead limit text) (readItems (bound + 1) text (.upTo limit))
      (readItems (bound + 1) text) := by
  simp only [readItems]
  refine (less.value text).bind ?_ fun found item_read => ?_
  · rintro ⟨lead, long, split, inside, startsLong⟩
    exact ⟨lead, long, split, .first inside, startsLong⟩
  obtain ⟨item, afterItem⟩ := found
  obtain ⟨itemInside, rfl, itemText⟩ := (takesSpelled bound).value item_read
  obtain ⟨gap, shape, blank⟩ := gap_skipGap afterItem
  dsimp only
  split
  case h_1 => exact .same (not_stops_ok _)
  case h_2 more separated =>
    obtain ⟨gapAfter, shapeAfter, blankAfter⟩ := gap_skipGap more
    refine (less.items (skipGap more)).bind ?_ fun _ _ => .same (not_stops_ok _)
    rintro ⟨lead, long, split, inside, startsLong⟩
    refine ⟨_, long, ?_, .later itemText blank blankAfter inside, startsLong⟩
    rw [shape, separated, shapeAfter, split]
    simp
  case h_3 => exact .same (not_stops_error rfl _)

/-- Members compare if what is read with a smaller bound does. -/
theorem compares_readMembers {bound : Nat} (less : ComparesAll limit bound) (text : List Char) :
    Compares (LeadsToLong MembersLead limit text) (readMembers (bound + 1) text (.upTo limit))
      (readMembers (bound + 1) text) := by
  simp only [readMembers]
  split
  case h_2 => exact .same (not_stops_error rfl _)
  case h_1 rest =>
  rw [readString_upTo]
  have same : Compares False (readString ('"' :: rest) rest) (readString ('"' :: rest) rest) :=
    .same (not_stops_readString _ rest)
  refine same.bind False.elim fun found key_read => ?_
  obtain ⟨key, afterKey⟩ := found
  obtain ⟨keyInside, codes, rfl, keyText, rfl⟩ := readString_eq_ok.mp key_read
  obtain ⟨gapColon, shapeColon, blankColon⟩ := gap_skipGap afterKey
  dsimp only
  split
  case h_2 => exact .same (not_stops_error rfl _)
  case h_1 beforeValue colon =>
  obtain ⟨gapValue, shapeValue, blankValue⟩ := gap_skipGap beforeValue
  refine (less.value (skipGap beforeValue)).bind ?_ fun found value_read => ?_
  · rintro ⟨lead, long, split, inside, startsLong⟩
    refine ⟨_, long, ?_, .first keyText blankColon blankValue inside, startsLong⟩
    rw [shapeColon, colon, shapeValue, split]
    simp
  obtain ⟨value, afterValue⟩ := found
  obtain ⟨valueInside, valueShape, valueText⟩ := (takesSpelled bound).value value_read
  have memberText := MemberText.pair keyText blankColon blankValue valueText
  obtain ⟨gap, shape, blank⟩ := gap_skipGap afterValue
  dsimp only
  split
  case h_1 => exact .same (not_stops_ok _)
  case h_2 more separated =>
    obtain ⟨gapAfter, shapeAfter, blankAfter⟩ := gap_skipGap more
    refine (less.members (skipGap more)).bind ?_ fun _ _ => .same (not_stops_ok _)
    rintro ⟨lead, long, split, inside, startsLong⟩
    refine ⟨_, long, ?_, .later memberText blank blankAfter inside, startsLong⟩
    rw [shapeColon, colon, shapeValue, valueShape, shape, separated, shapeAfter, split]
    simp
  case h_3 => exact .same (not_stops_error rfl _)

/-- Whatever a bounded reader with a limit reads compares to what one without reads. -/
theorem comparesAll (limit bound : Nat) : ComparesAll limit bound := by
  induction bound with
  | zero => constructor <;> exact fun text => .same (not_stops_error rfl text)
  | succ bound inductionHypothesis =>
    exact ⟨compares_readValue inductionHypothesis, compares_readItems inductionHypothesis,
      compares_readMembers inductionHypothesis⟩

/-! ## Where the reader stops -/

/-- A text that starts with a whole number starts as a value. -/
theorem StartsLong.starts {text : List Char} (long : StartsLong limit text) : StartsValue text := by
  rcases long with ⟨whole, after, rfl, wholeText, -⟩ | ⟨unsigned, rfl, -⟩
  · obtain ⟨digit, more, rfl, isDigit⟩ := wholeText.first
    exact startsValue_digit isDigit _
  · exact ⟨'-', unsigned, rfl, rfl, by decide, by decide⟩

/-- A text up to a value inside it, with a value behind, starts as a value. -/
theorem ValueLead.starts {lead rest : List Char} (isLead : ValueLead lead) (starts : StartsValue rest) :
    StartsValue (lead ++ rest) := by
  cases isLead with
  | self => exact starts
  | array => exact ⟨'[', _, rfl, rfl, by decide, by decide⟩
  | object => exact ⟨'\x7b', _, rfl, rfl, by decide, by decide⟩

/-- Items up to a value inside one of them, with a value behind, start as a value. -/
theorem ItemsLead.starts {lead rest : List Char} (isLead : ItemsLead lead) (starts : StartsValue rest) :
    StartsValue (lead ++ rest) := by
  cases isLead with
  | first inside => exact inside.starts starts
  | later itemText =>
    obtain ⟨first, more, rfl, ink, noBracket, noMark⟩ := itemText.starts
    exact ⟨first, _, rfl, ink, noBracket, noMark⟩

/-- Members up to a value inside one of them start with the quote of a key. -/
theorem MembersLead.starts {lead : List Char} (isLead : MembersLead lead) : ∃ more, lead = '"' :: more := by
  cases isLead with
  | first => exact ⟨_, rfl⟩
  | later memberText =>
    cases memberText
    exact ⟨_, rfl⟩

/-- A bounded reader with a limit stops where a text leads to a number that is too long, if the bound covers the
way to it. -/
structure StopsAll (limit bound : Nat) : Prop where
  value : ∀ {lead rest}, ValueLead lead → StartsLong limit rest → 2 * lead.length < bound →
    Stops (readValue bound (lead ++ rest) (.upTo limit))
  items : ∀ {lead rest}, ItemsLead lead → StartsLong limit rest → 2 * lead.length + 1 < bound →
    Stops (readItems bound (lead ++ rest) (.upTo limit))
  members : ∀ {lead rest}, MembersLead lead → StartsLong limit rest → 2 * lead.length + 1 < bound →
    Stops (readMembers bound (lead ++ rest) (.upTo limit))

/-- A reader stops at a number that is too long itself. -/
theorem stops_readValue_self {text : List Char} (long : StartsLong limit text) (bound : Nat) :
    Stops (readValue (bound + 1) text (.upTo limit)) := by
  have number : Stops (readNumber text (.upTo limit)) := by
    rcases readNumber_limited limit text with ⟨-, stops⟩ | ⟨notLong, -⟩
    · exact stops
    · exact absurd long notLong
  rcases long with ⟨whole, after, rfl, wholeText, -⟩ | ⟨unsigned, rfl, whole, after, rfl, wholeText, -⟩
  · obtain ⟨digit, more, rfl, isDigit⟩ := wholeText.first
    obtain ⟨noWord, -⟩ := readWord?_digit isDigit (more ++ after)
    have noOpening : digit ≠ '"' ∧ digit ≠ '[' ∧ digit ≠ '\x7b' := by
      refine ⟨?_, ?_, ?_⟩ <;> rintro rfl <;> exact absurd isDigit (by decide)
    simpa [readValue, noWord, noOpening] using number
  · obtain ⟨digit, more, rfl, isDigit⟩ := wholeText.first
    obtain ⟨-, noWord⟩ := readWord?_digit isDigit (more ++ after)
    simpa [readValue, noWord] using number

/-- A reader stops in a value where it stops in its parts. -/
theorem stops_readValue {bound : Nat} (less : StopsAll limit bound) {lead rest : List Char}
    (isLead : ValueLead lead) (long : StartsLong limit rest) (covered : 2 * lead.length < bound + 1) :
    Stops (readValue (bound + 1) (lead ++ rest) (.upTo limit)) := by
  cases isLead with
  | self => exact stops_readValue_self long bound
  | array blank inside =>
    simp only [List.length_cons, List.length_append] at covered
    have stops := less.items inside long (by omega)
    obtain ⟨first, more, start, ink, noBracket, -⟩ := inside.starts long.starts
    have opens : ∀ after, first :: more ≠ ']' :: after := fun after same => noBracket (List.cons.inj same).1
    simp only [List.cons_append, List.append_assoc, readValue, start] at stops ⊢
    rw [skipGap_append_cons blank first ink]
    split
    case h_1 after same => exact absurd same (opens after)
    case h_2 => exact stops.bind _
  | object blank inside =>
    simp only [List.length_cons, List.length_append] at covered
    have stops := less.members inside long (by omega)
    obtain ⟨more, rfl⟩ := inside.starts
    simp only [List.cons_append, List.append_assoc, readValue] at stops ⊢
    rw [skipGap_append_cons blank '"' rfl]
    exact stops.bind _

/-- What a reader with a limit makes of the text of a value: it stops in it, or takes it. -/
theorem stops_or_takes (limit bound : Nat) {text rest : List Char} {value : Json} (valueText : ValueText text value)
    (covered : text.length ≤ bound) (ends : EndsNumber rest) :
    Stops (readValue bound (text ++ rest) (.upTo limit)) ∨
      readValue bound (text ++ rest) (.upTo limit) = .ok (value, rest) := by
  rcases (comparesAll limit bound).value (text ++ rest) with ⟨-, stops⟩ | ⟨same, -⟩
  · exact .inl stops
  · exact .inr (same.trans ((takesAll bound).value valueText covered ends))

/-- A reader stops in items where it stops in one of them. -/
theorem stops_readItems {bound : Nat} (less : StopsAll limit bound) {lead rest : List Char}
    (isLead : ItemsLead lead) (long : StartsLong limit rest) (covered : 2 * lead.length + 1 < bound + 1) :
    Stops (readItems (bound + 1) (lead ++ rest) (.upTo limit)) := by
  rw [readItems]
  cases isLead with
  | first inside => exact (less.value inside long (by omega)).bind _
  | @later text gap gapAfter lead item itemText blank blankAfter inside =>
    simp only [List.length_append, List.length_cons] at covered
    have stops := less.items inside long (by omega)
    have starts : skipGap (gapAfter ++ (lead ++ rest)) = lead ++ rest := by
      simpa using skipGap_startsValue blankAfter (inside.starts long.starts) []
    simp only [List.append_assoc, List.cons_append]
    rcases stops_or_takes limit bound itemText (by omega)
      (endsNumber_separator blank (.inl rfl) (gapAfter ++ (lead ++ rest))) with stopsBefore | taken
    · exact stopsBefore.bind _
    · simp only [taken, bind, Except.bind, skipGap_append_cons blank ',' rfl, starts]
      exact stops.bind _

/-- A reader stops in members where it stops in the value of one of them. -/
theorem stops_readMembers {bound : Nat} (less : StopsAll limit bound) {lead rest : List Char}
    (isLead : MembersLead lead) (long : StartsLong limit rest) (covered : 2 * lead.length + 1 < bound + 1) :
    Stops (readMembers (bound + 1) (lead ++ rest) (.upTo limit)) := by
  cases isLead with
  | @first key gap gapAfter lead codes keyText blank blankAfter inside =>
    simp only [List.length_append, List.length_cons] at covered
    have stops := less.value inside long (by omega)
    have starts : skipGap (gapAfter ++ (lead ++ rest)) = lead ++ rest := by
      simpa using skipGap_startsValue blankAfter (inside.starts long.starts) []
    simp only [List.append_assoc, List.cons_append, readMembers, readString_upTo,
      readString_eq_ok.mpr ⟨_, _, rfl, keyText, rfl⟩]
    simp only [bind, Except.bind, skipGap_append_cons blank ':' rfl, starts]
    exact stops.bind _
  | @later text gap gapAfter lead member memberText blank blankAfter inside =>
    obtain ⟨keyText, blankColon, blankValue, valueText⟩ := memberText
    simp only [List.length_append, List.length_cons] at covered
    have stops := less.members inside long (by omega)
    obtain ⟨more, rfl⟩ := inside.starts
    simp only [List.append_assoc, List.cons_append, readMembers, readString_upTo,
      readString_eq_ok.mpr ⟨_, _, rfl, keyText, rfl⟩] at stops ⊢
    simp only [bind, Except.bind, skipGap_append_cons blankColon ':' rfl,
      skipGap_startsValue blankValue valueText.starts]
    rcases stops_or_takes limit bound valueText (by omega)
      (endsNumber_separator blank (.inl rfl) (gapAfter ++ '"' :: (more ++ rest))) with stopsBefore | taken
    · exact stopsBefore.bind _
    · simp only [taken, skipGap_append_cons blank ',' rfl, skipGap_append_cons blankAfter '"' rfl]
      exact stops.bind _

/-- Wherever a text leads to a number that is too long, a reader with a bound that covers the way stops. -/
theorem stopsAll (limit bound : Nat) : StopsAll limit bound := by
  induction bound with
  | zero => constructor <;> intro lead rest _ _ covered <;> omega
  | succ bound inductionHypothesis =>
    exact ⟨stops_readValue inductionHypothesis, stops_readItems inductionHypothesis,
      stops_readMembers inductionHypothesis⟩

/-! ## Whole texts -/

/-- A text is read as without a limit unless it leads to a number that is too long. -/
theorem compares_readAll (limit : Nat) (text : String) :
    Compares (MeetsLong limit text) (readAll text.toList (.upTo limit)) (readAll text.toList) := by
  obtain ⟨gap, shape, blank⟩ := gap_skipGap text.toList
  unfold readAll
  split
  case h_1 => exact .same (not_stops_error rfl _)
  case h_2 =>
    refine ((comparesAll limit _).value (skipGap text.toList)).bind ?_ fun (value, after) _ => ?_
    · rintro ⟨lead, rest, split, isLead, long⟩
      exact ⟨gap, lead, rest, by rw [← split, ← shape], blank, isLead, long⟩
    · dsimp only
      split
      · exact .same (not_stops_ok _)
      · exact .same (not_stops_error rfl _)

/-- A reader stops at a text that leads to a number that is too long. -/
theorem MeetsLong.stops {text : String} (meets : MeetsLong limit text) :
    Stops (readAll text.toList (.upTo limit)) := by
  obtain ⟨gap, lead, rest, shape, blank, isLead, long⟩ := meets
  have starts := isLead.starts long.starts
  rw [shape]
  unfold readAll
  split
  case h_1 after same => exact absurd same (by simpa using no_mark blank starts [] after)
  case h_2 =>
    have skipped : skipGap (gap ++ (lead ++ rest)) = lead ++ rest := by
      simpa using skipGap_startsValue blank starts []
    rw [skipped]
    refine ((stopsAll limit _).value isLead long ?_).bind _
    simp only [List.length_append]
    omega

/-- Digits with nothing behind them stand alone. -/
theorem standsAlone_nil (whole : List Char) : StandsAlone whole [] := by
  constructor
  · exact fun more rest nothing _ => (List.append_eq_nil_iff.mp nothing.symm).1
  · rintro more rest places nothing ⟨⟩
    cases nothing
  · rintro more rest power nothing ⟨⟩
    cases nothing

/-- A run of ones is a whole number. -/
theorem wholeText_ones (more : Nat) : WholeText (List.replicate (more + 1) '1') := by
  refine .digits ⟨by simp, fun digit inside => ?_⟩ (by simp [List.replicate_succ])
  rw [List.eq_of_mem_replicate inside]
  rfl

/-- A text of nothing but digits leads to a number that is too long if they are too many. -/
theorem meetsLong_digits {whole : List Char} (wholeText : WholeText whole) (long : limit < whole.length) :
    MeetsLong limit (.ofList whole) :=
  ⟨[], [], whole, by simp, by simp [IsGap], .self, .inl ⟨whole, [], by simp, wholeText, standsAlone_nil whole, long⟩⟩

end OutlineWiki.Json
