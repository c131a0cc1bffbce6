import OutlineWiki.Proofs.JsonScalarTexts
import OutlineWiki.Proofs.JsonValues

/-!
# The texts that are read

The reader gives a text a value exactly when the rules of the language do, and the same value. Each step
of the reader is settled twice: what it took off the front of a text follows a rule, and a text that
follows the rule is taken off whatever stands behind it. The reader's bound refuses nothing, since each
step deeper into a value passes at least one character.
-/

namespace OutlineWiki.Json

/-! ## Values -/

/-- A text starts with a character at which a value can start: no blank, nothing that closes a list or
separates its items, and no mark that would tell the order of bytes. -/
def StartsValue (text : List Char) : Prop :=
  ∃ first rest, text = first :: rest ∧ isGap first = false ∧ first ≠ ']' ∧ first ≠ '\uFEFF'

/-- A digit can start a value. -/
theorem startsValue_digit {digit : Char} (isDigit : digit.isDigit) (rest : List Char) :
    StartsValue (digit :: rest) := by
  refine ⟨digit, rest, rfl, isGap_digit isDigit, ?_, ?_⟩
  · rintro rfl
    exact absurd isDigit (by decide)
  · rintro rfl
    exact absurd isDigit (by decide)

/-- The text of a value starts as a value. -/
theorem ValueText.starts {text : List Char} {value : Json} (valueText : ValueText text value) :
    StartsValue text := by
  cases valueText with
  | word isWord =>
    simp only [words, List.mem_cons, List.not_mem_nil, or_false, Prod.mk.injEq] at isWord
    rcases isWord with ⟨rfl, -⟩ | ⟨rfl, -⟩ | ⟨rfl, -⟩ | ⟨rfl, -⟩ | ⟨rfl, -⟩ | ⟨rfl, -⟩ <;>
      exact ⟨_, _, rfl, rfl, by decide, by decide⟩
  | number isNumber =>
    cases isNumber with
    | unsigned unsigned =>
      obtain ⟨digit, rest, rfl, isDigit⟩ := unsigned.first
      exact startsValue_digit isDigit rest
    | negative unsigned => exact ⟨'-', _, rfl, rfl, by decide, by decide⟩
  | string inside => exact ⟨'"', _, rfl, rfl, by decide, by decide⟩
  | emptyArray | array => exact ⟨'[', _, rfl, rfl, by decide, by decide⟩
  | emptyObject | object => exact ⟨'\x7b', _, rfl, rfl, by decide, by decide⟩

/-- A mark that would tell the order of bytes is neither a blank nor the start of a value. -/
theorem no_mark {gap text : List Char} (blank : IsGap gap) (starts : StartsValue text) (rest after : List Char) :
    gap ++ (text ++ rest) ≠ '\uFEFF' :: after := by
  obtain ⟨first, more, rfl, -, -, noMark⟩ := starts
  intro same
  cases gap with
  | nil => exact noMark (List.cons.inj same).1
  | cons character gap =>
    obtain ⟨rfl, -⟩ := List.cons.inj same
    exact absurd (blank _ List.mem_cons_self) (by decide)

/-- The text of a list's items starts as a value. -/
theorem ItemsText.starts {text : List Char} {items : List Json} (itemsText : ItemsText text items) :
    StartsValue text := by
  cases itemsText with
  | last itemText _ | next itemText _ _ _ =>
    obtain ⟨first, rest, rfl, ink, noBracket, noMark⟩ := itemText.starts
    exact ⟨first, _, rfl, ink, noBracket, noMark⟩

/-- The text of an object's members starts with the quote of a key. -/
theorem MembersText.starts {text : List Char} {members : List (String × Json)}
    (membersText : MembersText text members) : ∃ rest, text = '"' :: rest := by
  cases membersText with
  | last memberText _ | next memberText _ _ _ =>
    cases memberText
    exact ⟨_, rfl⟩

/-- A word that is read is one of the words. -/
theorem word_of_readWord? {text rest : List Char} {value : Json}
    (isRead : readWord? text = some (value, rest)) :
    ∃ word, text = word ++ rest ∧ (word, value) ∈ words := by
  obtain ⟨⟨word, meant⟩, isFound, isRead⟩ := Option.map_eq_some_iff.mp isRead
  obtain ⟨rfl, rfl⟩ := Prod.mk.inj isRead
  have isPrefix : word.isPrefixOf text := by simpa using List.find?_some isFound
  obtain ⟨rest, rfl⟩ := List.isPrefixOf_iff_prefix.mp isPrefix
  exact ⟨word, by simp, List.mem_of_find?_eq_some isFound⟩

/-- What a bounded reader takes follows the rules: values, items and members. -/
structure TakesSpelled (bound : Nat) : Prop where
  value : ∀ {text rest value}, readValue bound text = .ok (value, rest) →
    ∃ inside, text = inside ++ rest ∧ ValueText inside value
  items : ∀ {text rest items}, readItems bound text = .ok (items, rest) →
    ∃ inside, text = inside ++ rest ∧ ItemsText inside items
  members : ∀ {text rest members}, readMembers bound text = .ok (members, rest) →
    ∃ inside, text = inside ++ rest ∧ MembersText inside members

/-- The blanks in front of a text, and the text without them. -/
theorem gap_skipGap (text : List Char) : ∃ gap, text = gap ++ skipGap text ∧ IsGap gap :=
  ⟨text.takeWhile isGap, (List.takeWhile_append_dropWhile ..).symm,
    fun character inside => List.all_eq_true.mp List.all_takeWhile character inside⟩

/-- A value that is taken follows a rule if what is taken for its parts does. -/
theorem valueText_of_readValue {bound : Nat} (less : TakesSpelled bound) {text rest : List Char}
    {value : Json} (isRead : readValue (bound + 1) text = .ok (value, rest)) :
    ∃ inside, text = inside ++ rest ∧ ValueText inside value := by
  simp only [readValue] at isRead
  split at isRead
  case h_1 more =>
    obtain ⟨⟨string, after⟩, string_read, isRead⟩ := bind_eq_ok.mp isRead
    obtain ⟨rfl, rfl⟩ := Prod.mk.inj (pure_eq_ok.mp isRead)
    obtain ⟨inside, codes, rfl, spelled, rfl⟩ := readString_eq_ok.mp string_read
    exact ⟨_, by simp, .string spelled⟩
  case h_2 more =>
    obtain ⟨gap, shape, blank⟩ := gap_skipGap more
    split at isRead
    case h_1 after closed =>
      obtain ⟨rfl, rfl⟩ := Prod.mk.inj (Except.ok.inj isRead)
      exact ⟨_, by rw [shape, closed]; simp, .emptyArray blank⟩
    case h_2 =>
      obtain ⟨⟨items, after⟩, items_read, isRead⟩ := bind_eq_ok.mp isRead
      obtain ⟨rfl, rfl⟩ := Prod.mk.inj (pure_eq_ok.mp isRead)
      obtain ⟨inside, insideShape, itemsText⟩ := less.items items_read
      exact ⟨_, by rw [shape, insideShape]; simp, .array blank itemsText⟩
  case h_3 more =>
    obtain ⟨gap, shape, blank⟩ := gap_skipGap more
    split at isRead
    case h_1 after closed =>
      obtain ⟨rfl, rfl⟩ := Prod.mk.inj (Except.ok.inj isRead)
      exact ⟨_, by rw [shape, closed]; simp, .emptyObject blank⟩
    case h_2 =>
      obtain ⟨⟨members, after⟩, members_read, isRead⟩ := bind_eq_ok.mp isRead
      obtain ⟨rfl, rfl⟩ := Prod.mk.inj (pure_eq_ok.mp isRead)
      obtain ⟨inside, insideShape, membersText⟩ := less.members members_read
      exact ⟨_, by rw [shape, insideShape]; simp, .object blank membersText⟩
  case h_4 =>
    split at isRead
    case h_1 found isWord =>
      obtain rfl := Except.ok.inj isRead
      obtain ⟨word, shape, inWords⟩ := word_of_readWord? isWord
      exact ⟨word, shape, .word inWords⟩
    case h_2 =>
      obtain ⟨inside, shape, number⟩ := numberText_of_readNumber isRead
      exact ⟨inside, shape, .number number⟩

/-- Items that are taken follow a rule if what is taken with a smaller bound does. -/
theorem itemsText_of_readItems {bound : Nat} (less : TakesSpelled bound) {text rest : List Char}
    {items : List Json} (isRead : readItems (bound + 1) text = .ok (items, rest)) :
    ∃ inside, text = inside ++ rest ∧ ItemsText inside items := by
  simp only [readItems] at isRead
  obtain ⟨⟨item, afterItem⟩, item_read, isRead⟩ := bind_eq_ok.mp isRead
  obtain ⟨itemInside, itemShape, itemText⟩ := less.value item_read
  obtain ⟨gap, shape, blank⟩ := gap_skipGap afterItem
  simp only at isRead
  split at isRead
  case h_1 after closed =>
    obtain ⟨rfl, rfl⟩ := Prod.mk.inj (pure_eq_ok.mp isRead)
    exact ⟨_, by rw [itemShape, shape, closed]; simp, .last itemText blank⟩
  case h_2 more separated =>
    obtain ⟨⟨others, after⟩, others_read, isRead⟩ := bind_eq_ok.mp isRead
    obtain ⟨rfl, rfl⟩ := Prod.mk.inj (pure_eq_ok.mp isRead)
    obtain ⟨gapAfter, shapeAfter, blankAfter⟩ := gap_skipGap more
    obtain ⟨inside, insideShape, itemsText⟩ := less.items others_read
    refine ⟨_, ?_, .next itemText blank blankAfter itemsText⟩
    rw [itemShape, shape, separated, shapeAfter, insideShape]
    simp
  case h_3 => cases isRead

/-- Members that are taken follow a rule if what is taken with a smaller bound does. -/
theorem membersText_of_readMembers {bound : Nat} (less : TakesSpelled bound) {text rest : List Char}
    {members : List (String × Json)} (isRead : readMembers (bound + 1) text = .ok (members, rest)) :
    ∃ inside, text = inside ++ rest ∧ MembersText inside members := by
  simp only [readMembers] at isRead
  split at isRead
  case h_2 => cases isRead
  case h_1 more =>
  obtain ⟨⟨key, afterKey⟩, key_read, isRead⟩ := bind_eq_ok.mp isRead
  obtain ⟨keyInside, codes, rfl, keyText, rfl⟩ := readString_eq_ok.mp key_read
  obtain ⟨gapColon, shapeColon, blankColon⟩ := gap_skipGap afterKey
  simp only at isRead
  split at isRead
  case h_2 => cases isRead
  case h_1 beforeValue colon =>
  obtain ⟨⟨value, afterValue⟩, value_read, isRead⟩ := bind_eq_ok.mp isRead
  obtain ⟨gapValue, shapeValue, blankValue⟩ := gap_skipGap beforeValue
  obtain ⟨valueInside, valueShape, valueText⟩ := less.value value_read
  have memberText := MemberText.pair keyText blankColon blankValue valueText
  obtain ⟨gap, shape, blank⟩ := gap_skipGap afterValue
  simp only at isRead
  split at isRead
  case h_1 after closed =>
    obtain ⟨rfl, rfl⟩ := Prod.mk.inj (pure_eq_ok.mp isRead)
    refine ⟨_, ?_, .last memberText blank⟩
    rw [shapeColon, colon, shapeValue, valueShape, shape, closed]
    simp
  case h_2 rest separated =>
    obtain ⟨⟨others, after⟩, others_read, isRead⟩ := bind_eq_ok.mp isRead
    obtain ⟨rfl, rfl⟩ := Prod.mk.inj (pure_eq_ok.mp isRead)
    obtain ⟨gapAfter, shapeAfter, blankAfter⟩ := gap_skipGap rest
    obtain ⟨inside, insideShape, membersText⟩ := less.members others_read
    refine ⟨_, ?_, .next memberText blank blankAfter membersText⟩
    rw [shapeColon, colon, shapeValue, valueShape, shape, separated, shapeAfter, insideShape]
    simp
  case h_3 => cases isRead

/-- Whatever a bounded reader takes follows the rules. -/
theorem takesSpelled (bound : Nat) : TakesSpelled bound := by
  induction bound with
  | zero => constructor <;> intro _ _ _ isRead <;> cases isRead
  | succ bound inductionHypothesis =>
    exact ⟨valueText_of_readValue inductionHypothesis, itemsText_of_readItems inductionHypothesis,
      membersText_of_readMembers inductionHypothesis⟩

/-- A text that follows the rules is taken by the reader with a bound that covers it, whatever stands
behind it; behind a value nothing may stand that would prolong a number. -/
structure TakesAll (bound : Nat) : Prop where
  value : ∀ {text value rest}, ValueText text value → text.length ≤ bound → EndsNumber rest →
    readValue bound (text ++ rest) = .ok (value, rest)
  items : ∀ {text items rest}, ItemsText text items → text.length ≤ bound →
    readItems bound (text ++ rest) = .ok (items, rest)
  members : ∀ {text members rest}, MembersText text members → text.length ≤ bound →
    readMembers bound (text ++ rest) = .ok (members, rest)

/-- A word is taken as a value. -/
theorem readValue_of_word {text : List Char} {value : Json} (isWord : (text, value) ∈ words)
    (bound : Nat) (rest : List Char) : readValue (bound + 1) (text ++ rest) = .ok (value, rest) := by
  simp only [words, List.mem_cons, List.not_mem_nil, or_false, Prod.mk.injEq] at isWord
  rcases isWord with ⟨rfl, rfl⟩ | ⟨rfl, rfl⟩ | ⟨rfl, rfl⟩ | ⟨rfl, rfl⟩ | ⟨rfl, rfl⟩ | ⟨rfl, rfl⟩ <;> rfl

/-- A number is taken as a value: it starts neither as another kind of value nor as a word. -/
theorem readValue_of_number {text : List Char} {value : Json} (number : NumberText text value)
    (bound : Nat) {rest : List Char} (ends : EndsNumber rest) :
    readValue (bound + 1) (text ++ rest) = .ok (value, rest) := by
  have number_read := readNumber_of_numberText number ends
  cases number with
  | unsigned unsigned =>
    obtain ⟨digit, more, rfl, isDigit⟩ := unsigned.first
    obtain ⟨noWord, -⟩ := readWord?_digit isDigit (more ++ rest)
    have differs : ∀ opening : Char, opening.isDigit = false →
        ∀ after, digit :: (more ++ rest) ≠ opening :: after := by
      rintro opening noDigit after same
      obtain ⟨rfl, -⟩ := List.cons.inj same
      simp [isDigit] at noDigit
    have noQuote := differs '"' rfl
    have noBracket := differs '[' rfl
    have noBrace := differs '\x7b' rfl
    simp only [List.cons_append] at number_read ⊢
    simp [readValue, noWord, number_read]
  | negative unsigned =>
    obtain ⟨digit, more, rfl, isDigit⟩ := unsigned.first
    obtain ⟨-, noWord⟩ := readWord?_digit isDigit (more ++ rest)
    simp only [List.cons_append] at number_read ⊢
    simp [readValue, noWord, number_read]

/-- A list with items is taken if its items are. -/
theorem readValue_of_items {bound : Nat} {gap text rest : List Char} {items : List Json}
    (blank : IsGap gap) (itemsText : ItemsText text items)
    (inside : readItems bound (text ++ rest) = .ok (items, rest)) :
    readValue (bound + 1) ('[' :: (gap ++ text) ++ rest) = .ok (.array items, rest) := by
  obtain ⟨first, more, rfl, ink, noBracket, -⟩ := itemsText.starts
  have opens : ∀ after, first :: (more ++ rest) ≠ ']' :: after :=
    fun after same => noBracket (List.cons.inj same).1
  simp only [List.cons_append, List.append_assoc, readValue] at inside ⊢
  rw [skipGap_append_cons blank first ink]
  simp [inside, bind, Except.bind, pure, Except.pure]

/-- An object with members is taken if its members are. -/
theorem readValue_of_members {bound : Nat} {gap text rest : List Char}
    {members : List (String × Json)} (blank : IsGap gap) (membersText : MembersText text members)
    (inside : readMembers bound (text ++ rest) = .ok (members, rest)) :
    readValue (bound + 1) ('\x7b' :: (gap ++ text) ++ rest) = .ok (objectOf members, rest) := by
  obtain ⟨more, rfl⟩ := membersText.starts
  simp only [List.cons_append, List.append_assoc, readValue] at inside ⊢
  rw [skipGap_append_cons blank '"' rfl]
  simp [inside, bind, Except.bind, pure, Except.pure]

/-- A value is taken if its parts are. -/
theorem readValue_of_valueText {bound : Nat} (less : TakesAll bound) {text rest : List Char}
    {value : Json} (valueText : ValueText text value) (covered : text.length ≤ bound + 1)
    (ends : EndsNumber rest) : readValue (bound + 1) (text ++ rest) = .ok (value, rest) := by
  cases valueText with
  | word isWord => exact readValue_of_word isWord bound rest
  | number isNumber => exact readValue_of_number isNumber bound ends
  | string inside =>
    rw [List.cons_append, List.append_assoc, List.singleton_append, readValue,
      readString_eq_ok.mpr ⟨_, _, rfl, inside, rfl⟩]
    rfl
  | emptyArray blank => simp [readValue, skipGap_append_cons blank ']' rfl]
  | array blank inside =>
    simp only [List.length_cons, List.length_append] at covered
    exact readValue_of_items blank inside (less.items inside (by omega))
  | emptyObject blank => simp [readValue, skipGap_append_cons blank '\x7d' rfl]
  | object blank inside =>
    simp only [List.length_cons, List.length_append] at covered
    exact readValue_of_members blank inside (less.members inside (by omega))

/-- A number ends in front of blanks and a comma or a closing bracket or brace. -/
theorem endsNumber_separator {gap : List Char} (blank : IsGap gap) {mark : Char}
    (isMark : mark = ',' ∨ mark = ']' ∨ mark = '\x7d') (rest : List Char) :
    EndsNumber (gap ++ mark :: rest) := by
  refine endsNumber_gap blank ?_
  rcases isMark with rfl | rfl | rfl <;> exact endsNumber_cons _ rfl (by decide) ⟨by decide, by decide⟩

/-- A text that starts as a value is what is left when blanks in front of it are skipped. -/
theorem skipGap_startsValue {gap text : List Char} (blank : IsGap gap) (starts : StartsValue text)
    (rest : List Char) : skipGap (gap ++ (text ++ rest)) = text ++ rest := by
  obtain ⟨first, more, rfl, ink, -⟩ := starts
  exact skipGap_append_cons blank first ink (more ++ rest)

/-- Items are taken if each of them is. -/
theorem readItems_of_itemsText {bound : Nat} (less : TakesAll bound) {text rest : List Char}
    {items : List Json} (itemsText : ItemsText text items) (covered : text.length ≤ bound + 1) :
    readItems (bound + 1) (text ++ rest) = .ok (items, rest) := by
  cases itemsText with
  | last itemText blank =>
    simp only [List.length_append, List.length_cons] at covered
    have item_read := less.value itemText (by omega) (endsNumber_separator blank (.inr (.inl rfl)) rest)
    simp only [List.append_assoc, List.singleton_append, readItems, item_read]
    simp [bind, Except.bind, pure, Except.pure, skipGap_append_cons blank ']' rfl]
  | @next itemText gap gapAfter more item items itemSpelled blank blankAfter itemsSpelled =>
    simp only [List.length_append, List.length_cons] at covered
    have item_read := less.value itemSpelled (by omega)
      (endsNumber_separator blank (.inl rfl) (gapAfter ++ (more ++ rest)))
    have items_read : readItems bound (more ++ rest) = .ok (items, rest) :=
      less.items itemsSpelled (by omega)
    simp only [List.append_assoc, List.cons_append, readItems, item_read]
    simp [bind, Except.bind, pure, Except.pure, skipGap_append_cons blank ',' rfl,
      skipGap_startsValue blankAfter itemsSpelled.starts, items_read]

/-- Members are taken if each of their values is. -/
theorem readMembers_of_membersText {bound : Nat} (less : TakesAll bound) {text rest : List Char}
    {members : List (String × Json)} (membersText : MembersText text members)
    (covered : text.length ≤ bound + 1) :
    readMembers (bound + 1) (text ++ rest) = .ok (members, rest) := by
  cases membersText with
  | last memberText blank =>
    obtain ⟨keyText, blankColon, blankValue, valueText⟩ := memberText
    simp only [List.length_append, List.length_cons] at covered
    have value_read := less.value valueText (by omega)
      (endsNumber_separator blank (.inr (.inr rfl)) rest)
    simp only [List.append_assoc, List.cons_append, List.nil_append, readMembers,
      readString_eq_ok.mpr ⟨_, _, rfl, keyText, rfl⟩]
    simp [bind, Except.bind, pure, Except.pure, skipGap_append_cons blankColon ':' rfl,
      skipGap_startsValue blankValue valueText.starts, value_read, skipGap_append_cons blank '\x7d' rfl]
  | @next memberText gap gapAfter more member members memberSpelled blank blankAfter membersSpelled =>
    obtain ⟨keyText, blankColon, blankValue, valueText⟩ := memberSpelled
    simp only [List.length_append, List.length_cons] at covered
    have value_read := less.value valueText (by omega)
      (endsNumber_separator blank (.inl rfl) (gapAfter ++ (more ++ rest)))
    have members_read : readMembers bound (more ++ rest) = .ok (members, rest) :=
      less.members membersSpelled (by omega)
    obtain ⟨afterQuote, rfl⟩ := membersSpelled.starts
    simp only [List.append_assoc, List.cons_append, readMembers,
      readString_eq_ok.mpr ⟨_, _, rfl, keyText, rfl⟩] at value_read members_read ⊢
    simp [bind, Except.bind, pure, Except.pure, skipGap_append_cons blankColon ':' rfl,
      skipGap_startsValue blankValue valueText.starts, value_read, skipGap_append_cons blank ',' rfl,
      skipGap_append_cons blankAfter '"' rfl, members_read]

/-- A text that follows the rules is taken by a reader whose bound covers it. -/
theorem takesAll (bound : Nat) : TakesAll bound := by
  induction bound with
  | zero =>
    -- No text that follows the rules is empty.
    refine ⟨fun valueText covered _ => ?_, fun itemsText covered => ?_, fun membersText covered => ?_⟩
    · obtain ⟨first, more, rfl, -⟩ := valueText.starts
      simp at covered
    · obtain ⟨first, more, rfl, -⟩ := itemsText.starts
      simp at covered
    · obtain ⟨more, rfl⟩ := membersText.starts
      simp at covered
  | succ bound inductionHypothesis =>
    exact ⟨readValue_of_valueText inductionHypothesis, readItems_of_itemsText inductionHypothesis,
      readMembers_of_membersText inductionHypothesis⟩

/-! ## Whole texts -/

/-- Nothing is left of a text without the blanks at its start exactly when it holds nothing else. -/
theorem skipGap_eq_nil {text : List Char} : skipGap text = [] ↔ IsGap text := by
  constructor
  · intro nothing
    obtain ⟨gap, shape, blank⟩ := gap_skipGap text
    rw [nothing, List.append_nil] at shape
    rw [shape]
    exact blank
  · intro blank
    have skipped : skipGap (text ++ []) = [] := skipGap_append blank []
    rwa [List.append_nil] at skipped

/-- The reader of a whole text gives a value exactly when the text is its text with blanks around it. -/
theorem readAll_eq_ok {text : List Char} {value : Json} :
    readAll text = .ok value ↔
      ∃ before inside after, text = before ++ (inside ++ after) ∧ IsGap before ∧ IsGap after ∧
        ValueText inside value := by
  constructor
  · intro all_read
    unfold readAll at all_read
    split at all_read
    · cases all_read
    · obtain ⟨⟨found, after⟩, value_read, all_read⟩ := bind_eq_ok.mp all_read
      simp only at all_read
      split at all_read
      case h_1 nothing =>
        obtain rfl := pure_eq_ok.mp all_read
        obtain ⟨before, shape, blank⟩ := gap_skipGap text
        obtain ⟨inside, insideShape, valueText⟩ := (takesSpelled _).value value_read
        exact ⟨before, inside, after, by rw [← insideShape, ← shape], blank,
          skipGap_eq_nil.mp nothing, valueText⟩
      case h_2 => cases all_read
  · rintro ⟨before, inside, after, rfl, blankBefore, blankAfter, valueText⟩
    have nothing : EndsNumber [] := by simp [EndsNumber]
    have ends : EndsNumber after := by simpa using endsNumber_gap blankAfter nothing
    unfold readAll
    split
    case h_1 rest same => exact absurd same (no_mark blankBefore valueText.starts after rest)
    case h_2 =>
      have covered : inside.length ≤ 2 * (before ++ (inside ++ after)).length + 2 := by
        simp only [List.length_append]
        omega
      rw [skipGap_startsValue blankBefore valueText.starts, (takesAll _).value valueText covered ends]
      simp [bind, Except.bind, pure, Except.pure, skipGap_eq_nil.mpr blankAfter]

/-- A text is read as a value exactly when it stands for that value by the rules of the language. -/
theorem parse_eq_ok {text : String} {value : Json} : parse text = .ok value ↔ Spells text value :=
  mapError_eq_ok.trans readAll_eq_ok

/-- A text stands for at most one value. -/
theorem Spells.unique {text : String} {value other : Json} (spelled : Spells text value)
    (spelledOther : Spells text other) : value = other := by
  rw [← parse_eq_ok] at spelled spelledOther
  exact Except.ok.inj (spelled.symm.trans spelledOther)

end OutlineWiki.Json
