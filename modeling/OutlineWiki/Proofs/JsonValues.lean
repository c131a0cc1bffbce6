import OutlineWiki.Proofs.JsonScalars
import OutlineWiki.Proofs.Outcomes

/-!
# Values read back from their text

A value without doubles, in whose objects no key stands twice, is read back from what is written for
it, whatever the layout. The reader's bound is no obstacle: it grows with the text, and every nested
value takes at least one character of the text.
-/

namespace OutlineWiki.Json

/-! ## Values inside values -/

/-- What holds of the scalars, of a list when it holds of its items and of an object when it holds of
its members' values, holds of every value. -/
theorem inductionInside {Holds : Json → Prop}
    (scalar : ∀ value, (∀ items, value ≠ .array items) → (∀ members, value ≠ .object members) →
      Holds value)
    (array : ∀ items, (∀ item ∈ items, Holds item) → Holds (.array items))
    (object : ∀ members, (∀ member ∈ members, Holds member.2) → Holds (.object members)) :
    (value : Json) → Holds value
  | .null => scalar .null (by simp) (by simp)
  | .bool value => scalar (.bool value) (by simp) (by simp)
  | .int value => scalar (.int value) (by simp) (by simp)
  | .float value => scalar (.float value) (by simp) (by simp)
  | .string value => scalar (.string value) (by simp) (by simp)
  | .array items => array items fun item inside => by
    have smaller : sizeOf item < sizeOf items := List.sizeOf_lt_of_mem inside
    exact inductionInside scalar array object item
  | .object members => object members fun member inside => by
    have smaller : sizeOf member < sizeOf members := List.sizeOf_lt_of_mem inside
    have part : sizeOf member.2 < sizeOf member := by
      obtain ⟨key, value⟩ := member
      show sizeOf value < sizeOf (key, value)
      rw [Prod.mk.sizeOf_spec]
      omega
    exact inductionInside scalar array object member.2
termination_by value => sizeOf value

/-- What holds of all that is no object, and of an object when it holds of every item of the lists among its
members, holds of every value. -/
theorem inductionItems {Holds : Json → Prop}
    (other : ∀ value, (∀ members, value ≠ .object members) → Holds value)
    (object : ∀ members, (∀ key items, (key, .array items) ∈ members → ∀ item ∈ items, Holds item) →
      Holds (.object members)) (value : Json) : Holds value := by
  -- The items are two steps inside, so what holds of the items of a list is carried along.
  have both : Holds value ∧ ∀ items, value = .array items → ∀ item ∈ items, Holds item := by
    induction value using inductionInside with
    | scalar value noArray noObject => exact ⟨other value noObject, fun items same => absurd same (noArray items)⟩
    | array items inductionHypothesis =>
      refine ⟨other _ (by simp), fun others same item inside => ?_⟩
      obtain rfl := Json.array.inj same
      exact (inductionHypothesis item inside).1
    | object members inductionHypothesis =>
      refine ⟨object members fun key items inside => ?_, fun items same => by cases same⟩
      exact (inductionHypothesis (key, .array items) inside).2 items rfl
  exact both.1

/-! ## Values whose text determines them -/

/-- A value is no double. -/
def NotFloat : Json → Prop
  | .float _ => False
  | _ => True

/-- No key of an object stands twice. -/
def KeysOnce : Json → Prop
  | .object members => (members.map (·.1)).Nodup
  | _ => True

mutual

/-- A condition holds of a value and of every value inside it. -/
def Everywhere (Holds : Json → Prop) : Json → Prop
  | .array items => Holds (.array items) ∧ EverywhereItems Holds items
  | .object members => Holds (.object members) ∧ EverywhereMembers Holds members
  | .null => Holds .null
  | .bool value => Holds (.bool value)
  | .int value => Holds (.int value)
  | .float value => Holds (.float value)
  | .string value => Holds (.string value)

/-- A condition holds everywhere in each item of a list. -/
def EverywhereItems (Holds : Json → Prop) : List Json → Prop
  | [] => True
  | item :: rest => Everywhere Holds item ∧ EverywhereItems Holds rest

/-- A condition holds everywhere in the value of each member. -/
def EverywhereMembers (Holds : Json → Prop) : List (String × Json) → Prop
  | [] => True
  | (_, value) :: rest => Everywhere Holds value ∧ EverywhereMembers Holds rest

end

/-- A value that its text determines: there are no doubles in it, and no key stands twice in one of
its objects. -/
def Exact (value : Json) : Prop :=
  value.Everywhere NotFloat ∧ value.Everywhere KeysOnce

theorem everywhereItems_iff {Holds : Json → Prop} {items : List Json} :
    EverywhereItems Holds items ↔ ∀ item ∈ items, item.Everywhere Holds := by
  induction items with
  | nil => simp [EverywhereItems]
  | cons item rest inductionHypothesis => simp [EverywhereItems, inductionHypothesis]

theorem everywhereMembers_iff {Holds : Json → Prop} {members : List (String × Json)} :
    EverywhereMembers Holds members ↔ ∀ member ∈ members, member.2.Everywhere Holds := by
  induction members with
  | nil => simp [EverywhereMembers]
  | cons member rest inductionHypothesis =>
    obtain ⟨key, value⟩ := member
    simp [EverywhereMembers, inductionHypothesis]

/-- What holds everywhere in a value holds of the value itself. -/
theorem Everywhere.self {Holds : Json → Prop} {value : Json} (all : value.Everywhere Holds) :
    Holds value := by
  cases value with
  | array items => exact all.1
  | object members => exact all.1
  | null => exact all
  | bool value => exact all
  | int value => exact all
  | float value => exact all
  | string value => exact all

/-- A list determined by its text has only items determined by theirs. -/
theorem exact_array_iff {items : List Json} : Exact (.array items) ↔ ∀ item ∈ items, item.Exact := by
  simp only [Exact, Everywhere, everywhereItems_iff, NotFloat, KeysOnce, true_and]
  exact ⟨fun both item member => ⟨both.1 item member, both.2 item member⟩,
    fun each => ⟨fun item member => (each item member).1, fun item member => (each item member).2⟩⟩

/-- An object determined by its text has each key once and only values determined by their text. -/
theorem exact_object_iff {members : List (String × Json)} :
    Exact (.object members) ↔ (members.map (·.1)).Nodup ∧ ∀ member ∈ members, member.2.Exact := by
  simp only [Exact, Everywhere, everywhereMembers_iff, NotFloat, KeysOnce, true_and]
  constructor
  · rintro ⟨notFloat, once, keysOnce⟩
    exact ⟨once, fun member inside => ⟨notFloat member inside, keysOnce member inside⟩⟩
  · rintro ⟨once, each⟩
    exact ⟨fun member inside => (each member inside).1, once, fun member inside => (each member inside).2⟩

/-! ## Blanks between the parts -/

/-- A layout that puts nothing but blanks between the parts of a text. -/
def Layout.Blank : Layout → Prop
  | .compact => True
  | .indented unit => ∀ character ∈ unit.toList, isGap character

/-- The line break of such a layout is blank. -/
theorem Layout.Blank.break {layout : Layout} (blank : layout.Blank) (depth : Nat) :
    ∀ character ∈ (layout.break depth).toList, isGap character := by
  cases layout with
  | compact => simp [Layout.break]
  | indented unit =>
    intro character inside
    simp only [Layout.break, String.toList_append, String.toList_join, List.mem_append,
      List.mem_flatMap, List.mem_replicate] at inside
    rcases inside with lineFeed | ⟨_, ⟨_, rfl⟩, inUnit⟩
    · have isLineFeed : character = '\n' := by simpa using lineFeed
      subst isLineFeed
      rfl
    · exact blank character inUnit

/-- The separator of such a layout is a comma and blanks. -/
theorem Layout.Blank.separator {layout : Layout} (blank : layout.Blank) (depth : Nat) :
    ∃ gap, (layout.separator depth).toList = ',' :: gap ∧ ∀ character ∈ gap, isGap character := by
  cases layout with
  | compact => exact ⟨[' '], by simp [Layout.separator], by simp [isGap]⟩
  | indented unit =>
    refine ⟨((Layout.indented unit).break depth).toList, ?_, blank.break depth⟩
    simp [Layout.separator]

/-- No digit is a blank. -/
theorem isGap_digit {digit : Char} (isDigit : digit.isDigit) : isGap digit = false := by
  rw [← Bool.not_eq_true]
  intro isBlank
  simp only [isGap, Bool.or_eq_true, beq_iff_eq] at isBlank
  rcases isBlank with ((rfl | rfl) | rfl) | rfl <;> exact absurd isDigit (by decide)

/-- Blanks in front of a text are skipped. -/
theorem skipGap_append {gap : List Char} (blank : ∀ character ∈ gap, isGap character)
    (text : List Char) : skipGap (gap ++ text) = skipGap text :=
  List.dropWhile_append_of_pos blank

/-- A text that starts with no blank is left alone. -/
theorem skipGap_cons (first : Char) (ink : isGap first = false) (text : List Char) :
    skipGap (first :: text) = first :: text := by
  simp [skipGap, ink]

/-- Blanks in front of a text that starts with none are skipped. -/
theorem skipGap_append_cons {gap : List Char} (blank : ∀ character ∈ gap, isGap character)
    (first : Char) (ink : isGap first = false) (text : List Char) :
    skipGap (gap ++ first :: text) = first :: text := by
  rw [skipGap_append blank, skipGap_cons first ink]

/-- A single space in front of a text that starts with no blank is skipped. -/
theorem skipGap_space_cons (first : Char) (ink : isGap first = false) (text : List Char) :
    skipGap (' ' :: first :: text) = first :: text := by
  have space : ∀ character ∈ [' '], isGap character := by simp [isGap]
  exact skipGap_append_cons space first ink text

/-- A number ends in front of a character that is none of its parts. -/
theorem endsNumber_cons {next : Char} (rest : List Char) (noDigit : next.isDigit = false)
    (noPoint : next ≠ '.') (noMark : next ≠ 'e' ∧ next ≠ 'E') : EndsNumber (next :: rest) := by
  intro first isFirst
  obtain rfl : next = first := by simpa using isFirst
  exact ⟨noDigit, noPoint, noMark⟩

/-- A number ends in front of blanks and a character that is none of its parts. -/
theorem endsNumber_gap {gap : List Char} (blank : ∀ character ∈ gap, isGap character)
    {rest : List Char} (ends : EndsNumber rest) : EndsNumber (gap ++ rest) := by
  cases gap with
  | nil => exact ends
  | cons first gap =>
    have isBlank := blank first List.mem_cons_self
    simp only [isGap, Bool.or_eq_true, beq_iff_eq] at isBlank
    rcases isBlank with ((rfl | rfl) | rfl) | rfl <;>
      exact endsNumber_cons _ rfl (by decide) ⟨by decide, by decide⟩

/-! ## Objects -/

/-- A member with a new key is added at the end. -/
theorem setMember_of_not_mem {members : List (String × Json)} {key : String} (value : Json)
    (new : key ∉ members.map (·.1)) : setMember members key value = members ++ [(key, value)] := by
  induction members with
  | nil => rfl
  | cons member rest inductionHypothesis =>
    rw [List.map_cons, List.mem_cons, not_or] at new
    have different : (member.1 == key) = false := beq_eq_false_iff_ne.mpr (Ne.symm new.1)
    simp [setMember, different, inductionHypothesis new.2]

/-- Members whose keys are all different are kept as they are read. -/
theorem objectOf_eq {members : List (String × Json)} (once : (members.map (·.1)).Nodup) :
    objectOf members = .object members := by
  have gathered : ∀ (rest kept : List (String × Json)), ((kept ++ rest).map (·.1)).Nodup →
      rest.foldl (fun kept member => setMember kept member.1 member.2) kept = kept ++ rest := by
    intro rest
    induction rest with
    | nil => simp
    | cons member rest inductionHypothesis =>
      intro kept distinct
      have new : member.1 ∉ kept.map (·.1) := by
        intro old
        rw [List.map_append, List.nodup_append] at distinct
        exact distinct.2.2 _ old _ (by simp) rfl
      rw [List.foldl_cons, setMember_of_not_mem _ new,
        inductionHypothesis (kept ++ [member]) (by simpa using distinct)]
      simp
  rw [objectOf, gathered members [] (by simpa using once), List.nil_append]

/-! ## Reading what was written -/

/-- The characters of a written list. -/
theorem toList_writeAt_array (layout : Layout) (depth : Nat) (item : Json) (items : List Json) :
    (writeAt layout depth (.array (item :: items))).toList =
      '[' :: ((layout.break (depth + 1)).toList ++
        ((writeItems layout (depth + 1) (item :: items)).toList ++
          ((layout.break depth).toList ++ [']']))) := by
  simp [writeAt]

/-- The characters of a written object. -/
theorem toList_writeAt_object (layout : Layout) (depth : Nat) (member : String × Json)
    (members : List (String × Json)) :
    (writeAt layout depth (.object (member :: members))).toList =
      '\x7b' :: ((layout.break (depth + 1)).toList ++
        ((writeMembers layout (depth + 1) (member :: members)).toList ++
          ((layout.break depth).toList ++ ['\x7d']))) := by
  simp [writeAt]

/-- How the text of a value can start: with no blank, with nothing that closes a list,
and with no mark that would tell the order of bytes. -/
theorem writeAt_first {value : Json} (notFloat : value.NotFloat) (layout : Layout) (depth : Nat) :
    ∃ first rest, (writeAt layout depth value).toList = first :: rest ∧
      isGap first = false ∧ first ≠ ']' ∧ first ≠ '\uFEFF' := by
  cases value with
  | null => exact ⟨'n', ['u', 'l', 'l'], by simp [writeAt, writeScalar], rfl, by decide, by decide⟩
  | bool value =>
    cases value with
    | false => exact ⟨'f', ['a', 'l', 's', 'e'], by simp [writeAt, writeScalar], rfl, by decide, by decide⟩
    | true => exact ⟨'t', ['r', 'u', 'e'], by simp [writeAt, writeScalar], rfl, by decide, by decide⟩
  | int value =>
    simp only [writeAt, writeScalar, toList_toString_int]
    by_cases negative : value < 0
    · exact ⟨'-', _, if_pos negative, rfl, by decide, by decide⟩
    · rw [if_neg negative]
      cases shape : Nat.toDigits 10 value.natAbs with
      | nil => exact absurd shape Nat.toDigits_ne_nil
      | cons digit digits =>
        have isDigit : digit.isDigit := Nat.isDigit_of_mem_toDigits (b := 10) (n := value.natAbs)
          (by decide) (by decide) (by simp [shape])
        refine ⟨digit, digits, rfl, isGap_digit isDigit, ?_, ?_⟩
        · rintro rfl
          exact absurd isDigit (by decide)
        · rintro rfl
          exact absurd isDigit (by decide)
  | float value => exact notFloat.elim
  | string value =>
    simp only [writeAt, writeScalar, toList_writeString]
    exact ⟨'"', _, rfl, rfl, by decide, by decide⟩
  | array items =>
    cases items with
    | nil => exact ⟨'[', [']'], by simp [writeAt], rfl, by decide, by decide⟩
    | cons item items =>
      exact ⟨'[', _, toList_writeAt_array layout depth item items, rfl, by decide, by decide⟩
  | object members =>
    cases members with
    | nil => exact ⟨'\x7b', ['\x7d'], by simp [writeAt], rfl, by decide, by decide⟩
    | cons member members =>
      exact ⟨'\x7b', _, toList_writeAt_object layout depth member members, rfl, by decide, by decide⟩

/-- No word starts with a digit, also not after a sign. -/
theorem readWord?_digit {digit : Char} (isDigit : digit.isDigit) (rest : List Char) :
    readWord? (digit :: rest) = none ∧ readWord? ('-' :: digit :: rest) = none := by
  have noLetter : ∀ letter : Char, letter.isDigit = false → letter ≠ digit := by
    rintro letter noDigit rfl
    simp [isDigit] at noDigit
  have differs := fun (letter : Char) (noDigit : letter.isDigit = false) =>
    beq_eq_false_iff_ne.mpr (noLetter letter noDigit)
  constructor <;>
    simp [readWord?, words, List.find?, List.isPrefixOf, differs 'n' rfl, differs 't' rfl,
      differs 'f' rfl, differs 'N' rfl, differs 'I' rfl, differs '-' rfl]

/-- A written whole number is a value. -/
theorem readValue_int (number : Int) (bound : Nat) {rest : List Char} (ends : EndsNumber rest) :
    readValue (bound + 1) ((toString number).toList ++ rest) = .ok (.int number, rest) := by
  have number_read := readNumber_written number ends
  have allDigits : ∀ digit ∈ Nat.toDigits 10 number.natAbs, digit.isDigit := fun _ =>
    Nat.isDigit_of_mem_toDigits (by decide) (by decide)
  rw [toList_toString_int] at number_read ⊢
  cases shape : Nat.toDigits 10 number.natAbs with
  | nil => exact absurd shape Nat.toDigits_ne_nil
  | cons digit digits =>
    have isDigit : digit.isDigit := allDigits digit (by simp [shape])
    obtain ⟨noWord, noSignedWord⟩ := readWord?_digit isDigit (digits ++ rest)
    rw [shape] at number_read
    by_cases negative : number < 0
    · simp only [if_pos negative, List.cons_append] at number_read ⊢
      simp [readValue, noSignedWord, number_read]
    · simp only [if_neg negative, List.cons_append] at number_read ⊢
      -- None of the characters that open another kind of value is a digit.
      have differs : ∀ opening : Char, opening.isDigit = false →
          ∀ more, digit :: (digits ++ rest) ≠ opening :: more := by
        rintro opening noDigit more same
        obtain ⟨rfl, -⟩ := List.cons.inj same
        simp [isDigit] at noDigit
      have noQuote := differs '"' rfl
      have noBracket := differs '[' rfl
      have noBrace := differs '\x7b' rfl
      simp [readValue, noWord, number_read]

/-- A written scalar is a value. -/
theorem readValue_scalar {value : Json} (notFloat : value.NotFloat)
    (scalar : (∀ items, value ≠ .array items) ∧ ∀ members, value ≠ .object members) (bound : Nat)
    {rest : List Char} (ends : EndsNumber rest) :
    readValue (bound + 1) ((writeScalar value).toList ++ rest) = .ok (value, rest) := by
  cases value with
  | null => rfl
  | bool value => cases value <;> rfl
  | int value => exact readValue_int value bound ends
  | float value => exact notFloat.elim
  | string value =>
    rw [writeScalar, toList_writeString, List.cons_append, List.append_assoc, List.singleton_append,
      readValue, readString_written]
    rfl
  | array items => exact absurd rfl (scalar.1 items)
  | object members => exact absurd rfl (scalar.2 members)

/-- How the text of a list's items can start. -/
theorem writeItems_first {item : Json} (notFloat : item.NotFloat) (items : List Json)
    (layout : Layout) (depth : Nat) :
    ∃ first rest, (writeItems layout depth (item :: items)).toList = first :: rest ∧
      isGap first = false ∧ first ≠ ']' := by
  obtain ⟨first, rest, start, ink, noBracket, -⟩ := writeAt_first notFloat layout depth
  cases items with
  | nil => exact ⟨first, rest, by rw [writeItems, start], ink, noBracket⟩
  | cons next items =>
    refine ⟨first, rest ++ ((layout.separator depth).toList ++
      (writeItems layout depth (next :: items)).toList), ?_, ink, noBracket⟩
    simp [writeItems, start]

/-- The text of an object's members starts with the quote of the first key. -/
theorem writeMembers_first (key : String) (value : Json) (members : List (String × Json))
    (layout : Layout) (depth : Nat) :
    ∃ rest, (writeMembers layout depth ((key, value) :: members)).toList = '"' :: rest := by
  cases members with
  | nil => simp [writeMembers, toList_writeString]
  | cons next members => simp [writeMembers, toList_writeString]

/-- A written list is read back when its items are. -/
theorem readValue_array {layout : Layout} (blank : layout.Blank) {item : Json} {items : List Json}
    (notFloat : item.NotFloat) {depth bound : Nat} {rest : List Char}
    (inside : readItems bound ((writeItems layout (depth + 1) (item :: items)).toList ++
      ((layout.break depth).toList ++ ']' :: rest)) = .ok (item :: items, rest)) :
    readValue (bound + 1) ((writeAt layout depth (.array (item :: items))).toList ++ rest) =
      .ok (.array (item :: items), rest) := by
  obtain ⟨first, more, start, ink, noBracket⟩ :=
    writeItems_first notFloat items layout (depth + 1)
  have opens : ∀ after, first :: (more ++ ((layout.break depth).toList ++ ']' :: rest)) ≠ ']' :: after :=
    fun after same => noBracket (List.cons.inj same).1
  rw [start] at inside
  simp only [toList_writeAt_array, start, List.cons_append, List.append_assoc, List.nil_append,
    readValue] at inside ⊢
  rw [skipGap_append_cons (blank.break (depth + 1)) first ink]
  simp [inside, bind, Except.bind, pure, Except.pure]

/-- A written object is read back when its members are. -/
theorem readValue_object {layout : Layout} (blank : layout.Blank) {key : String} {value : Json}
    {members : List (String × Json)} (once : (((key, value) :: members).map (·.1)).Nodup)
    {depth bound : Nat} {rest : List Char}
    (inside : readMembers bound ((writeMembers layout (depth + 1) ((key, value) :: members)).toList ++
      ((layout.break depth).toList ++ '\x7d' :: rest)) = .ok ((key, value) :: members, rest)) :
    readValue (bound + 1) ((writeAt layout depth (.object ((key, value) :: members))).toList ++ rest) =
      .ok (.object ((key, value) :: members), rest) := by
  obtain ⟨more, start⟩ := writeMembers_first key value members layout (depth + 1)
  rw [start] at inside
  simp only [toList_writeAt_object, start, List.cons_append, List.append_assoc, List.nil_append,
    readValue] at inside ⊢
  rw [skipGap_append_cons (blank.break (depth + 1)) '"' rfl]
  simp [inside, objectOf_eq once, bind, Except.bind, pure, Except.pure]

/-- One item in front of a separator is read, and the reader is at the next item. -/
theorem readItems_cons {bound : Nat} {item next : Json} {items : List Json} {text gap more after : List Char}
    (item_read : readValue bound (text ++ (',' :: (gap ++ more))) = .ok (item, ',' :: (gap ++ more)))
    (blank : ∀ character ∈ gap, isGap character) (ink : ∀ first ∈ more.head?, isGap first = false)
    (items_read : readItems bound more = .ok (next :: items, after)) :
    readItems (bound + 1) (text ++ (',' :: (gap ++ more))) = .ok (item :: next :: items, after) := by
  have atNext : skipGap (gap ++ more) = more := by
    cases more with
    | nil => rw [skipGap_append blank]; rfl
    | cons first more => exact skipGap_append_cons blank first (ink first rfl) more
  rw [readItems, item_read]
  simp [bind, Except.bind, pure, Except.pure, skipGap_cons ',' rfl, atNext, items_read]

/-- One member in front of a separator is read, and the reader is at the next member. -/
theorem readMembers_cons {bound : Nat} {key : String} {value : Json} {member : String × Json}
    {members : List (String × Json)} {first : Char} {text gap more after : List Char}
    (ink : isGap first = false)
    (value_read : readValue bound (first :: (text ++ (',' :: (gap ++ '"' :: more)))) =
      .ok (value, ',' :: (gap ++ '"' :: more)))
    (blank : ∀ character ∈ gap, isGap character)
    (members_read : readMembers bound ('"' :: more) = .ok (member :: members, after)) :
    readMembers (bound + 1) ((writeString key).toList ++
        (':' :: ' ' :: first :: (text ++ (',' :: (gap ++ '"' :: more))))) =
      .ok ((key, value) :: member :: members, after) := by
  have afterColon := skipGap_space_cons first ink
  rw [toList_writeString, List.cons_append, List.append_assoc, List.singleton_append, readMembers,
    readString_written]
  simp [bind, Except.bind, pure, Except.pure, skipGap_cons ':' rfl, afterColon, value_read,
    skipGap_cons ',' rfl, skipGap_append_cons blank '"' rfl, members_read]

/-- The last member of an object is read up to the closing brace. -/
theorem readMembers_last {bound : Nat} {key : String} {value : Json} {first : Char}
    {text gap after : List Char} (ink : isGap first = false)
    (value_read : readValue bound (first :: (text ++ (gap ++ '\x7d' :: after))) =
      .ok (value, gap ++ '\x7d' :: after))
    (blank : ∀ character ∈ gap, isGap character) :
    readMembers (bound + 1) ((writeString key).toList ++
        (':' :: ' ' :: first :: (text ++ (gap ++ '\x7d' :: after)))) = .ok ([(key, value)], after) := by
  have afterColon := skipGap_space_cons first ink
  rw [toList_writeString, List.cons_append, List.append_assoc, List.singleton_append, readMembers,
    readString_written]
  simp [bind, Except.bind, pure, Except.pure, skipGap_cons ':' rfl, afterColon, value_read,
    skipGap_append_cons blank '\x7d' rfl]

/-- A written value is read back, whatever follows it, if the bound covers its text. -/
def ReadBack (layout : Layout) (value : Json) : Prop :=
  ∀ (depth bound : Nat) (rest : List Char), (writeAt layout depth value).toList.length ≤ bound →
    EndsNumber rest →
      readValue bound ((writeAt layout depth value).toList ++ rest) = .ok (value, rest)

/-- The written items of a list are read back up to its closing bracket. -/
theorem readItems_writeItems {layout : Layout} (blank : layout.Blank) {items : List Json}
    (notEmpty : items ≠ []) (notFloat : ∀ item ∈ items, item.NotFloat)
    (readBack : ∀ item ∈ items, item.ReadBack layout) (depth bound : Nat) {gap : List Char}
    (gapBlank : ∀ character ∈ gap, isGap character) (rest : List Char)
    (covered : (writeItems layout depth items).toList.length < bound) :
    readItems bound ((writeItems layout depth items).toList ++ (gap ++ ']' :: rest)) =
      .ok (items, rest) := by
  induction items generalizing bound with
  | nil => exact absurd rfl notEmpty
  | cons item items inductionHypothesis =>
    obtain ⟨bound, rfl⟩ := Nat.exists_eq_succ_of_ne_zero (Nat.ne_zero_of_lt covered)
    cases items with
    | nil =>
      simp only [writeItems] at covered ⊢
      have item_read := readBack item List.mem_cons_self depth bound (gap ++ ']' :: rest) (by omega)
        (endsNumber_gap gapBlank (endsNumber_cons _ rfl (by decide) ⟨by decide, by decide⟩))
      rw [readItems, item_read]
      simp [bind, Except.bind, pure, Except.pure, skipGap_append_cons gapBlank ']' rfl]
    | cons next items =>
      obtain ⟨separatorGap, separator, separatorBlank⟩ := blank.separator depth
      simp only [writeItems, String.toList_append, separator, List.length_append, List.length_cons,
        List.append_assoc, List.cons_append] at covered ⊢
      have item_read := readBack item List.mem_cons_self depth bound
        (',' :: (separatorGap ++ ((writeItems layout depth (next :: items)).toList ++
          (gap ++ ']' :: rest)))) (by omega)
        (endsNumber_cons _ rfl (by decide) ⟨by decide, by decide⟩)
      obtain ⟨first, more, start, ink, -⟩ :=
        writeItems_first (notFloat next (by simp)) items layout depth
      exact readItems_cons item_read separatorBlank (by simp [start, ink])
        (inductionHypothesis (by simp) (fun inside member => notFloat inside (by simp [member]))
          (fun inside member => readBack inside (by simp [member])) bound (by omega))

/-- The written members of an object are read back up to its closing brace. -/
theorem readMembers_writeMembers {layout : Layout} (blank : layout.Blank)
    {members : List (String × Json)} (notEmpty : members ≠ [])
    (notFloat : ∀ member ∈ members, member.2.NotFloat)
    (readBack : ∀ member ∈ members, member.2.ReadBack layout) (depth bound : Nat) {gap : List Char}
    (gapBlank : ∀ character ∈ gap, isGap character) (rest : List Char)
    (covered : (writeMembers layout depth members).toList.length < bound) :
    readMembers bound ((writeMembers layout depth members).toList ++ (gap ++ '\x7d' :: rest)) =
      .ok (members, rest) := by
  induction members generalizing bound with
  | nil => exact absurd rfl notEmpty
  | cons member members inductionHypothesis =>
    obtain ⟨key, value⟩ := member
    obtain ⟨bound, rfl⟩ := Nat.exists_eq_succ_of_ne_zero (Nat.ne_zero_of_lt covered)
    have valueBack : value.ReadBack layout := readBack (key, value) List.mem_cons_self
    obtain ⟨first, more, start, ink, -⟩ :=
      writeAt_first (notFloat (key, value) List.mem_cons_self) layout depth
    cases members with
    | nil =>
      simp only [writeMembers, String.toList_append, List.length_append, List.append_assoc]
        at covered ⊢
      have value_read := valueBack depth bound (gap ++ '\x7d' :: rest) (by omega)
        (endsNumber_gap gapBlank (endsNumber_cons _ rfl (by decide) ⟨by decide, by decide⟩))
      rw [start] at value_read ⊢
      simpa using readMembers_last ink value_read gapBlank
    | cons next members =>
      obtain ⟨separatorGap, separator, separatorBlank⟩ := blank.separator depth
      obtain ⟨moreMembers, startMembers⟩ := writeMembers_first next.1 next.2 members layout depth
      simp only [writeMembers, String.toList_append, separator, List.length_append, List.length_cons,
        List.append_assoc, List.cons_append] at covered ⊢
      have value_read := valueBack depth bound
        (',' :: (separatorGap ++ ((writeMembers layout depth (next :: members)).toList ++
          (gap ++ '\x7d' :: rest)))) (by omega)
        (endsNumber_cons _ rfl (by decide) ⟨by decide, by decide⟩)
      have members_read := inductionHypothesis (by simp)
        (fun inside member => notFloat inside (by simp [member]))
        (fun inside member => readBack inside (by simp [member])) bound (by omega)
      rw [start] at value_read ⊢
      rw [startMembers] at value_read members_read ⊢
      simpa using readMembers_cons ink value_read separatorBlank members_read

/-- A bound that covers the text of a value is not zero. -/
theorem bound_of_covered {value : Json} (notFloat : value.NotFloat) {layout : Layout}
    {depth bound : Nat} (covered : (writeAt layout depth value).toList.length ≤ bound) :
    ∃ less, bound = less + 1 := by
  obtain ⟨first, rest, start, -, -⟩ := writeAt_first notFloat layout depth
  rw [start, List.length_cons] at covered
  exact ⟨bound - 1, by omega⟩

/-- A value determined by its text is read back from that text. -/
theorem Exact.readBack {layout : Layout} (blank : layout.Blank) {value : Json} (exact : value.Exact) :
    value.ReadBack layout := by
  induction value using inductionInside with
  | scalar value noArray noObject =>
    intro depth bound rest covered ends
    obtain ⟨bound, rfl⟩ := bound_of_covered exact.1.self covered
    have written : writeAt layout depth value = writeScalar value := by
      cases value with
      | array items => exact absurd rfl (noArray items)
      | object members => exact absurd rfl (noObject members)
      | _ => simp only [writeAt]
    rw [written]
    exact readValue_scalar exact.1.self ⟨noArray, noObject⟩ bound ends
  | array items inductionHypothesis =>
    intro depth bound rest covered _
    obtain ⟨bound, rfl⟩ := bound_of_covered exact.1.self covered
    cases items with
    | nil => simp [writeAt, readValue, skipGap_cons ']' rfl]
    | cons item items =>
      have exactItems := exact_array_iff.mp exact
      simp only [toList_writeAt_array, List.length_cons, List.length_append] at covered
      exact readValue_array blank (exactItems item List.mem_cons_self).1.self
        (readItems_writeItems blank (by simp) (fun inside member => (exactItems inside member).1.self)
          (fun inside member => inductionHypothesis inside member (exactItems inside member))
          (depth + 1) bound (blank.break depth) rest (by omega))
  | object members inductionHypothesis =>
    intro depth bound rest covered _
    obtain ⟨bound, rfl⟩ := bound_of_covered exact.1.self covered
    cases members with
    | nil => simp [writeAt, readValue, skipGap_cons '\x7d' rfl]
    | cons member members =>
      obtain ⟨key, value⟩ := member
      obtain ⟨once, exactMembers⟩ := exact_object_iff.mp exact
      simp only [toList_writeAt_object, List.length_cons, List.length_append] at covered
      exact readValue_object blank once
        (readMembers_writeMembers blank (by simp)
          (fun inside member => (exactMembers inside member).1.self)
          (fun inside member => inductionHypothesis inside member (exactMembers inside member))
          (depth + 1) bound (blank.break depth) rest (by omega))

/-- A value determined by its text is the value of that text. -/
theorem parse_write {layout : Layout} (blank : layout.Blank) {value : Json} (exact : value.Exact) :
    parse (write layout value) = .ok value := by
  obtain ⟨first, rest, start, ink, -, noMark⟩ := writeAt_first exact.1.self layout 0
  have value_read := exact.readBack blank 0 (2 * (first :: rest).length + 2) []
    (by rw [start]; omega) (by simp [EndsNumber])
  rw [List.append_nil, start] at value_read
  have all_read : readAll (first :: rest) = .ok value := by
    unfold readAll
    split
    case h_1 same => exact absurd (List.cons.inj same).1 noMark
    case h_2 =>
      rw [skipGap_cons first ink, value_read]
      rfl
  rw [parse, write, start, all_read]
  rfl

end OutlineWiki.Json
