import OutlineWiki.Proofs.LineBlocks
import OutlineWiki.Proofs.SameSteps

/-!
# Texts of items

What stands in the text of a list: each item opens with the indentation of the list's level and with its
mark, and begins where a line starts. An item takes its number before its children are visited, and a list
inside it numbers its own items, so the next item finds the number that its predecessor left.
-/

namespace OutlineWiki

open Markup

namespace Text

/-- A text after which a line starts: it ends with a line feed if it is not empty. -/
def AtLineStart (text : String) : Prop :=
  text.toList.getLast?.getD '\n' = '\n'

instance (text : String) : Decidable (AtLineStart text) :=
  inferInstanceAs (Decidable (text.toList.getLast?.getD '\n' = '\n'))

/-- A line starts after a line feed. -/
theorem atLineStart_newline (text : String) : AtLineStart (text ++ "\n") := by
  have newline : ("\n" : String).toList = ['\n'] := rfl
  rw [AtLineStart, String.toList_append, newline, List.getLast?_concat, Option.getD_some]

/-- A line starts after two texts when one starts after each. -/
theorem AtLineStart.append {first second : String} (atFirst : AtLineStart first)
    (atSecond : AtLineStart second) : AtLineStart (first ++ second) := by
  rw [AtLineStart] at atSecond
  rw [AtLineStart, String.toList_append, List.getLast?_append]
  cases last : second.toList.getLast? with
  | none => exact atFirst
  | some character => rwa [last] at atSecond

/-- A line starts after texts when one starts after each. -/
theorem atLineStart_join {texts : List String} (each : ∀ text ∈ texts, AtLineStart text) :
    AtLineStart (String.join texts) := by
  induction texts with
  | nil => rfl
  | cons text rest inductionHypothesis =>
    rw [String.join_cons]
    exact (each text List.mem_cons_self).append
      (inductionHypothesis fun later inside => each later (List.mem_cons_of_mem text inside))

/-- After a text that ends in ink, blanks at the end are removed from what follows it. -/
theorem stripEnd_append {first : String} (ends : EndsInInk first) (second : String) :
    stripEnd (first ++ second) = first ++ stripEnd second := by
  obtain ⟨start, last, shape, ink⟩ := ends
  have kept : Chars.trimEnd (first.toList ++ second.toList) = first.toList ++ Chars.trimEnd second.toList := by
    simp only [Chars.trimEnd, List.reverse_append, List.dropWhile_append]
    split
    · next none =>
      rw [List.isEmpty_iff] at none
      simp [none, shape, ink]
    · simp
  rw [stripEnd, String.toList_append, kept, String.ofList_append, String.ofList_toList, stripEnd]

end Text

namespace Markup

/-- The mark of the item of a list with an index: a star, or its number, which is the start of the list
and after that always one. -/
def markOf (ordered start : Json) (index : Nat) : String :=
  if ordered.isTruthy then if index = 0 then start.shown ++ "." else "1." else "*"

/-- The characters of an indentation and a mark. -/
def opening (level : Nat) (mark : String) : List Char :=
  List.replicate (2 * level - 1) ' ' ++ mark.toList

/-- A text opens with the indentation of a list at a level and a mark, after which a blank or the end of
the line follows. -/
def Opens (level : Nat) (mark text : String) : Prop :=
  opening level mark ++ [' '] <+: text.toList ∨ opening level mark ++ ['\n'] <+: text.toList

instance (level : Nat) (mark text : String) : Decidable (Opens level mark text) :=
  inferInstanceAs (Decidable (_ ∨ _))

/-- Texts of items make the text of a list at a level: each opens with the indentation and its mark where a
line starts, and a line starts after the last. -/
structure ItemsStand (level : Nat) (ordered start : Json) (texts : List String) : Prop where
  opens : ∀ index text, texts[index]? = some text → Opens level (markOf ordered start index) text
  lines : ∀ index ≤ texts.length, Text.AtLineStart (String.join (texts.take index))

/-- Whether texts of items make the text of a list, found by a look at each place in it. -/
theorem itemsStand_iff {level : Nat} {ordered start : Json} {texts : List String} :
    ItemsStand level ordered start texts ↔ (List.range (texts.length + 1)).all (fun index =>
      Text.AtLineStart (String.join (texts.take index)) &&
        texts[index]?.all fun text => Opens level (markOf ordered start index) text) = true := by
  simp only [List.all_eq_true, List.mem_range, Nat.lt_succ_iff, Bool.and_eq_true, decide_eq_true_eq,
    Option.all_eq_true]
  constructor
  · rintro ⟨opens, lines⟩ index inside
    exact ⟨lines index inside, opens index⟩
  · intro each
    refine ⟨fun index text found => ?_, fun index inside => (each index inside).1⟩
    obtain ⟨inside, -⟩ := List.getElem?_eq_some_iff.mp found
    exact (each index inside.le).2 text found

instance (level : Nat) (ordered start : Json) (texts : List String) :
    Decidable (ItemsStand level ordered start texts) :=
  decidable_of_iff _ itemsStand_iff.symm

/-- The line of an item opens with the indentation of its level and the mark of its number. -/
theorem opens_itemLine (level : Nat) (number : Json) (text : String) :
    Opens (level + 1) (itemMark number) (itemLine (level + 1) number text) := by
  have ends : Text.EndsInInk (itemIndent (level + 1) ++ itemMark number) := by
    refine Text.EndsInInk.append _ ?_
    cases number with
    | null => exact ⟨[], '*', rfl, by decide⟩
    | _ => exact Text.EndsInInk.append _ ⟨[], '.', rfl, by decide⟩
  have opens : (itemIndent (level + 1) ++ itemMark number).toList = opening (level + 1) (itemMark number) := by
    rw [String.toList_append, itemIndent, Text.replicate, String.toList_ofList, opening]
    congr 2
    omega
  have line : (itemLine (level + 1) number text).toList =
      opening (level + 1) (itemMark number) ++ ((Text.stripEnd (" " ++ text)).toList ++ ['\n']) := by
    rw [itemLine, String.append_assoc, Text.stripEnd_append ends, String.toList_append, String.toList_append,
      opens, List.append_assoc]
    rfl
  have rest : (Text.stripEnd (" " ++ text)).toList <+: ' ' :: text.toList := by
    have blankFirst : (" " ++ text).toList = ' ' :: text.toList := String.toList_append
    rw [Text.stripEnd, String.toList_ofList, blankFirst]
    exact List.rdropWhile_prefix Text.isBlank _
  rw [Opens, line]
  cases shape : (Text.stripEnd (" " ++ text)).toList with
  | nil => exact .inr (List.prefix_refl _)
  | cons next others =>
    rw [shape] at rest
    obtain ⟨rfl, -⟩ := List.cons_prefix_cons.mp rest
    exact .inl ((List.prefix_append_right_inj _).mpr (List.cons_prefix_cons.mpr ⟨rfl, List.nil_prefix⟩))

/-! ## Pieces that end lines -/

/-- Two steps come to a value when the first gives one from which the second comes to it. -/
theorem run_bind_eq_ok {Value Result : Type} {step : Render Value} {next : Value → Render Result}
    {state after : State} {result : Result} :
    (step >>= next).run state = .ok result after ↔
      ∃ value between, step.run state = .ok value between ∧ (next value).run between = .ok result after := by
  rw [EStateM.run_bind]
  cases step.run state <;> simp

/-- Pieces make a text after which a line starts. -/
def Lined (pieces : List Json) : Prop :=
  ∃ text, joinPieces pieces = .ok text ∧ Text.AtLineStart text

/-- A text that opens with an indentation and a mark does so whatever follows it. -/
theorem Opens.append {level : Nat} {mark text : String} (opens : Opens level mark text) (rest : String) :
    Opens level mark (text ++ rest) := by
  have kept : text.toList <+: (text ++ rest).toList := by
    rw [String.toList_append]
    exact List.prefix_append _ _
  exact opens.imp (·.trans kept) (·.trans kept)

/-- The text of pieces starts with that of the first. -/
theorem joinPieces_cons {first text : String} {more : List Json}
    (joined : joinPieces (.string first :: more) = .ok text) : ∃ rest, text = first ++ rest := by
  obtain ⟨strings, areStrings, rfl⟩ := map_eq_ok.mp joined
  obtain ⟨others, -, rfl⟩ := map_eq_ok.mp areStrings
  exact ⟨String.join others, String.join_cons⟩

/-- A line is lined. -/
theorem Lined.line (text : String) : Lined [.string (text ++ "\n")] := by
  exact ⟨text ++ "\n", joinPieces_single _, Text.atLineStart_newline text⟩

/-- Pieces in sequence are lined when each part is. -/
theorem Lined.append {pieces others : List Json} (first : Lined pieces) (second : Lined others) :
    Lined (pieces ++ others) := by
  obtain ⟨text, joined, atLine⟩ := first
  obtain ⟨rest, restJoined, restAtLine⟩ := second
  exact ⟨text ++ rest, joinPieces_append joined restJoined, atLine.append restAtLine⟩

/-- A writer that writes nothing but lined pieces. -/
def LinedWriter (writer : Writer) : Prop :=
  ∀ around state pieces after, (writer around).run state = .ok pieces after → Lined pieces

/-- Lined writers are lined in sequence. -/
theorem lined_inSequence {writers : List Writer} (each : ∀ writer ∈ writers, LinedWriter writer) :
    LinedWriter (inSequence writers) := by
  induction writers with
  | nil =>
    intro around state pieces after run
    obtain ⟨rfl, -⟩ := EStateM.Result.ok.inj run
    exact ⟨"", rfl, rfl⟩
  | cons writer rest inductionHypothesis =>
    intro around state pieces after run
    obtain ⟨first, between, firstRun, run⟩ := run_bind_eq_ok.mp run
    obtain ⟨others, _, restRun, run⟩ := run_bind_eq_ok.mp run
    obtain ⟨rfl, -⟩ := EStateM.Result.ok.inj run
    exact (each writer List.mem_cons_self around state first between firstRun).append
      (inductionHypothesis (fun later inside => each later (List.mem_cons_of_mem writer inside)) _ _ _ _ restRun)

/-- A block on lines is lined. -/
theorem lined_lineWriter (writer : Writer) : LinedWriter (lineWriter writer) := by
  intro around state pieces after run
  obtain ⟨text, _, -, run⟩ := run_bind_eq_ok.mp run
  obtain ⟨rfl, -⟩ := EStateM.Result.ok.inj run
  exact .line text

variable {options : Options} {leading others : List Writer} {around : Option Surroundings}

/-- A visit of an item takes its number first; the line has the level and the number that the visit finds. -/
theorem run_itemWriter (leading others : List Writer) (around : Option Surroundings) (state : State) :
    (itemWriter options leading others around).run state =
      (capture leading around >>= fun text => inSequence others around >>= fun pieces =>
        pure (Json.string (itemLine state.listLevel (state.numbers.headD .null) (reflow options text)) ::
          pieces)).run { state with numbers := numbersAfterItem state.numbers } := by
  rw [itemWriter_eq, EStateM.run_bind]
  show (takeNumber >>= _).run state = _
  rw [EStateM.run_bind, run_takeNumber]

/-- What a visit of an item writes: its line, and then what its other children write. -/
theorem pieces_of_itemWriter {state after : State} {pieces : List Json}
    (run : (itemWriter options leading others around).run state = .ok pieces after) :
    ∃ text more between, pieces = .string (itemLine state.listLevel (state.numbers.headD .null) text) :: more ∧
      (inSequence others around).run between = .ok more after := by
  rw [run_itemWriter] at run
  obtain ⟨text, between, -, run⟩ := run_bind_eq_ok.mp run
  obtain ⟨more, _, restRun, run⟩ := run_bind_eq_ok.mp run
  obtain ⟨rfl, rfl⟩ := EStateM.Result.ok.inj run
  exact ⟨reflow options text, more, between, rfl, restRun⟩

/-- An item is lined when its other children are. -/
theorem lined_itemWriter (each : ∀ writer ∈ others, LinedWriter writer) :
    LinedWriter (itemWriter options leading others) := by
  intro around state pieces after run
  obtain ⟨text, more, between, rfl, restRun⟩ := pieces_of_itemWriter run
  exact (Lined.line _).append (lined_inSequence each _ _ _ _ restRun)

/-- A list is lined when its items are. -/
theorem lined_listWriter {items : List Writer} (each : ∀ writer ∈ items, LinedWriter writer)
    (ordered start : Json) : LinedWriter (listWriter ordered start items) := by
  intro around state pieces after run
  rw [listWriter_eq_inList] at run
  obtain ⟨_, inside, -⟩ := run_inList_eq_ok.mp run
  exact lined_inSequence each _ _ _ _ inside

end Markup

namespace Node

/-- Whether a list holds nothing but items and, if they are numbered, has a start. -/
def isProperList : Node → Bool
  | .list _ ordered .null items => items.all isItem && !ordered.isTruthy
  | .list _ _ _ items => items.all isItem
  | _ => true

/-- What a proper list holds, and what it has no start for. -/
theorem isProperList_iff {attributes : Attributes} {ordered start : Json} {items : List Node} :
    (Node.list attributes ordered start items).isProperList = true ↔
      (∀ item ∈ items, item.isItem = true) ∧ (start = .null → ordered.isTruthy = false) := by
  cases start <;> simp [isProperList]

/-- Where lists hold nothing but items, every child of an item is lined, and so is every item. -/
theorem lined_asItemChild {options : Options} {depth : Nat} {node : Node}
    (proper : node.Everywhere (·.isProperList = true)) :
    LinedWriter (node.asItemChild .plain options depth) ∧
      (node.isItem = true → LinedWriter (node.listedWriter .plain options depth)) := by
  induction node using inductionChildren generalizing depth with
  | step node inductionHypothesis =>
    obtain ⟨isProper, below⟩ := everywhere_iff.mp proper
    constructor
    · cases node with
      | list attributes ordered start items =>
        obtain ⟨areItems, -⟩ := isProperList_iff.mp isProper
        simp only [asItemChild, listedWriter, listedWriters_eq_map]
        refine lined_listWriter ?_ ordered start
        rw [List.forall_mem_map]
        exact fun item inside => (inductionHypothesis item inside (below item inside)).2 (areItems item inside)
      | _ => exact lined_lineWriter _
    · intro anItem
      cases node with
      | listItem attributes children =>
        rw [listedWriter_item]
        refine lined_itemWriter ?_
        rw [List.forall_mem_map]
        intro child isOther
        have inside := mem_of_mem_otherChildren isOther
        exact (inductionHypothesis child inside (below child inside)).1
      | _ => cases anItem

end Node

namespace Markup

/-! ## The items of a list -/

variable {options : Options} {around : Option Surroundings} {least : Nat}

/-- What a visit of an item leaves: the level that it found, and the numbers after it took one, when its
children keep both. -/
theorem after_itemWriter {leading others : List Writer} {state after : State} {pieces : List Json}
    (text : SameAt (least ≤ ·) (capture leading around) (capture leading around))
    (rest : SameAt (least ≤ ·) (inSequence others around) (inSequence others around))
    (deep : least ≤ state.listLevel)
    (run : (itemWriter options leading others around).run state = .ok pieces after) :
    after.listLevel = state.listLevel ∧ after.numbers = numbersAfterItem state.numbers := by
  rw [run_itemWriter] at run
  have body : SameAt (least ≤ ·) _ _ := text.bind fun leadingText => rest.bind fun more =>
    .pure (Json.string (itemLine state.listLevel (state.numbers.headD .null) (reflow options leadingText)) :: more)
  obtain ⟨sameLevel, kept | takenAgain⟩ :=
    (body { state with numbers := numbersAfterItem state.numbers } deep).2 pieces after run
  · exact ⟨sameLevel, kept⟩
  · refine ⟨sameLevel, ?_⟩
    rw [takenAgain]
    exact numbersAfterItem_numbersAfterItem _

/-- The number that an item leaves for the next. -/
def laterNumber : Json → Json
  | .null => .null
  | _ => .int 1

/-- What an item leaves of the innermost number. -/
theorem numbersAfterItem_cons (number : Json) (outer : List Json) :
    numbersAfterItem (number :: outer) = laterNumber number :: outer := by
  cases number <;> rfl

/-- The number of the item of a list with an index, whose first item has a given number. -/
def numberAt (first : Json) (index : Nat) : Json :=
  if index = 0 then first else laterNumber first

/-- After the first item all have the number that it left. -/
theorem numberAt_laterNumber (first : Json) (index : Nat) :
    numberAt (laterNumber first) index = numberAt first (index + 1) := by
  unfold numberAt
  split <;> cases first <;> rfl

/-- An item of a list: it is visited at the level of the list, takes its number and leaves the next. -/
theorem text_of_item {depth : Nat} {item : Node} (proper : item.Everywhere (·.isProperList = true))
    (anItem : item.isItem = true) (fits : item.hasStrayRow = true → SameAround (least ≤ ·) around around)
    {level : Nat} {number : Json} {outer : List Json} {state after : State} {pieces : List Json}
    (deep : least ≤ level + 1) (atLevel : state.listLevel = level + 1) (atNumbers : state.numbers = number :: outer)
    (run : (item.listedWriter .plain options depth around).run state = .ok pieces after) :
    (∃ text, joinPieces pieces = .ok text ∧ Text.AtLineStart text ∧
      Opens (level + 1) (itemMark number) text) ∧
      after.listLevel = level + 1 ∧ after.numbers = laterNumber number :: outer := by
  cases item with
  | listItem attributes children =>
    constructor
    · obtain ⟨text, joined, atLine⟩ := (Node.lined_asItemChild proper).2 anItem around state pieces after run
      refine ⟨text, joined, atLine, ?_⟩
      rw [Node.listedWriter_item] at run
      obtain ⟨first, more, _, rfl, -⟩ := pieces_of_itemWriter run
      obtain ⟨rest, rfl⟩ := joinPieces_cons joined
      rw [atLevel, atNumbers]
      exact (opens_itemLine level number first).append rest
    · have leading : SameAt (least ≤ ·)
          (capture ((Node.leadingContent children).map (Node.listedWriter .plain options depth)) around) _ :=
        same_capture fun inner isLeading => keeps_listedWriter depth fun strayInner =>
          fits (stray_of_leadingContent isLeading strayInner)
      have others : SameAt (least ≤ ·)
          (inSequence ((Node.otherChildren children).map (Node.asItemChild .plain options depth)) around) _ :=
        same_inSequence fun child isOther => (keeps_listedWriter depth fun strayChild =>
          fits (stray_of_otherChildren isOther strayChild)).asItemChild
      rw [Node.listedWriter_item] at run
      obtain ⟨kept, taken⟩ := after_itemWriter leading others (atLevel ▸ deep) run
      rw [kept, taken, atLevel, atNumbers, numbersAfterItem_cons]
      exact ⟨rfl, rfl⟩
  | _ => cases anItem

/-- The items of a list, visited one after the other at the level of the list: each opens with the mark of its
number, and a line starts after it. -/
theorem texts_of_items {depth : Nat} {items : List Node}
    (proper : ∀ item ∈ items, item.Everywhere (·.isProperList = true))
    (areItems : ∀ item ∈ items, item.isItem = true)
    (fits : Node.anyStrayRow items = true → SameAround (least ≤ ·) around around)
    {level : Nat} {number : Json} {outer : List Json} {state after : State} {parts : List (List Json)}
    (deep : least ≤ level + 1) (atLevel : state.listLevel = level + 1) (atNumbers : state.numbers = number :: outer)
    (run : (visitEach (items.map (Node.listedWriter .plain options depth)) around).run state = .ok parts after) :
    ∃ texts : List String, parts.map joinPieces = texts.map .ok ∧ (∀ text ∈ texts, Text.AtLineStart text) ∧
      ∀ index text, texts[index]? = some text → Opens (level + 1) (itemMark (numberAt number index)) text := by
  induction items generalizing number state after parts with
  | nil =>
    obtain ⟨rfl, -⟩ := EStateM.Result.ok.inj run
    exact ⟨[], rfl, by simp, by simp⟩
  | cons item rest inductionHypothesis =>
    obtain ⟨pieces, between, itemRun, run⟩ := run_bind_eq_ok.mp run
    obtain ⟨others, last, restRun, run⟩ := run_bind_eq_ok.mp run
    obtain ⟨rfl, rfl⟩ := EStateM.Result.ok.inj run
    have itemFits (stray : item.hasStrayRow = true) : SameAround (least ≤ ·) around around :=
      fits (Node.anyStrayRow_iff.mpr ⟨item, List.mem_cons_self, stray⟩)
    have restFits (stray : Node.anyStrayRow rest = true) : SameAround (least ≤ ·) around around := by
      obtain ⟨other, isOther, strayOther⟩ := Node.anyStrayRow_iff.mp stray
      exact fits (Node.anyStrayRow_iff.mpr ⟨other, List.mem_cons_of_mem item isOther, strayOther⟩)
    obtain ⟨⟨text, joined, atLine, opens⟩, sameLevel, nextNumbers⟩ :=
      text_of_item (proper item List.mem_cons_self) (areItems item List.mem_cons_self) itemFits deep atLevel
        atNumbers itemRun
    obtain ⟨texts, areTexts, atLines, allOpen⟩ := inductionHypothesis
      (fun other isOther => proper other (List.mem_cons_of_mem item isOther))
      (fun other isOther => areItems other (List.mem_cons_of_mem item isOther)) restFits sameLevel nextNumbers restRun
    refine ⟨text :: texts, by rw [List.map_cons, joined, areTexts, List.map_cons],
      List.forall_mem_cons.mpr ⟨atLine, atLines⟩, ?_⟩
    intro index found isFound
    cases index with
    | zero =>
      obtain rfl := Option.some.inj isFound
      exact opens
    | succ index =>
      rw [← numberAt_laterNumber]
      exact allOpen index found isFound

/-- The mark of an item's number is the mark of the item. -/
theorem itemMark_numberAt {ordered start : Json} (started : start = .null → ordered.isTruthy = false)
    (index : Nat) :
    itemMark (numberAt (if ordered.isTruthy then start else .null) index) = markOf ordered start index := by
  have one : (Json.int 1).shown ++ "." = "1." := by decide
  unfold markOf numberAt
  cases isOrdered : ordered.isTruthy with
  | false => split <;> rfl
  | true =>
    have hasStart : start ≠ .null := fun none => absurd (started none) (by simp [isOrdered])
    split
    · cases start with
      | null => exact absurd rfl hasStart
      | _ => rfl
    · cases start with
      | null => exact absurd rfl hasStart
      | _ => exact one

/-- The items of a list stand in its text, whatever the list is inside of and whatever stands inside the
items. -/
theorem itemsStand_of_visit {depth : Nat} {attributes : Attributes} {ordered start : Json} {items : List Node}
    (proper : (Node.list attributes ordered start items).Everywhere (·.isProperList = true))
    (fits : Node.anyStrayRow items = true → SameAround (least ≤ ·) around around)
    {state after : State} {parts : List (List Json)} (deep : least ≤ state.listLevel + 1)
    (run : (inList ordered start (visitEach (items.map (Node.listedWriter .plain options depth)) around)).run state =
      .ok parts after) :
    ∃ texts, parts.mapM joinPieces = .ok texts ∧ ItemsStand (state.listLevel + 1) ordered start texts := by
  obtain ⟨isProper, below⟩ := Node.everywhere_iff.mp proper
  obtain ⟨areItems, started⟩ := Node.isProperList_iff.mp isProper
  obtain ⟨_, inside, -⟩ := run_inList_eq_ok.mp run
  obtain ⟨texts, areTexts, atLines, allOpen⟩ := texts_of_items below areItems fits deep rfl rfl inside
  refine ⟨texts, mapM_eq_ok areTexts, ?_, ?_⟩
  · intro index text found
    rw [← itemMark_numberAt started]
    exact allOpen index text found
  · exact fun index _ => Text.atLineStart_join fun text isText => atLines text (List.mem_of_mem_take isText)

end Markup

end OutlineWiki
