import OutlineWiki.Proofs.ItemTexts
import OutlineWiki.Proofs.NestedDocuments

/-!
# Code that stands verbatim

The text of a code block is captured, freed of line feeds at its end, joined with other blocks and finished
with the whole output, once for every document and item around it. No layer touches it: it starts where a
line starts, since lists and documents end lines before it, and it ends in a brace, so nothing is removed from
its end.
-/

namespace OutlineWiki

open Markup

namespace Text

/-! ## Texts on lines of their own -/

/-- Texts stand in a text one behind the other, each from the start of a line to the end of one. -/
inductive StandInLines : List String → String → Prop where
  | none (text : String) : StandInLines [] text
  | next {first : String} {others : List String} {before after : String} : AtLineStart before →
      StandInLines others after → StandInLines (first :: others) (before ++ first ++ "\n" ++ after)

/-- Where a line starts after two texts, one starts after the second. -/
theorem AtLineStart.right {first second : String} (atLine : AtLineStart (first ++ second)) : AtLineStart second := by
  rw [AtLineStart, String.toList_append, List.getLast?_append] at atLine
  rw [AtLineStart]
  cases last : second.toList.getLast? with
  | none => rfl
  | some character => rwa [last] at atLine

namespace StandInLines

variable {texts others : List String} {text first second : String}

/-- What follows makes no difference. -/
theorem before (stand : StandInLines texts first) (second : String) : StandInLines texts (first ++ second) := by
  induction stand with
  | none => exact .none _
  | next atLine _ inductionHypothesis =>
    rw [String.append_assoc]
    exact .next atLine inductionHypothesis

/-- What comes before makes no difference where a line starts after it. -/
theorem behind (atLine : AtLineStart first) (stand : StandInLines texts second) :
    StandInLines texts (first ++ second) := by
  cases stand with
  | none => exact .none _
  | @next own others before after atOwn stand =>
    rw [← String.append_assoc, ← String.append_assoc, ← String.append_assoc]
    exact .next (atLine.append atOwn) stand

/-- What stands in two texts stands in both together, where a line starts after the first. -/
theorem append (stand : StandInLines texts first) (atLine : AtLineStart first)
    (behindIt : StandInLines others second) : StandInLines (texts ++ others) (first ++ second) := by
  induction stand with
  | none => exact behindIt.behind atLine
  | next atOwn _ inductionHypothesis =>
    rw [String.append_assoc]
    exact .next atOwn (inductionHypothesis atLine.right)

/-- Nothing that ends in ink stands in a text that shows nothing. -/
theorem eq_nil_of_inkless (stand : StandInLines texts text) (ends : ∀ own ∈ texts, EndsInInk own)
    (inkless : ink text = []) : texts = [] := by
  cases stand with
  | none => rfl
  | next _ _ =>
    have shows := (ends _ List.mem_cons_self).hasInk
    simp only [ink_append, List.append_eq_nil_iff] at inkless
    rw [hasInk_eq_false_iff.mpr inkless.1.1.2] at shows
    cases shows

/-- What ends in ink stands as before in a text whose blanks at the end, or some of them, are replaced by one
line feed. -/
theorem trimmed {drops : Char → Bool} (blank : ∀ character, drops character → isBlank character)
    (newline : drops '\n' = true) (stand : StandInLines texts text) (ends : ∀ own ∈ texts, EndsInInk own) :
    StandInLines texts (.ofList (text.toList.rdropWhile drops) ++ "\n") := by
  induction stand with
  | none => exact .none _
  | @next first others before after atLine stand inductionHypothesis =>
    have othersEnd : ∀ own ∈ others, EndsInInk own :=
      fun own inside => ends own (List.mem_cons_of_mem first inside)
    have whole : (before ++ first ++ "\n" ++ after).toList =
        (before ++ first).toList ++ ['\n'] ++ after.toList := by simp
    by_cases nothing : after.toList.rdropWhile drops = []
    · -- What follows is dropped with the line feed, so nothing stands in it.
      have inkless : ink after = [] := by
        rw [ink, Chars.ink, List.filter_eq_nil_iff]
        intro character inside
        simp [blank character (List.rdropWhile_eq_nil_iff.mp nothing character inside)]
      obtain rfl := stand.eq_nil_of_inkless othersEnd inkless
      obtain ⟨start, last, shape, isInk⟩ := (ends first List.mem_cons_self).append before
      have kept : drops last ≠ true := fun dropped => by simp [blank last dropped] at isInk
      have dropped : (before ++ first ++ "\n" ++ after).toList.rdropWhile drops = (before ++ first).toList := by
        rw [whole, rdropWhile_append, if_pos nothing, List.rdropWhile_concat_pos _ _ _ newline, shape,
          List.rdropWhile_concat_neg _ _ _ kept]
      rw [dropped, String.ofList_toList]
      have alone : StandInLines [first] (before ++ first ++ "\n" ++ "") := .next atLine (.none "")
      rwa [String.append_empty] at alone
    · have dropped : (before ++ first ++ "\n" ++ after).toList.rdropWhile drops =
          (before ++ first).toList ++ ['\n'] ++ after.toList.rdropWhile drops := by
        rw [whole, rdropWhile_append, if_neg nothing]
      rw [dropped, String.ofList_append, String.ofList_append, String.ofList_toList, String.append_assoc]
      exact .next atLine (inductionHypothesis othersEnd)

/-- What ends in ink stands as before in a text with its last line ended when blanks are dropped before that. -/
theorem trimmedLine {drops : Char → Bool} (blank : ∀ character, drops character → isBlank character)
    (newline : drops '\n' = true) (stand : StandInLines texts (text ++ "\n"))
    (ends : ∀ own ∈ texts, EndsInInk own) :
    StandInLines texts (.ofList (text.toList.rdropWhile drops) ++ "\n") := by
  have dropped : (text ++ "\n").toList.rdropWhile drops = text.toList.rdropWhile drops := by
    rw [String.toList_append]
    exact List.rdropWhile_concat_pos drops text.toList '\n' newline
  rw [← dropped]
  exact stand.trimmed blank newline ends

end StandInLines

end Text

/-! ## Code blocks -/

/-- A code block as it stands in a text: an opening with the wiki's name of its language, if it has one, the
code without the line feeds at its end, and a closing line. -/
def fencedText (options : Options) (content language : String) : String :=
  "\x7b\x7b\x7b" ++ (if language = "" then "" else "#!" ++ options.canonicalLanguage language) ++ "\n" ++
    Text.stripNewlinesEnd content ++ "\n" ++ "\x7d\x7d\x7d"

/-- A fenced text ends in a brace. -/
theorem endsInInk_fencedText (options : Options) (content language : String) :
    Text.EndsInInk (fencedText options content language) :=
  Text.EndsInInk.append _ ⟨['\x7d', '\x7d'], '\x7d', rfl, by decide⟩

/-- The code and the language of a code block that holds some code; the language is empty where there is none. -/
def codeOf? : Json → Json → Option (String × String)
  | .string code, .string language => if code = "" then none else some (code, language)
  | .string code, .null => if code = "" then none else some (code, "")
  | _, _ => none

/-- The opening line of a code block, with its language after a mark. -/
theorem fence_string (options : Options) (language : String) :
    fence options (.string language) =
      .ok ("\x7b\x7b\x7b" ++ if language = "" then "" else "#!" ++ options.canonicalLanguage language) := by
  by_cases none : language = ""
  · rw [none]
    rfl
  · have filled : (Json.string language).isTruthy = true := by simpa [Json.isTruthy] using none
    have mark : "\x7b\x7b\x7b#!" = "\x7b\x7b\x7b" ++ "#!" := rfl
    rw [fence, filled, if_neg none, ← String.append_assoc, ← mark]
    rfl

/-- A code block writes its fenced text. -/
theorem codeBlockText_fenced {options : Options} {content language : Json} {code name : String}
    (isCode : codeOf? content language = some (code, name)) :
    codeBlockText options content language = .ok (fencedText options code name) := by
  have closed (opened : fence options language = fence options (.string name)) (some : code ≠ "") :
      codeBlockText options (.string code) language = .ok (fencedText options code name) := by
    have inside : codeLines (.string code) = .ok [Text.stripNewlinesEnd code] := by
      simp [codeLines, Json.isTruthy, some]
    rw [codeBlockText, opened, fence_string, inside]
    simp [fencedText, bind, Except.bind, pure, Except.pure, String.append_assoc]
  unfold codeOf? at isCode
  split at isCode
  · obtain ⟨some, same⟩ := Option.ite_none_left_eq_some.mp isCode
    obtain ⟨rfl, rfl⟩ := Prod.mk.inj (Option.some.inj same)
    exact closed rfl some
  · obtain ⟨some, same⟩ := Option.ite_none_left_eq_some.mp isCode
    obtain ⟨rfl, rfl⟩ := Prod.mk.inj (Option.some.inj same)
    exact closed rfl some
  · cases isCode

namespace Node

mutual

/-- The code blocks that hold some code and have nothing but documents, lists and items around them, in the
order of the text. -/
def openCode : Node → List (String × String)
  | .document _ children | .listItem _ children => openCodeAll children
  | .list _ _ _ items => openCodeAll items
  | .codeBlock _ content language => (codeOf? content language).toList
  | .heading .. | .paragraph .. | .blockQuote .. | .table .. | .tableRow .. | .ruleRow .. | .tableCell ..
  | .thematicBreak .. | .text .. | .styled .. | .code .. | .link .. | .image .. | .lineBreak .. => []

/-- The open code blocks of several trees. -/
def openCodeAll : List Node → List (String × String)
  | [] => []
  | node :: rest => openCode node ++ openCodeAll rest

end

/-- The open code blocks of several trees are those of each. -/
theorem openCodeAll_eq_flatMap (nodes : List Node) : openCodeAll nodes = nodes.flatMap openCode := by
  induction nodes with
  | nil => rfl
  | cons node rest inductionHypothesis => rw [openCodeAll, inductionHypothesis, List.flatMap_cons]

/-- Whether a node, if it is a list, holds nothing but items. -/
def holdsItems : Node → Bool
  | .list _ _ _ items => items.all isItem
  | _ => true

/-- The fenced texts of a tree. -/
def fencedTexts (options : Options) (node : Node) : List String :=
  node.openCode.map fun code => fencedText options code.1 code.2

/-- Every fenced text of a tree ends in ink. -/
theorem endsInInk_fencedTexts {options : Options} {node : Node} :
    ∀ text ∈ node.fencedTexts options, Text.EndsInInk text := by
  intro text inside
  obtain ⟨code, -, rfl⟩ := List.mem_map.mp inside
  exact endsInInk_fencedText options code.1 code.2

end Node

namespace Markup

open Text (StandInLines AtLineStart)

variable {texts : List String} {writer : Writer}

/-! ## Writers in whose text others stand -/

/-- A writer of pieces after which a line starts, and in whose text others stand. -/
def StandsLined (texts : List String) (writer : Writer) : Prop :=
  ∀ around state pieces after, (writer around).run state = .ok pieces after →
    ∃ text, joinPieces pieces = .ok text ∧ AtLineStart text ∧ StandInLines texts text

/-- A writer in whose text, with a line feed after it, others stand. -/
def StandsEnded (texts : List String) (writer : Writer) : Prop :=
  ∀ around state text after, (capture [writer] around).run state = .ok text after →
    StandInLines texts (text ++ "\n")

/-- Nothing always stands in a text. -/
theorem standsEnded_nothing (writer : Writer) : StandsEnded [] writer :=
  fun _ _ _ _ _ => .none _

/-- A settled step gives what it was settled to. -/
theorem run_settle_eq_ok {Value : Type} {outcome : Except Failure Value} {state after : State} {value : Value} :
    (settle outcome).run state = .ok value after ↔ outcome = .ok value ∧ after = state := by
  cases outcome with
  | ok given =>
    constructor
    · intro same
      obtain ⟨rfl, rfl⟩ := EStateM.Result.ok.inj same
      exact ⟨rfl, rfl⟩
    · rintro ⟨same, rfl⟩
      rw [Except.ok.inj same]
      rfl
  | error failure => exact ⟨(nomatch ·), fun same => nomatch same.1⟩

/-- A captured text is that of the pieces. -/
theorem run_capture_eq_ok {writers : List Writer} {around : Option Surroundings} {state after : State}
    {text : String} :
    (capture writers around).run state = .ok text after ↔
      ∃ pieces, (inSequence writers around).run state = .ok pieces after ∧ joinPieces pieces = .ok text := by
  rw [capture, run_bind_eq_ok]
  simp only [run_settle_eq_ok]
  constructor
  · rintro ⟨pieces, between, run, joined, rfl⟩
    exact ⟨pieces, run, joined⟩
  · rintro ⟨pieces, run, joined⟩
    exact ⟨pieces, after, run, joined, rfl⟩

/-- Pieces after which a line starts can have another line feed behind them. -/
theorem StandsLined.ended (stands : StandsLined texts writer) : StandsEnded texts writer := by
  intro around state text after run
  obtain ⟨pieces, written, joined⟩ := run_capture_eq_ok.mp run
  rw [inSequence_single] at written
  obtain ⟨_, same, -, stand⟩ := stands around state pieces after written
  rw [Except.ok.inj (joined.symm.trans same)]
  exact stand.before "\n"

/-- The block of a writer ends its last line. -/
theorem StandsEnded.block (stands : StandsEnded texts writer) (ends : ∀ text ∈ texts, Text.EndsInInk text)
    {around : Option Surroundings} {state after : State} {text : String}
    (run : (block writer around).run state = .ok text after) : StandInLines texts (text ++ "\n") := by
  obtain ⟨whole, _, captured, run⟩ := run_bind_eq_ok.mp run
  obtain ⟨rfl, -⟩ := EStateM.Result.ok.inj run
  have blank (character : Char) (newline : character == '\n') : Text.isBlank character :=
    (eq_of_beq newline).symm ▸ Text.Chars.isBlank_newline
  exact (stands around state whole _ captured).trimmedLine blank rfl ends

variable {Item : Type} {items : List Item} {write : Item → Writer} {holds : Item → List String}

/-- In sequence each writer's text ends its last line before the next begins. -/
theorem standsLined_inSequence (each : ∀ item ∈ items, StandsLined (holds item) (write item)) :
    StandsLined (items.flatMap holds) (inSequence (items.map write)) := by
  induction items with
  | nil =>
    intro around state pieces after run
    obtain ⟨rfl, -⟩ := EStateM.Result.ok.inj run
    exact ⟨"", rfl, rfl, .none _⟩
  | cons item rest inductionHypothesis =>
    intro around state pieces after run
    obtain ⟨first, between, firstRun, run⟩ := run_bind_eq_ok.mp run
    obtain ⟨others, _, restRun, run⟩ := run_bind_eq_ok.mp run
    obtain ⟨rfl, -⟩ := EStateM.Result.ok.inj run
    obtain ⟨text, joined, atLine, stand⟩ := each item List.mem_cons_self around state first between firstRun
    obtain ⟨more, moreJoined, moreAtLine, moreStand⟩ :=
      inductionHypothesis (fun later inside => each later (List.mem_cons_of_mem item inside)) _ _ _ _ restRun
    exact ⟨text ++ more, joinPieces_append joined moreJoined, atLine.append moreAtLine,
      stand.append atLine moreStand⟩

/-- A child of an item that is no list stands on lines of its own. -/
theorem standsLined_lineWriter (stands : StandsEnded texts writer) (ends : ∀ text ∈ texts, Text.EndsInInk text) :
    StandsLined texts (lineWriter writer) := by
  intro around state pieces after run
  obtain ⟨text, _, blockRun, run⟩ := run_bind_eq_ok.mp run
  obtain ⟨rfl, -⟩ := EStateM.Result.ok.inj run
  exact ⟨text ++ "\n", joinPieces_single _, Text.atLineStart_newline text, stands.block ends blockRun⟩

/-- The children of an item after its first line stand behind that line. -/
theorem standsLined_itemWriter {options : Options} {others : List Writer}
    (stands : StandsLined texts (inSequence others)) (leading : List Writer) :
    StandsLined texts (itemWriter options leading others) := by
  intro around state pieces after run
  obtain ⟨text, more, between, rfl, restRun⟩ := pieces_of_itemWriter run
  obtain ⟨rest, joined, atLine, stand⟩ := stands _ _ _ _ restRun
  have line := joinPieces_single (itemLine state.listLevel (state.numbers.headD .null) text)
  have ended := Text.atLineStart_newline
  exact ⟨_, joinPieces_append line joined, (ended _).append atLine, stand.behind (ended _)⟩

/-- A list stands as its items do. -/
theorem standsLined_listWriter {writers : List Writer} (stands : StandsLined texts (inSequence writers))
    (ordered start : Json) : StandsLined texts (listWriter ordered start writers) := by
  intro around state pieces after run
  rw [listWriter_eq_inList] at run
  obtain ⟨_, inside, -⟩ := run_inList_eq_ok.mp run
  exact stands _ _ _ _ inside

/-- What stands in the lines of blocks stands in those of the joined blocks, if it ends in ink. -/
theorem standInLines_joinBlocks {groups : List (List String)} {texts : List String}
    (ends : ∀ group ∈ groups, ∀ own ∈ group, Text.EndsInInk own)
    (each : List.Forall₂ (fun group text => StandInLines group (text ++ "\n")) groups texts) :
    StandInLines groups.flatten (joinBlocks texts ++ "\n") := by
  induction each with
  | nil => exact .none _
  | @cons group text rest others stand _ inductionHypothesis =>
    have later := inductionHypothesis fun own inside => ends own (List.mem_cons_of_mem group inside)
    rw [List.flatten_cons]
    cases shows : Text.hasInk text with
    | false =>
      have inkless : Text.ink (text ++ "\n") = [] := by
        rw [Text.ink_append, Text.hasInk_eq_false_iff.mp shows]
        rfl
      rw [stand.eq_nil_of_inkless (ends group List.mem_cons_self) inkless, joinBlocks,
        List.filter_cons_of_neg (by simp [shows])]
      exact later
    | true =>
      by_cases none : others.filter Text.hasInk = []
      · have nothing : joinBlocks others = "" := by rw [joinBlocks, none]; rfl
        rw [nothing] at later
        have noneLater := later.eq_nil_of_inkless (by
          intro own inside
          obtain ⟨group, isGroup, isOwn⟩ := List.mem_flatten.mp inside
          exact ends group (List.mem_cons_of_mem _ isGroup) own isOwn) rfl
        rw [noneLater, List.append_nil, joinBlocks, List.filter_cons_of_pos shows, none,
          String.intercalate_singleton]
        exact stand
      · have joined : joinBlocks (text :: others) ++ "\n" =
            text ++ "\n" ++ ("\n" ++ (joinBlocks others ++ "\n")) := by
          have twoFeeds : ("\n\n" : String) = "\n" ++ "\n" := rfl
          rw [joinBlocks, List.filter_cons_of_pos shows, String.intercalate_cons_of_ne_nil none, ← joinBlocks,
            twoFeeds]
          simp only [String.append_assoc]
        rw [joined]
        exact stand.append (Text.atLineStart_newline text) (later.behind (Text.atLineStart_newline ""))

/-- The blocks of writers end their last lines. -/
theorem standInLines_blocks (each : ∀ item ∈ items, StandsEnded (holds item) (write item))
    (ends : ∀ item ∈ items, ∀ text ∈ holds item, Text.EndsInInk text) {around : Option Surroundings}
    {state after : State} {texts : List String}
    (run : (blocks (items.map write) around).run state = .ok texts after) :
    List.Forall₂ (fun item text => StandInLines (holds item) (text ++ "\n")) items texts := by
  induction items generalizing state texts with
  | nil =>
    obtain ⟨rfl, -⟩ := EStateM.Result.ok.inj run
    exact .nil
  | cons item rest inductionHypothesis =>
    obtain ⟨text, between, blockRun, run⟩ := run_bind_eq_ok.mp run
    obtain ⟨others, _, restRun, run⟩ := run_bind_eq_ok.mp run
    obtain ⟨rfl, rfl⟩ := EStateM.Result.ok.inj run
    exact .cons ((each item List.mem_cons_self).block (ends item List.mem_cons_self) blockRun)
      (inductionHypothesis (fun later inside => each later (List.mem_cons_of_mem item inside))
        (fun later inside => ends later (List.mem_cons_of_mem item inside)) restRun)

/-- What stands in the blocks of a document stands in its text. -/
theorem standsEnded_documentWriter (each : ∀ item ∈ items, StandsEnded (holds item) (write item))
    (ends : ∀ item ∈ items, ∀ text ∈ holds item, Text.EndsInInk text) :
    StandsEnded (items.flatMap holds) (documentWriter (items.map write)) := by
  intro around state text after run
  rw [capture_documentWriter, map_eq_pure_bind] at run
  obtain ⟨texts, _, blocksRun, run⟩ := run_bind_eq_ok.mp run
  obtain ⟨rfl, -⟩ := EStateM.Result.ok.inj run
  rw [List.flatMap_def]
  refine standInLines_joinBlocks ?_ (List.forall₂_map_left_iff.mpr (standInLines_blocks each ends blocksRun))
  intro group isGroup
  obtain ⟨item, inside, rfl⟩ := List.mem_map.mp isGroup
  exact ends item inside

/-- A code block stands on its own lines. -/
theorem standsEnded_codeBlockWriter (options : Options) (content language : Json) :
    StandsEnded ((codeOf? content language).toList.map fun code => fencedText options code.1 code.2)
      (codeBlockWriter options content language) := by
  cases isCode : codeOf? content language with
  | none => exact standsEnded_nothing _
  | some code =>
    intro around state text after run
    obtain ⟨pieces, written, joined⟩ := run_capture_eq_ok.mp run
    rw [inSequence_single, codeBlockWriter, codeBlockText_fenced isCode] at written
    obtain ⟨rfl, -⟩ := EStateM.Result.ok.inj written
    rw [← Except.ok.inj ((joinPieces_single _).symm.trans joined)]
    have stand : StandInLines [fencedText options code.1 code.2]
        ("" ++ fencedText options code.1 code.2 ++ "\n" ++ "") := .next rfl (.none "")
    rwa [String.empty_append, String.append_empty] at stand

end Markup

open Markup

namespace Node

/-- The fenced texts of nodes with nothing but documents, lists and items around are those of their children. -/
theorem fencedTexts_children (options : Options) {node : Node}
    (children : node.openCode = openCodeAll node.children) :
    node.fencedTexts options = node.children.flatMap (fencedTexts options) := by
  rw [fencedTexts, children, openCodeAll_eq_flatMap, List.map_flatMap]
  rfl

/-- What stands in the first line of an item is no code block. -/
theorem flatMap_fencedTexts_otherChildren (options : Options) (children : List Node) :
    (otherChildren children).flatMap (fencedTexts options) = children.flatMap (fencedTexts options) := by
  cases children with
  | nil => rfl
  | cons first others => cases first <;> rfl

/-- How the fenced texts of a node stand in what it writes with so many lists around it: on lines of their own,
if its last line is ended; as a child of an item; and as an item, if it is one. -/
structure Stands (options : Options) (depth : Nat) (node : Node) : Prop where
  ended : StandsEnded (node.fencedTexts options) (node.listedWriter .plain options depth)
  inItem : StandsLined (node.fencedTexts options) (node.asItemChild .plain options depth)
  item : node.isItem = true → StandsLined (node.fencedTexts options) (node.listedWriter .plain options depth)

/-- A node that is no item and no list is put on lines of its own in an item. -/
theorem Stands.ofEnded {options : Options} {depth : Nat} {node : Node}
    (ended : StandsEnded (node.fencedTexts options) (node.listedWriter .plain options depth))
    (noItem : node.isItem = false)
    (noList : node.asItemChild .plain options depth = lineWriter (node.listedWriter .plain options depth)) :
    node.Stands options depth where
  ended := ended
  inItem := noList ▸ standsLined_lineWriter ended endsInInk_fencedTexts
  item := fun anItem => absurd anItem (by simp [noItem])

/-- The code blocks of a tree whose lists hold nothing but items stand in what it writes. -/
theorem stands_of_items {options : Options} {depth : Nat} {node : Node}
    (proper : node.Everywhere (·.holdsItems = true)) : node.Stands options depth := by
  induction node using inductionChildren generalizing depth with
  | step node inductionHypothesis =>
    obtain ⟨holdsItems, below⟩ := everywhere_iff.mp proper
    have each (child : Node) (inside : child ∈ node.children) (depth : Nat) : child.Stands options depth :=
      inductionHypothesis child inside (below child inside)
    cases node with
    | document attributes children =>
      refine .ofEnded ?_ rfl rfl
      rw [fencedTexts_children options rfl, listedWriter, listedWriters_eq_map]
      exact standsEnded_documentWriter (fun child inside => (each child inside depth).ended)
        fun child _ => endsInInk_fencedTexts
    | list attributes ordered start items =>
      have lined : StandsLined ((Node.list attributes ordered start items).fencedTexts options)
          ((Node.list attributes ordered start items).listedWriter .plain options depth) := by
        rw [fencedTexts_children options rfl, listedWriter, listedWriters_eq_map]
        exact standsLined_listWriter (standsLined_inSequence fun item inside =>
          (each item inside (depth + 1)).item (List.all_eq_true.mp holdsItems item inside)) ordered start
      exact ⟨lined.ended, lined, fun _ => lined⟩
    | listItem attributes children =>
      have lined : StandsLined ((Node.listItem attributes children).fencedTexts options)
          ((Node.listItem attributes children).listedWriter .plain options depth) := by
        rw [fencedTexts_children options rfl, listedWriter_item]
        refine standsLined_itemWriter ?_ _
        rw [Node.children, ← flatMap_fencedTexts_otherChildren]
        exact standsLined_inSequence fun child isOther =>
          (each child (mem_of_mem_otherChildren isOther) depth).inItem
      exact ⟨lined.ended, standsLined_lineWriter lined.ended endsInInk_fencedTexts, fun _ => lined⟩
    | codeBlock attributes content language =>
      refine .ofEnded ?_ rfl rfl
      rw [listedWriter]
      exact standsEnded_codeBlockWriter options content language
    | _ => exact .ofEnded (standsEnded_nothing _) rfl rfl

end Node

/-- Code is kept verbatim. In a tree whose lists hold nothing but items, each code block that holds some code
and has nothing but documents, lists and items around it is found again in the text, whatever the options and
however deep it stands: from the start of a line, as its opening with the wiki's name of its language, a line
feed, the code itself without the line feeds at its end, a line feed and a closing that ends its line. The code
blocks stand in the text in the order of the tree, none inside of another. -/
theorem code_kept_verbatim (options : Options) {tree : Node} {text : String}
    (items : tree.Everywhere (·.holdsItems = true)) (rendered : render options tree = .ok text) :
    Text.StandInLines (tree.openCode.map fun code => fencedText options code.1 code.2) text := by
  rw [← renderedThrough_plain, renderedThrough, map_eq_pure_bind] at rendered
  split at rendered
  next written after run =>
    cases rendered
    obtain ⟨body, _, captured, run⟩ := run_bind_eq_ok.mp run
    obtain ⟨rfl, -⟩ := EStateM.Result.ok.inj run
    have stand := (Node.stands_of_items items).ended none _ body _ captured
    exact stand.trimmedLine (fun _ blank => blank) Text.Chars.isBlank_newline Node.endsInInk_fencedTexts
  next => cases rendered

/-- Code between blank lines, code that is indented and followed by line feeds, and code in a document in an
item of a list in an item. -/
def nestedCode : Node :=
  .document {} [.codeBlock {} (.string "\n a\n\n") .null, .blockQuote {} [.codeBlock {} (.string "quoted") .null],
    .list {} (.bool true) (.int 3) [.listItem {} [.paragraph {} [.text {} (.string "item")],
      .codeBlock {} (.string "  b\n\n\n c \n\n") (.string "f90"), .list {} (.bool false) (.int 1)
        [.listItem {} [.document {} [.paragraph {} [], .codeBlock {} (.string "\n") (.string "")]]]]]]

/-- Code is found again at every depth, with its blanks and its blank lines. -/
theorem nestedCode_verbatim :
    nestedCode.Everywhere (·.holdsItems = true) ∧
      ∃ text, render {} nestedCode = .ok text ∧
        Text.StandInLines ["\x7b\x7b\x7b\n\n a\n\x7d\x7d\x7d",
          "\x7b\x7b\x7b#!fortran\n  b\n\n\n c \n\x7d\x7d\x7d", "\x7b\x7b\x7b\n\n\x7d\x7d\x7d"] text := by
  have items : nestedCode.Everywhere (·.holdsItems = true) := Node.everywhere_iff_nodes.mpr (by decide)
  have rendered : render {} nestedCode =
      .ok ("\x7b\x7b\x7b\n\n a\n\x7d\x7d\x7d\n\n> \x7b\x7b\x7b\n> quoted\n> \x7d\x7d\x7d\n\n 3. item\n" ++
        "\x7b\x7b\x7b#!fortran\n  b\n\n\n c \n\x7d\x7d\x7d\n   *\n\x7b\x7b\x7b\n\n\x7d\x7d\x7d\n") := by
    decide +kernel
  exact ⟨items, _, rendered, code_kept_verbatim {} items rendered⟩

end OutlineWiki
