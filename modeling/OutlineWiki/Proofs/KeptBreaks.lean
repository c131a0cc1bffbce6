import OutlineWiki.Proofs.KeptInk
import OutlineWiki.Proofs.LinkedNodes
import OutlineWiki.Proofs.RowsReadBack

/-!
# Line breaks that are kept

Whether paragraphs keep their line breaks is a matter of blanks, but for one thing: a paragraph is escaped
when its text starts with a hash, and a hash behind blanks comes to the start only where they are removed. In a
tree of documents, headings, paragraphs, code blocks, lists and breaks the two renderings go together step by
step, and these marks are the only ink in which they differ.
-/

namespace OutlineWiki

namespace Text

/-! ## Marks before hidden hashes -/

/-- Two texts are the same but for an exclamation mark that stands in the second before each of some texts, which
are found in this order. -/
inductive Marked : List (List Char) → List Char → List Char → Prop where
  | nil : Marked [] [] []
  | same {texts : List (List Char)} {plain marked : List Char} (character : Char) :
      Marked texts plain marked → Marked texts (character :: plain) (character :: marked)
  | mark {texts : List (List Char)} {plain marked : List Char} (text : List Char) :
      Marked texts plain marked → Marked (text :: texts) (text ++ plain) ('!' :: (text ++ marked))

namespace Marked

variable {texts others : List (List Char)} {plain marked rest markedRest : List Char}

/-- A text is the same as itself, without any marks. -/
theorem refl (text : List Char) : Marked [] text text := by
  induction text with
  | nil => exact .nil
  | cons character _ inductionHypothesis => exact .same character inductionHypothesis

/-- What is marked in two parts is marked in the whole. -/
theorem append (first : Marked texts plain marked) (second : Marked others rest markedRest) :
    Marked (texts ++ others) (plain ++ rest) (marked ++ markedRest) := by
  induction first with
  | nil => exact second
  | same character _ inductionHypothesis => exact .same character inductionHypothesis
  | mark text _ inductionHypothesis =>
    rw [List.cons_append, List.cons_append, List.append_assoc, List.append_assoc]
    exact .mark text inductionHypothesis

/-- Each mark is one more character. -/
theorem length_eq (differ : Marked texts plain marked) : marked.length = plain.length + texts.length := by
  induction differ with
  | nil => rfl
  | same character _ inductionHypothesis =>
    rw [List.length_cons, List.length_cons, inductionHypothesis]
    omega
  | mark text _ inductionHypothesis =>
    rw [List.length_cons, List.length_append, List.length_append, List.length_cons, inductionHypothesis]
    omega

/-- Only where nothing is marked are the texts the same. -/
theorem eq_iff (differ : Marked texts plain marked) : plain = marked ↔ texts = [] := by
  constructor
  · rintro rfl
    have lengths := differ.length_eq
    exact List.eq_nil_of_length_eq_zero (by omega)
  · intro none
    induction differ with
    | nil => rfl
    | same character _ inductionHypothesis => rw [inductionHypothesis none]
    | mark => cases none

end Marked

/-- The ink of a text that starts with a hash behind blanks, or nothing. -/
def hiddenHash (text : String) : List (List Char) :=
  if text.toList.head? ≠ some '#' ∧ (ink text).head? = some '#' then [ink text] else []

/-- A text that does not start with a blank starts as its ink does. -/
theorem head?_ink {characters : List Char} (noBlank : ∀ first ∈ characters.head?, isBlank first = false) :
    (Chars.ink characters).head? = characters.head? := by
  cases characters with
  | nil => rfl
  | cons first rest => rw [Chars.ink, List.filter_cons_of_pos (by simp [noBlank first rfl])]; rfl

/-- On one line a text starts as its ink does. -/
theorem head?_collapse (text : String) : (collapse text).toList.head? = (ink text).head? := by
  rw [← ink_collapse, ink, collapse, String.toList_ofList]
  exact (head?_ink (Chars.inkAtEnds_collapse text.toList).1).symm

end Text

namespace Markup

open Text (Marked)

/-- The ink of a text that is escaped. -/
theorem ink_escapeHash_eq (content : String) :
    Text.ink (escapeHash content) =
      if content.toList.head? = some '#' then '!' :: Text.ink content else Text.ink content := by
  unfold escapeHash
  split
  · rw [Text.ink_append]
    rfl
  · rfl

/-- A paragraph on one line has a mark more than one that keeps its line breaks where a hash was hidden. -/
theorem marked_escapeHash (text : String) :
    Marked (Text.hiddenHash text) (Text.ink (escapeHash text)) (Text.ink (escapeHash (Text.collapse text))) := by
  rw [ink_escapeHash_eq, ink_escapeHash_eq, Text.head?_collapse, Text.ink_collapse, Text.hiddenHash]
  by_cases hash : text.toList.head? = some '#'
  · have inkHash : (Text.ink text).head? = some '#' := by
      rw [Text.ink, Text.head?_ink, hash]
      intro first isFirst
      rw [hash] at isFirst
      cases isFirst
      decide
    rw [if_pos hash, if_pos inkHash, if_neg fun hidden => hidden.1 hash]
    exact .refl _
  · rw [if_neg hash]
    by_cases inkHash : (Text.ink text).head? = some '#'
    · have alone := Marked.mark (Text.ink text) .nil
      rw [List.append_nil] at alone
      rwa [if_pos inkHash, if_pos ⟨hash, inkHash⟩]
    · rw [if_neg inkHash, if_neg fun hidden => inkHash hidden.2]
      exact .refl _

/-! ## Pieces -/

/-- Two outcomes are the same failure, or texts whose inks are the same but for marks. -/
inductive MarkedOutcomes (texts : List (List Char)) : Except Failure String → Except Failure String → Prop where
  | ok {plain marked : String} : Marked texts (Text.ink plain) (Text.ink marked) →
      MarkedOutcomes texts (.ok plain) (.ok marked)
  | error (failure : Failure) : MarkedOutcomes texts (.error failure) (.error failure)

/-- Outcomes that are joined have the marks of both, if there are two texts to join. -/
theorem MarkedOutcomes.append {texts more : List (List Char)}
    {outcome other rest otherRest : Except Failure String}
    (first : MarkedOutcomes texts outcome other) (second : MarkedOutcomes more rest otherRest) :
    MarkedOutcomes (texts ++ more) (do return (← outcome) ++ (← rest)) (do return (← other) ++ (← otherRest)) := by
  cases first with
  | error failure => exact .error failure
  | ok differ =>
    cases second with
    | error failure => exact .error failure
    | ok differRest =>
      refine .ok ?_
      rw [Text.ink_append, Text.ink_append]
      exact differ.append differRest

/-- Steps that are settled by outcomes with marks. -/
theorem MarkedOutcomes.settle {texts : List (List Char)} {outcome other : Except Failure String} {known : Footing}
    (differ : MarkedOutcomes texts outcome other) :
    Linked known (fun plain marked => Marked texts (Text.ink plain) (Text.ink marked)) (Markup.settle outcome)
      (Markup.settle other) := by
  cases differ with
  | ok differ => exact .pure differ
  | error failure => exact .throw failure

/-- Pieces that make the same text but for marks, or none for the same reason. -/
def MarkedPieces (texts : List (List Char)) (pieces others : List Json) : Prop :=
  MarkedOutcomes texts (joinPieces pieces) (joinPieces others)

namespace MarkedPieces

variable {texts more : List (List Char)} {pieces others rest otherRest : List Json}

/-- Pieces make what they make. -/
theorem refl (pieces : List Json) : MarkedPieces [] pieces pieces := by
  rw [MarkedPieces]
  cases joinPieces pieces with
  | ok text => exact .ok (.refl _)
  | error failure => exact .error failure

/-- Strings that are the same but for marks. -/
theorem string {plain marked : String} (differ : Marked texts (Text.ink plain) (Text.ink marked)) :
    MarkedPieces texts [.string plain] [.string marked] := by
  rw [MarkedPieces, joinPieces_single, joinPieces_single]
  exact .ok differ

/-- What is marked in two parts is marked in the pieces of both. -/
theorem append (first : MarkedPieces texts pieces others) (second : MarkedPieces more rest otherRest) :
    MarkedPieces (texts ++ more) (pieces ++ rest) (others ++ otherRest) := by
  rw [MarkedPieces, joinPieces_append_eq, joinPieces_append_eq]
  exact MarkedOutcomes.append first second

end MarkedPieces

/-! ## Writers -/

/-- Two writers write the same but for marks, wherever items may take numbers. -/
def WriteMarked (texts : List (List Char)) (left right : Writer) : Prop :=
  ∀ (known : Footing) (around : Option Surroundings), known.LetsTake →
    Linked known (MarkedPieces texts) (left around) (right around)

variable {known : Footing} {around : Option Surroundings} {texts : List (List Char)} {left right : Writer}
  {Item : Type} {items : List Item} {lefts rights : Item → Writer} {marks : Item → List (List Char)}

/-- Writers in sequence write the same but for the marks of each. -/
theorem writeMarked_inSequence (each : ∀ item ∈ items, WriteMarked (marks item) (lefts item) (rights item)) :
    WriteMarked (items.flatMap marks) (inSequence (items.map lefts)) (inSequence (items.map rights)) := by
  intro known around lets
  induction items with
  | nil => exact .pure (.refl [])
  | cons item rest inductionHypothesis =>
    exact (each item List.mem_cons_self known around lets).bind fun pieces others differ =>
      (inductionHypothesis fun later inside => each later (List.mem_cons_of_mem item inside)).bind
        fun more otherMore moreDiffer => .pure (differ.append moreDiffer)

/-- What is captured of a writer is the same but for the marks. -/
theorem WriteMarked.capture (write : WriteMarked texts left right) (lets : known.LetsTake) :
    Linked known (fun plain marked => Marked texts (Text.ink plain) (Text.ink marked))
      (Markup.capture [left] around) (Markup.capture [right] around) := by
  rw [Markup.capture, Markup.capture, inSequence_single, inSequence_single]
  exact (write known around lets).bind fun pieces others differ => MarkedOutcomes.settle differ

/-- The block of a writer is the same but for the marks. -/
theorem WriteMarked.block (write : WriteMarked texts left right) (lets : known.LetsTake) :
    Linked known (fun plain marked => Marked texts (Text.ink plain) (Text.ink marked))
      (Markup.block left around) (Markup.block right around) := by
  refine (write.capture lets).bind fun plain marked differ => .pure ?_
  rwa [Text.ink_stripNewlinesEnd, Text.ink_stripNewlinesEnd]

/-- The blocks of writers are the same but for the marks of each. -/
theorem linked_markedBlocks (each : ∀ item ∈ items, WriteMarked (marks item) (lefts item) (rights item))
    (lets : known.LetsTake) :
    Linked known
      (fun plain marked => Marked (items.flatMap marks) (plain.flatMap Text.ink) (marked.flatMap Text.ink))
      (blocks (items.map lefts) around) (blocks (items.map rights) around) := by
  induction items with
  | nil => exact .pure .nil
  | cons item rest inductionHypothesis =>
    exact ((each item List.mem_cons_self).block lets).bind fun plain marked differ =>
      (inductionHypothesis fun later inside => each later (List.mem_cons_of_mem item inside)).bind
        fun more otherMore moreDiffer => .pure (differ.append moreDiffer)

/-- Documents are the same but for the marks of their blocks. -/
theorem writeMarked_documentWriter (each : ∀ item ∈ items, WriteMarked (marks item) (lefts item) (rights item)) :
    WriteMarked (items.flatMap marks) (documentWriter (items.map lefts)) (documentWriter (items.map rights)) := by
  intro known around lets
  refine (linked_markedBlocks each lets).bind fun plain marked differ => .pure (.string ?_)
  rwa [ink_joinBlocks, ink_joinBlocks]

/-- A child of an item that is no list is the same but for its marks. -/
theorem WriteMarked.line (write : WriteMarked texts left right) :
    WriteMarked texts (lineWriter left) (lineWriter right) := by
  intro known around lets
  refine (write.block lets).bind fun plain marked differ => .pure (.string ?_)
  rw [Text.ink_append, Text.ink_append, ← List.append_nil texts]
  exact differ.append (.refl _)

/-- Lists are the same but for the marks of their items. -/
theorem writeMarked_listWriter (each : ∀ item ∈ items, WriteMarked (marks item) (lefts item) (rights item))
    (ordered start : Json) :
    WriteMarked (items.flatMap marks) (listWriter ordered start (items.map lefts))
      (listWriter ordered start (items.map rights)) := by
  intro known around _
  rw [listWriter_eq_inList, listWriter_eq_inList]
  exact .inList ordered start fun level number outer =>
    writeMarked_inSequence each _ around (Footing.letsTake_inside level number outer)

/-- The line of an item has the same ink, whether its text keeps its line breaks or not. -/
theorem ink_itemLine_reflow (options other : Options) (level : Nat) (number : Json) (text : String) :
    Text.ink (itemLine level number (reflow options text)) =
      Text.ink (itemLine level number (reflow other text)) := by
  simp only [itemLine, Text.ink_append, Text.ink_stripEnd, ink_reflow]

/-! ## Inline nodes -/

/-- Pieces that make a text, or do not join. -/
def MakesText (text : String) (outcome : Except Failure (List Json)) : Prop :=
  outcome >>= joinPieces = .ok text ∨ outcome >>= joinPieces = .error .wrongType

/-- Where there are no pieces, they did not join. -/
theorem MakesText.wrongType {text : String} {failure : Failure} (makes : MakesText text (.error failure)) :
    failure = .wrongType := by
  rcases makes with joined | failed
  · cases joined
  · cases failed
    rfl

/-- Pieces in sequence make the text of the first and then that of the others, or do not join. -/
theorem MakesText.append {text more : String} {outcome rest : Except Failure (List Json)}
    (first : MakesText text outcome) (second : MakesText more rest) :
    MakesText (text ++ more) do return (← outcome) ++ (← rest) := by
  cases outcome with
  | error failure =>
    obtain rfl := first.wrongType
    exact .inr rfl
  | ok pieces =>
    cases rest with
    | error failure =>
      obtain rfl := second.wrongType
      exact .inr rfl
    | ok others =>
      change joinPieces pieces = _ ∨ joinPieces pieces = _ at first
      change joinPieces others = _ ∨ joinPieces others = _ at second
      show joinPieces (pieces ++ others) = _ ∨ joinPieces (pieces ++ others) = _
      rw [joinPieces_append_eq]
      rcases first with joined | failed
      · rcases second with restJoined | restFailed
        · exact .inl (by rw [joined, restJoined]; rfl)
        · exact .inr (by rw [joined, restFailed]; rfl)
      · exact .inr (by rw [failed]; rfl)

/-- Writers of a text, or of pieces that do not join, that are settled whatever the options. -/
def Fixed (text : String) (write : Options → Writer) : Prop :=
  ∃ outcome, MakesText text outcome ∧ ∀ options around, write options around = settle outcome

namespace Fixed

variable {text more : String} {write : Options → Writer} {content : Options → List Writer}

/-- A writer of one piece that joins. -/
theorem string (text : String) (isWrite : ∀ options around, write options around = pure [.string text]) :
    Fixed text write :=
  ⟨.ok [.string text], .inl (joinPieces_single text), isWrite⟩

/-- What is captured is the text, or nothing is. -/
theorem captured (fixed : Fixed text fun options => inSequence (content options)) :
    (∀ options around, capture (content options) around = pure text) ∨
      ∀ options around, capture (content options) around = throw .wrongType := by
  obtain ⟨outcome, makes, settled⟩ := fixed
  have whole (options : Options) (around : Option Surroundings) :
      capture (content options) around = settle (outcome >>= joinPieces) := by
    have sequence : inSequence (content options) around = settle outcome := settled options around
    rw [capture, sequence]
    cases outcome <;> rfl
  rcases makes with joined | failed
  · exact .inl fun options around => by rw [whole, joined]; rfl
  · exact .inr fun options around => by rw [whole, failed]; rfl

/-- A text that is made of captured content. -/
theorem map (fixed : Fixed text fun options => inSequence (content options)) (shape : String → String) :
    Fixed (shape text) fun options around => do
      return [.string (shape (← capture (content options) around))] := by
  rcases fixed.captured with captured | failed
  · exact .string _ fun options around => by simp only [captured, pure_bind]
  · exact ⟨.error .wrongType, .inr rfl, fun options around => by simp only [failed]; rfl⟩

/-- Fixed writers are the same for all options. -/
theorem writeMarked (fixed : Fixed text write) (options other : Options) :
    WriteMarked [] (write options) (write other) := by
  intro known around _
  obtain ⟨outcome, -, settled⟩ := fixed
  rw [settled, settled]
  cases outcome with
  | ok pieces => exact .pure (.refl pieces)
  | error failure => exact .throw failure

/-- Fixed writers, one after the other. -/
theorem cons {first : Options → Writer} (fixed : Fixed text first)
    (later : Fixed more fun options => inSequence (content options)) :
    Fixed (text ++ more) fun options => inSequence (first options :: content options) := by
  obtain ⟨outcome, makes, settled⟩ := fixed
  obtain ⟨rest, restMakes, restSettled⟩ := later
  refine ⟨do return (← outcome) ++ (← rest), makes.append restMakes, fun options around => ?_⟩
  have sequence : inSequence (content options) around = settle rest := restSettled options around
  simp only [inSequence, settled, sequence]
  cases outcome <;> cases rest <;> rfl

/-- No writers at all. -/
theorem nil : Fixed "" fun _ => inSequence [] :=
  ⟨.ok [], .inl rfl, fun _ _ => rfl⟩

end Fixed

end Markup

open Markup

/-- The kinds of inline nodes. -/
def Kind.isInline : Kind → Bool
  | .text | .emphasis | .strong | .code | .link | .image | .lineBreak | .strikethrough | .superscript
  | .subscript => true
  | .document | .heading | .paragraph | .codeBlock | .blockQuote | .list | .listItem | .table | .tableRow
  | .tableCell | .thematicBreak => false

namespace Node

/-- Whether a node is no quote and no part of a table, and holds nothing but inline nodes if it is a heading, a
paragraph or an inline node itself. -/
def isFlowing : Node → Bool
  | .blockQuote .. | .table .. | .tableRow .. | .ruleRow .. | .tableCell .. => false
  | .heading _ _ content | .paragraph _ content | .styled _ _ content | .link _ _ content =>
    content.all (·.kind.isInline)
  | .document .. | .codeBlock .. | .list .. | .listItem .. | .thematicBreak .. | .text .. | .code .. | .image ..
  | .lineBreak .. => true

mutual

/-- The ink of each paragraph that starts with a hash behind blanks, in the order of the text. A paragraph at the
start of an item stands in the line of the item and is never escaped. -/
def hiddenHashes : Node → List (List Char)
  | .document _ children => hiddenHashesAll children
  | .paragraph _ content => Text.hiddenHash (inlineTexts content)
  | .list _ _ _ items => hiddenHashesAll items
  | .listItem _ (.paragraph _ _ :: others) => hiddenHashesAll others
  | .listItem _ children => hiddenHashesAll children
  | .heading .. | .codeBlock .. | .blockQuote .. | .table .. | .tableRow .. | .ruleRow .. | .tableCell ..
  | .thematicBreak .. | .text .. | .styled .. | .code .. | .link .. | .image .. | .lineBreak .. => []

/-- The hidden hashes of several trees. -/
def hiddenHashesAll : List Node → List (List Char)
  | [] => []
  | node :: rest => hiddenHashes node ++ hiddenHashesAll rest

end

/-- The hidden hashes of several trees are those of each. -/
theorem hiddenHashesAll_eq_flatMap (nodes : List Node) : hiddenHashesAll nodes = nodes.flatMap hiddenHashes := by
  induction nodes with
  | nil => rfl
  | cons node rest inductionHypothesis => rw [hiddenHashesAll, inductionHypothesis, List.flatMap_cons]

/-- An item hides what its children after the first line hide. -/
theorem hiddenHashes_item (attributes : Attributes) (children : List Node) :
    (Node.listItem attributes children).hiddenHashes = (otherChildren children).flatMap hiddenHashes := by
  rw [← hiddenHashesAll_eq_flatMap]
  cases children with
  | nil => rfl
  | cons first others => cases first <;> rfl

/-- An inline node hides nothing. -/
theorem hiddenHashes_inline {node : Node} (inline : node.kind.isInline = true) : node.hiddenHashes = [] := by
  cases node with
  | document | paragraph | list | listItem => cases inline
  | _ => rfl

end Node

namespace Markup

open Node
open Text (Marked)

/-- Nodes that are fixed are so one after the other. -/
theorem fixed_content {nodes : List Node}
    (each : ∀ node ∈ nodes, Fixed node.inlineText (node.writer (tableWriter .remembering))) :
    Fixed (inlineTexts nodes) fun options => inSequence (writers (tableWriter .remembering) options nodes) := by
  induction nodes with
  | nil =>
    simp only [writers, inlineTexts]
    exact .nil
  | cons node rest inductionHypothesis =>
    simp only [writers, inlineTexts]
    exact (each node List.mem_cons_self).cons
      (inductionHypothesis fun later inside => each later (List.mem_cons_of_mem node inside))

/-- Inline nodes are fixed. -/
theorem fixed_inline {node : Node} (flowing : node.Everywhere (·.isFlowing = true))
    (inline : node.kind.isInline = true) : Fixed node.inlineText (node.writer (tableWriter .remembering)) := by
  induction node using inductionChildren with
  | step node inductionHypothesis =>
    obtain ⟨isFlowing, below⟩ := everywhere_iff.mp flowing
    have content (holds : node.children.all (·.kind.isInline) = true) : Fixed (inlineTexts node.children)
        fun options => inSequence (writers (tableWriter .remembering) options node.children) :=
      fixed_content fun child inside =>
        inductionHypothesis child inside (below child inside) (List.all_eq_true.mp holds child inside)
    cases node with
    | text attributes value =>
      refine ⟨.ok [value], ?_, fun options around => by simp only [writer]; rfl⟩
      cases value with
      | string text => exact .inl (joinPieces_single text)
      | _ => exact .inr rfl
    | styled attributes style =>
      unfold writer
      exact (content isFlowing).map (styledText style)
    | link attributes url =>
      unfold writer
      exact (content isFlowing).map (linkText url)
    | code | image | lineBreak => exact .string _ fun options around => by rw [writer]; rfl
    | _ => cases inline

/-- The content of a heading or a paragraph is fixed. -/
theorem fixed_children {node : Node} (flowing : node.Everywhere (·.isFlowing = true))
    (holds : node.children.all (·.kind.isInline) = true) :
    Fixed (inlineTexts node.children)
      fun options => inSequence (writers (tableWriter .remembering) options node.children) :=
  fixed_content fun child inside =>
    fixed_inline ((everywhere_iff.mp flowing).2 child inside) (List.all_eq_true.mp holds child inside)

/-- The content of an item's first line is fixed. -/
theorem fixed_leadingContent {children : List Node}
    (flowing : ∀ child ∈ children, child.Everywhere (·.isFlowing = true)) :
    Fixed (inlineTexts (leadingContent children))
      fun options => inSequence (writers (tableWriter .remembering) options (leadingContent children)) := by
  have nothing : Fixed (inlineTexts [])
      fun options => inSequence (writers (tableWriter .remembering) options []) := fixed_content (by simp)
  cases children with
  | nil => exact nothing
  | cons first others =>
    have firstFlowing := flowing first List.mem_cons_self
    cases first with
    | paragraph attributes content => exact fixed_children firstFlowing (everywhere_iff.mp firstFlowing).1
    | _ => exact nothing

/-- Headings are the same, whatever the options. -/
theorem writeMarked_heading {text : String} {content : Options → List Writer} (level : Json)
    (fixed : Fixed text fun options => inSequence (content options)) (options other : Options) :
    WriteMarked [] (headingWriter level (content options)) (headingWriter level (content other)) := by
  intro known around _
  unfold headingWriter
  rcases fixed.captured with captured | failed
  · simp only [captured, pure_bind]
    exact (Linked.settle _).bind_eq fun mark => .pure (.refl _)
  · simp only [failed]
    exact .throw _

/-- Paragraphs that keep their line breaks are the same but for the mark before a hidden hash. -/
theorem writeMarked_paragraph {text : String} {content : Options → List Writer}
    (fixed : Fixed text fun options => inSequence (content options)) (options : Options) :
    WriteMarked (Text.hiddenHash text)
      (paragraphWriter { options with preserveBreaks := true } (content { options with preserveBreaks := true }))
      (paragraphWriter { options with preserveBreaks := false }
        (content { options with preserveBreaks := false })) := by
  intro known around _
  unfold paragraphWriter
  rcases fixed.captured with captured | failed
  · simp only [captured, pure_bind]
    exact .pure (.string (marked_escapeHash text))
  · simp only [failed]
    exact .throw _

/-- Code blocks are the same, whether paragraphs keep their line breaks or not. -/
theorem writeMarked_codeBlock {options : Options} {preserves : Bool} (content language : Json) :
    WriteMarked [] (codeBlockWriter options content language)
      (codeBlockWriter { options with preserveBreaks := preserves } content language) :=
  fun _ _ _ => (Linked.settle _).bind_eq fun _ => .pure (.refl _)

/-- Items are the same but for the marks of their children after the first line. -/
theorem writeMarked_item {text : String} {content : Options → List Writer} {texts : List (List Char)}
    {lefts rights : List Writer} (options other : Options)
    (fixed : Fixed text fun options => inSequence (content options))
    (others : WriteMarked texts (inSequence lefts) (inSequence rights)) :
    WriteMarked texts (itemWriter options (content options) lefts) (itemWriter other (content other) rights) := by
  intro known around lets
  have leading : Linked known Eq (capture (content options) around) (capture (content other) around) := by
    rcases fixed.captured with captured | failed
    · rw [captured, captured]
      exact .pure rfl
    · rw [failed, failed]
      exact .throw _
  rw [itemWriter_eq, itemWriter_eq]
  refine Linked.listLevel.bind_eq fun level => (Linked.takeNumber lets).bind_eq fun number =>
    leading.bind_eq fun text => (others known around lets).bind fun pieces otherPieces differ => .pure ?_
  have line : Marked [] (Text.ink (itemLine level number (reflow options text)))
      (Text.ink (itemLine level number (reflow other text))) := by
    rw [ink_itemLine_reflow options other]
    exact .refl _
  exact (MarkedPieces.string line).append differ

end Markup

namespace Node

/-- A tree whose paragraphs keep their line breaks is written like one whose paragraphs do not, but for the marks
before the hidden hashes. -/
theorem writeMarked {options : Options} {node : Node} (flowing : node.Everywhere (·.isFlowing = true)) :
    WriteMarked node.hiddenHashes
      (node.writer (tableWriter .remembering) { options with preserveBreaks := true })
      (node.writer (tableWriter .remembering) { options with preserveBreaks := false }) := by
  induction node using inductionChildren with
  | step node inductionHypothesis =>
    obtain ⟨isFlowing, below⟩ := everywhere_iff.mp flowing
    have each := fun child inside => inductionHypothesis child inside (below child inside)
    by_cases inline : node.kind.isInline = true
    · rw [hiddenHashes_inline inline]
      exact (fixed_inline flowing inline).writeMarked _ _
    · cases node with
      | document attributes children =>
        rw [hiddenHashes, hiddenHashesAll_eq_flatMap, writer, writer, writers_eq_map, writers_eq_map]
        exact writeMarked_documentWriter each
      | heading attributes level content =>
        rw [hiddenHashes, writer, writer]
        exact writeMarked_heading level (fixed_children flowing isFlowing) _ _
      | paragraph attributes content =>
        rw [hiddenHashes, writer, writer]
        exact writeMarked_paragraph (fixed_children flowing isFlowing) options
      | codeBlock attributes content language =>
        rw [hiddenHashes, writer, writer]
        exact writeMarked_codeBlock content language
      | list attributes ordered start items =>
        rw [hiddenHashes, hiddenHashesAll_eq_flatMap, writer, writer, writers_eq_map, writers_eq_map]
        exact writeMarked_listWriter each ordered start
      | listItem attributes children =>
        rw [hiddenHashes_item, writer_listItem, writer_listItem]
        refine writeMarked_item _ _ (fixed_leadingContent below) (writeMarked_inSequence fun child isOther => ?_)
        have write := each child (mem_of_mem_otherChildren isOther)
        rw [asItemChild_eq, asItemChild_eq]
        split
        · exact write
        · exact write.line
      | thematicBreak attributes =>
        rw [hiddenHashes, writer, writer]
        exact fun known around _ => .pure (.refl _)
      | blockQuote | table | tableRow | ruleRow | tableCell => cases isFlowing
      | styled attributes style => cases style <;> exact absurd rfl inline
      | text | code | link | image | lineBreak => exact absurd rfl inline

end Node

/-- A rendered tree is the same but for the marks before the hidden hashes. -/
theorem render_marked (options : Options) {tree : Node} (flowing : tree.Everywhere (·.isFlowing = true)) :
    MarkedOutcomes tree.hiddenHashes (render { options with preserveBreaks := true } tree)
      (render { options with preserveBreaks := false } tree) := by
  have write : WriteMarked tree.hiddenHashes
      (tree.writer (tableWriter .remembering) { options with preserveBreaks := true })
      (tree.writer (tableWriter .remembering) { options with preserveBreaks := false }) := Node.writeMarked flowing
  have finished : Linked (fun _ _ => True)
      (fun plain marked => Text.Marked tree.hiddenHashes (Text.ink plain) (Text.ink marked))
      (renderTree (tableWriter .remembering) { options with preserveBreaks := true } tree)
      (renderTree (tableWriter .remembering) { options with preserveBreaks := false } tree) :=
    (write.capture fun _ _ _ => trivial).map fun plain marked differ => by rwa [ink_finishText, ink_finishText]
  rw [render_eq_renderedBy, render_eq_renderedBy, renderedBy, renderedBy]
  rcases finished.comes_to (.refl {}) trivial with
    ⟨_, _, _, _, run, otherRun, differ, -⟩ | ⟨failure, _, _, run, otherRun⟩
  · rw [run, otherRun]
    exact .ok differ
  · rw [run, otherRun]
    exact .error failure

/-- Keeping line breaks changes nothing but blanks and hidden hashes. A tree without quotes and tables, in which
headings, paragraphs and inline nodes hold nothing but inline nodes, fails to be rendered for the same reason
whether its paragraphs keep their line breaks or not, or gives two texts whose characters that are not blank are
the same but for some exclamation marks: where line breaks are not kept one stands before each paragraph, other
than at the start of an item, whose text starts with a hash behind blanks. If there is no such paragraph, and
only then, the texts are the same without their blanks. -/
theorem breaks_kept (options : Options) {tree : Node} (flowing : tree.Everywhere (·.isFlowing = true)) :
    MarkedOutcomes tree.hiddenHashes (render { options with preserveBreaks := true } tree)
        (render { options with preserveBreaks := false } tree) ∧
      ∀ {kept reflowed}, render { options with preserveBreaks := true } tree = .ok kept →
        render { options with preserveBreaks := false } tree = .ok reflowed →
          (Text.ink kept = Text.ink reflowed ↔ tree.hiddenHashes = []) := by
  have outcomes := render_marked options flowing
  refine ⟨outcomes, fun {kept reflowed} keptRun reflowedRun => ?_⟩
  rw [keptRun, reflowedRun] at outcomes
  cases outcomes with
  | ok differ => exact differ.eq_iff

/-- Paragraphs with a hash behind blanks: on its own, at the start of an item and after other children of the
item. -/
def hashesBehindBlanks : Node :=
  .document {} [.paragraph {} [.text {} (.string " #a\nb")], .list {} (.bool true) (.int 2) [.listItem {}
    [.paragraph {} [.text {} (.string " #c")], .codeBlock {} (.string " #d") .null,
      .paragraph {} [.lineBreak {} (.bool true), .text {} (.string "#e")]]],
    .heading {} (.int 1) [.link {} (.string "f") [.text {} (.string " f\n")]]]

/-- The hash at the start of the item is not escaped, the others are where line breaks are not kept. -/
theorem hashesBehindBlanks_kept :
    hashesBehindBlanks.Everywhere (·.isFlowing = true) ∧
      ∃ kept reflowed, render { preserveBreaks := true } hashesBehindBlanks = .ok kept ∧
        render { preserveBreaks := false } hashesBehindBlanks = .ok reflowed ∧
        Text.Marked ["#ab".toList, "#e".toList] (Text.ink kept) (Text.ink reflowed) ∧
        Text.ink kept ≠ Text.ink reflowed := by
  have flowing : hashesBehindBlanks.Everywhere (·.isFlowing = true) := Node.everywhere_iff_nodes.mpr (by decide)
  have hidden : hashesBehindBlanks.hiddenHashes = ["#ab".toList, "#e".toList] := by decide
  obtain ⟨outcomes, same⟩ := breaks_kept {} flowing
  have kept : render { preserveBreaks := true } hashesBehindBlanks =
      .ok " #a\nb\n\n 2.  #c\n\x7b\x7b\x7b\n #d\n\x7d\x7d\x7d\n\n#e\n\n== [f]\n" := by
    decide +kernel
  have reflowed : render { preserveBreaks := false } hashesBehindBlanks =
      .ok "!#a b\n\n 2. #c\n\x7b\x7b\x7b\n #d\n\x7d\x7d\x7d\n!#e\n\n== [f]\n" := by
    decide +kernel
  rw [hidden] at outcomes
  rw [kept, reflowed] at outcomes
  cases outcomes with
  | ok differ =>
    refine ⟨flowing, _, _, kept, reflowed, differ, fun equal => ?_⟩
    have none := hidden.symm.trans ((same kept reflowed).mp equal)
    cases none

/-- A paragraph that starts with a hash behind a blank. -/
def indentedHash : Node :=
  .document {} [.paragraph {} [.text {} (.string " #x")]]

/-- The hash is escaped only where line breaks are not kept, and then it comes to the start of the line. -/
theorem indentedHash_escaped :
    indentedHash.Everywhere (·.isFlowing = true) ∧
      render { preserveBreaks := true } indentedHash = .ok " #x\n" ∧
      render { preserveBreaks := false } indentedHash = .ok "!#x\n" ∧ Text.ink " #x\n" ≠ Text.ink "!#x\n" :=
  ⟨Node.everywhere_iff_nodes.mpr (by decide), by decide +kernel, by decide +kernel, by decide⟩

end OutlineWiki
