import OutlineWiki.Document.Source
import OutlineWiki.Proofs.JoinedTexts
import OutlineWiki.Proofs.TablesWithoutColumns

/-!
# Documents inside documents

A document writes its blocks with blank lines between them, and a document inside it is a block like any
other: its text is captured, freed of line feeds at its end and left out where it shows nothing. None of this
shows. The blocks of the inner document were freed of line feeds themselves and the last of them shows
something, so the inner document writes what its blocks write in its place.
-/

namespace OutlineWiki

namespace Text

/-! ## Texts without line feeds at their end -/

/-- Line feeds at the end are no part of what a text shows. -/
theorem hasInk_stripNewlinesEnd (text : String) : hasInk (stripNewlinesEnd text) = hasInk text := by
  rw [Bool.eq_iff_iff, ← not_iff_not, Bool.not_eq_true, Bool.not_eq_true, hasInk_eq_false_iff, hasInk_eq_false_iff,
    ink_stripNewlinesEnd]

/-- A text that shows nothing has nothing left without the blanks at its end. -/
theorem stripEnd_inkless {text : String} (inkless : hasInk text = false) : stripEnd text = "" := by
  have none : Chars.trimEnd text.toList = [] := List.rdropWhile_eq_nil_iff.mpr (by simpa [hasInk] using inkless)
  rw [stripEnd, none, String.ofList_nil]

/-- Line feeds at the end are blanks at the end. -/
theorem stripEnd_stripNewlinesEnd (text : String) : stripEnd (stripNewlinesEnd text) = stripEnd text := by
  have kept (characters : List Char) :
      Chars.trimEnd (Chars.trimNewlinesEnd characters) = Chars.trimEnd characters := by
    induction characters using List.reverseRecOn with
    | nil => rfl
    | append_singleton start last inductionHypothesis =>
      by_cases newline : last = '\n'
      · subst newline
        have dropped : Chars.trimNewlinesEnd (start ++ ['\n']) = Chars.trimNewlinesEnd start :=
          List.rdropWhile_concat_pos _ start '\n' rfl
        have blank : Chars.trimEnd (start ++ ['\n']) = Chars.trimEnd start :=
          List.rdropWhile_concat_pos _ start '\n' Chars.isBlank_newline
        rw [dropped, inductionHypothesis, blank]
      · have untouched : Chars.trimNewlinesEnd (start ++ [last]) = start ++ [last] :=
          List.rdropWhile_concat_neg _ start last (by simpa using newline)
        rw [untouched]
  rw [stripEnd, stripNewlinesEnd, String.toList_ofList, kept, stripEnd]

/-- Line feeds are removed once. -/
theorem stripNewlinesEnd_stripNewlinesEnd (text : String) :
    stripNewlinesEnd (stripNewlinesEnd text) = stripNewlinesEnd text := by
  have once : Chars.trimNewlinesEnd (Chars.trimNewlinesEnd text.toList) = Chars.trimNewlinesEnd text.toList :=
    List.rdropWhile_idempotent _ text.toList
  rw [stripNewlinesEnd, stripNewlinesEnd, String.toList_ofList, once]

/-- Before a text that shows something, line feeds are no line feeds at the end. -/
theorem stripNewlinesEnd_append (first : String) {second : String} (shows : hasInk second = true) :
    stripNewlinesEnd (first ++ second) = first ++ stripNewlinesEnd second := by
  have some : second.toList.rdropWhile (· == '\n') ≠ [] := by
    rw [ne_eq, List.rdropWhile_eq_nil_iff]
    intro newlines
    obtain ⟨character, inside, ink⟩ := List.any_eq_true.mp shows
    rw [eq_of_beq (newlines character inside), Chars.isBlank_newline] at ink
    cases ink
  have dropped : Chars.trimNewlinesEnd (first.toList ++ second.toList) =
      first.toList ++ Chars.trimNewlinesEnd second.toList := by
    rw [Chars.trimNewlinesEnd, ← List.rdropWhile, rdropWhile_append, if_neg some]
    rfl
  rw [stripNewlinesEnd, String.toList_append, dropped, String.ofList_append, String.ofList_toList, stripNewlinesEnd]

/-- A join of texts that show something and have no line feeds at their ends has none at its end. -/
theorem stripNewlinesEnd_intercalate (joiner : String) {texts : List String}
    (shows : ∀ text ∈ texts, hasInk text = true) (stripped : ∀ text ∈ texts, stripNewlinesEnd text = text) :
    stripNewlinesEnd (joiner.intercalate texts) = joiner.intercalate texts := by
  induction texts using List.reverseRecOn with
  | nil => rfl
  | append_singleton start last _ =>
    have isLast : last ∈ start ++ [last] := List.mem_append_right start List.mem_cons_self
    by_cases none : start = []
    · rw [none, List.nil_append, String.intercalate_singleton, stripped last isLast]
    · rw [String.intercalate_append_of_ne_nil none (by simp), String.intercalate_singleton,
        stripNewlinesEnd_append _ (shows last isLast), stripped last isLast]

end Text

namespace Markup

/-! ## Blocks of blocks -/

/-- A block alone makes the text that it makes without a document around it. -/
theorem finishText_joinBlocks_single (text : String) :
    finishText (joinBlocks [Text.stripNewlinesEnd text]) = finishText text := by
  cases shows : Text.hasInk text with
  | true =>
    rw [joinBlocks, List.filter_cons_of_pos (by rw [Text.hasInk_stripNewlinesEnd, shows]), List.filter_nil,
      String.intercalate_singleton, finishText, Text.stripEnd_stripNewlinesEnd, finishText]
  | false =>
    rw [joinBlocks, List.filter_cons_of_neg (by simp [Text.hasInk_stripNewlinesEnd, shows]), List.filter_nil,
      finishText, finishText, Text.stripEnd_inkless shows]
    rfl

/-- Joined blocks show something when one of them does. -/
theorem hasInk_joinBlocks {texts : List String} (some : texts.filter Text.hasInk ≠ []) :
    Text.hasInk (joinBlocks texts) = true := by
  obtain ⟨text, kept⟩ := List.exists_mem_of_ne_nil _ some
  have shows := (List.mem_filter.mp kept).2
  rw [← Bool.not_eq_false, Text.hasInk_eq_false_iff, joinBlocks, Text.ink_intercalate (by decide),
    List.flatMap_eq_nil_iff]
  intro inkless
  rw [Text.hasInk_eq_false_iff.mpr (inkless text kept)] at shows
  cases shows

/-- Blocks that are joined to one block and joined again make the text that they make among the others. -/
theorem joinBlocks_nested (before nested after : List String)
    (stripped : ∀ text ∈ nested, Text.stripNewlinesEnd text = text) :
    joinBlocks (before ++ Text.stripNewlinesEnd (joinBlocks nested) :: after) =
      joinBlocks (before ++ nested ++ after) := by
  have untouched : Text.stripNewlinesEnd (joinBlocks nested) = joinBlocks nested :=
    Text.stripNewlinesEnd_intercalate _ (fun text kept => (List.mem_filter.mp kept).2)
      fun text kept => stripped text (List.mem_filter.mp kept).1
  rw [untouched]
  by_cases none : nested.filter Text.hasInk = []
  · have empty : joinBlocks nested = "" := by rw [joinBlocks, none]; rfl
    rw [empty, joinBlocks_nothing]
    simp only [joinBlocks, List.filter_append, none, List.append_nil]
  · -- The blocks around are joins of one text each.
    let alone (texts : List String) : List (List String) := (texts.filter Text.hasInk).map ([·])
    have some : ∀ group ∈ alone before ++ nested.filter Text.hasInk :: alone after, group ≠ [] := by
      simp only [alone, List.mem_append, List.mem_cons, List.mem_map]
      rintro group (⟨text, -, rfl⟩ | rfl | ⟨text, -, rfl⟩)
      · exact List.cons_ne_nil _ _
      · exact none
      · exact List.cons_ne_nil _ _
    calc
      joinBlocks (before ++ joinBlocks nested :: after)
        = "\n\n".intercalate
            ((alone before ++ nested.filter Text.hasInk :: alone after).map "\n\n".intercalate) := by
          rw [joinBlocks, List.filter_append, List.filter_cons_of_pos (hasInk_joinBlocks none)]
          simp [alone, joinBlocks, Function.comp_def]
      _ = joinBlocks (before ++ nested ++ after) := by
          rw [Text.intercalate_flatten "\n\n" some]
          simp [alone, joinBlocks, ← List.flatMap_def]

/-! ## Documents -/

variable {form : TableForm} {options : Options} {before nested after : List Writer} {around : Option Surroundings}

/-- Blocks have no line feeds at their ends, so removing these again changes nothing that is made of them. -/
theorem blocks_stripped {Made : Type} (writers : List Writer) (around : Option Surroundings)
    (make : List String → Render Made) :
    (blocks writers around >>= fun texts => make (texts.map Text.stripNewlinesEnd)) =
      blocks writers around >>= make := by
  induction writers generalizing make with
  | nil => simp only [blocks, pure_bind, List.map_nil]
  | cons writer rest inductionHypothesis =>
    simp only [blocks, block, bind_assoc, pure_bind, List.map_cons, Text.stripNewlinesEnd_stripNewlinesEnd]
    exact congrArg _ (funext fun text => inductionHypothesis fun texts => make (Text.stripNewlinesEnd text :: texts))

/-- What is made of blocks is settled by what is made of texts without line feeds at their ends. -/
theorem blocks_bind_congr {Made : Type} (writers : List Writer) (around : Option Surroundings)
    {make other : List String → Render Made}
    (same : ∀ texts, (∀ text ∈ texts, Text.stripNewlinesEnd text = text) → make texts = other texts) :
    blocks writers around >>= make = blocks writers around >>= other := by
  rw [← blocks_stripped writers around make, ← blocks_stripped writers around other]
  refine congrArg _ (funext fun texts => same _ ?_)
  intro text stripped
  obtain ⟨whole, -, rfl⟩ := List.mem_map.mp stripped
  exact Text.stripNewlinesEnd_stripNewlinesEnd whole

/-- Capturing a document gives its joined blocks. -/
theorem capture_documentWriter (writers : List Writer) (around : Option Surroundings) :
    capture [documentWriter writers] around = joinBlocks <$> blocks writers around := by
  rw [map_eq_pure_bind, capture, inSequence_single]
  simp only [documentWriter, bind_assoc, pure_bind, joinPieces_single, settle]

/-- A document among the blocks of a document writes what its blocks write in its place, in all surroundings. -/
theorem documentWriter_nested (before nested after : List Writer) :
    documentWriter (before ++ documentWriter nested :: after) = documentWriter (before ++ nested ++ after) := by
  funext around
  simp only [documentWriter, blocks_append, blocks, block, capture_documentWriter, map_eq_pure_bind, bind_assoc,
    pure_bind]
  refine congrArg _ (funext fun texts => blocks_bind_congr nested around fun inner stripped => ?_)
  simp only [joinBlocks_nested texts inner _ stripped]

/-- A document with one block is rendered like the block. -/
theorem renderTree_document_single (attributes : Attributes) (node : Node) :
    renderTree form options (.document attributes [node]) = renderTree form options node := by
  rw [renderTree, Node.writer, Node.writers, Node.writers, capture_documentWriter, renderTree]
  simp only [map_eq_pure_bind, blocks, block, bind_assoc, pure_bind, finishText_joinBlocks_single]

/-- A document with a document among its blocks is rendered like one with the blocks of that document. -/
theorem renderTree_document_nested (attributes inner : Attributes) (before nested after : List Node) :
    renderTree form options (.document attributes (before ++ .document inner nested :: after)) =
      renderTree form options (.document attributes (before ++ nested ++ after)) := by
  simp only [renderTree, Node.writer, writers_eq_map, List.map_append, List.map_cons, documentWriter_nested]

end Markup

open Markup

/-- Nesting documents is transparent. Whatever a renderer did before, and whatever its options, it gives the
same text or the same failure, and is left the same, for a tree and for a document that holds nothing else, so
for the document that a tree stands for; and for a document with a document somewhere among its blocks and for
one with the blocks of that document in its place. -/
theorem nesting_transparent (renderer : Renderer) :
    (∀ attributes node, renderer.renderToString (.document attributes [node]) = renderer.renderToString node) ∧
    (∀ node, renderer.renderToString node.asDocument = renderer.renderToString node) ∧
    ∀ attributes inner before nested after,
      renderer.renderToString (.document attributes (before ++ .document inner nested :: after)) =
        renderer.renderToString (.document attributes (before ++ nested ++ after)) := by
  have single (attributes : Attributes) (node : Node) :
      renderer.renderToString (.document attributes [node]) = renderer.renderToString node := by
    rw [Renderer.renderToString, renderTree_document_single, Renderer.renderToString]
  refine ⟨single, fun node => ?_, fun attributes inner before nested after => ?_⟩
  · cases node with
    | document => rfl
    | _ => exact single {} _
  · rw [Renderer.renderToString, renderTree_document_nested, Renderer.renderToString]

end OutlineWiki
