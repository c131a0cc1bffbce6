import Mathlib.Data.List.DropRight
import OutlineWiki.Proofs.OneLine
import OutlineWiki.Renderer

/-!
# Blocks of lines

A text of blocks tells its blocks and their lines: the blocks stand between blank lines, and no line of a
block is blank.
-/

namespace OutlineWiki

open Markup

namespace Text

/-- A text whose last character is not blank. -/
def EndsInInk (text : String) : Prop :=
  ∃ start last, text.toList = start ++ [last] ∧ isBlank last = false

namespace EndsInInk

/-- What comes before does not matter. -/
theorem append (first : String) {second : String} (ends : EndsInInk second) :
    EndsInInk (first ++ second) := by
  obtain ⟨start, last, shape, ink⟩ := ends
  exact ⟨first.toList ++ start, last, by rw [String.toList_append, shape, List.append_assoc], ink⟩

/-- A text that ends in ink is not empty. -/
theorem ne_empty {text : String} (ends : EndsInInk text) : text ≠ "" := by
  rintro rfl
  obtain ⟨start, last, shape, -⟩ := ends
  simp at shape

/-- A text that ends in ink shows something. -/
theorem hasInk {text : String} (ends : EndsInInk text) : Text.hasInk text = true := by
  obtain ⟨start, last, shape, ink⟩ := ends
  rw [Text.hasInk, shape, List.any_append]
  simp [ink]

/-- A text that ends in ink has no blanks at its end to remove. -/
theorem stripEnd {text : String} (ends : EndsInInk text) : Text.stripEnd text = text := by
  obtain ⟨start, last, shape, ink⟩ := ends
  have kept : Chars.trimEnd (start ++ [last]) = start ++ [last] :=
    List.rdropWhile_concat_neg isBlank start last (by simp [ink])
  rw [Text.stripEnd, shape, kept, ← shape, String.ofList_toList]

/-- A line feed after a text that ends in ink is all there is to remove. -/
theorem stripNewlinesEnd {text : String} (ends : EndsInInk text) :
    Text.stripNewlinesEnd (text ++ "\n") = text := by
  obtain ⟨start, last, shape, ink⟩ := ends
  have notNewline : last ≠ '\n' := by
    rintro rfl
    exact absurd ink (by decide)
  have removed : Chars.trimNewlinesEnd (start ++ [last] ++ ['\n']) =
      Chars.trimNewlinesEnd (start ++ [last]) :=
    List.rdropWhile_concat_pos (· == '\n') (start ++ [last]) '\n' (by simp)
  have kept : Chars.trimNewlinesEnd (start ++ [last]) = start ++ [last] :=
    List.rdropWhile_concat_neg (· == '\n') start last (by simpa using notNewline)
  have newline : ("\n" : String).toList = ['\n'] := rfl
  rw [Text.stripNewlinesEnd, String.toList_append, shape, newline, removed, kept, ← shape,
    String.ofList_toList]

end EndsInInk

/-- Texts that end in ink do so together. -/
theorem endsInInk_intercalate (joiner : String) {texts : List String} (some : texts ≠ [])
    (each : ∀ text ∈ texts, EndsInInk text) : EndsInInk (joiner.intercalate texts) := by
  induction texts with
  | nil => exact absurd rfl some
  | cons text rest inductionHypothesis =>
    cases rest with
    | nil =>
      rw [String.intercalate_singleton]
      exact each text List.mem_cons_self
    | cons next rest =>
      rw [String.intercalate_cons_cons]
      exact (inductionHypothesis (by simp) fun later inside =>
        each later (List.mem_cons_of_mem text inside)).append _

/-- Lines with a line feed after each are lines with line feeds between them and one more at the end. -/
theorem join_lines {lines : List String} (some : lines ≠ []) :
    String.join (lines.map (· ++ "\n")) = "\n".intercalate lines ++ "\n" := by
  induction lines with
  | nil => exact absurd rfl some
  | cons line rest inductionHypothesis =>
    rw [List.map_cons, String.join_cons]
    cases rest with
    | nil => simp
    | cons next rest =>
      rw [inductionHypothesis (by simp), String.intercalate_cons_cons]
      exact String.append_assoc.symm

/-- Lines without line feeds are told by a text that has line feeds between them. -/
theorem intercalate_lines_inj {lines others : List String} (some : lines ≠ []) (someOther : others ≠ [])
    (each : ∀ line ∈ lines, OneLine line) (eachOther : ∀ line ∈ others, OneLine line)
    (same : "\n".intercalate lines = "\n".intercalate others) : lines = others := by
  have parts : ∀ {texts : List String}, texts ≠ [] → (∀ text ∈ texts, OneLine text) →
      ("\n".intercalate texts).toList.splitOn '\n' = texts.map String.toList := by
    intro texts some each
    have newline : ("\n" : String).toList = ['\n'] := rfl
    rw [String.toList_intercalate, newline]
    refine List.splitOn_intercalate '\n' ?_ (by simpa using some)
    intro part inside
    obtain ⟨text, isText, rfl⟩ := List.mem_map.mp inside
    exact each text isText
  refine List.map_injective_iff.mpr (fun _ _ => String.toList_injective) ?_
  rw [← parts some each, same, parts someOther eachOther]

/-! ## Blocks -/

/-- A block of lines: there are lines, each on one line, none blank at its end. -/
structure IsBlock (lines : List String) : Prop where
  some : lines ≠ []
  oneLine : ∀ line ∈ lines, OneLine line
  ends : ∀ line ∈ lines, EndsInInk line

/-- Blocks between blank lines are lines, of which the empty ones stand between the blocks. -/
theorem intercalate_blocks {blocks : List (List String)} (some : blocks ≠ [])
    (each : ∀ block ∈ blocks, IsBlock block) :
    [""].intercalate blocks ≠ [] ∧
      "\n\n".intercalate (blocks.map fun lines => "\n".intercalate lines) =
        "\n".intercalate ([""].intercalate blocks) := by
  induction blocks with
  | nil => exact absurd rfl some
  | cons lines rest inductionHypothesis =>
    have isBlock := each lines List.mem_cons_self
    cases rest with
    | nil => exact ⟨by simpa using isBlock.some, by simp⟩
    | cons next rest =>
      obtain ⟨someLater, later⟩ := inductionHypothesis (by simp) fun block inside =>
        each block (List.mem_cons_of_mem lines inside)
      rw [List.map_cons, String.intercalate_cons_of_ne_nil (by simp), later,
        List.intercalate_cons_of_ne_nil (by simp)]
      have twoFeeds : ("\n\n" : String) = "\n" ++ "\n" := rfl
      refine ⟨by simp, ?_⟩
      rw [twoFeeds, String.intercalate_append_of_ne_nil (by simp) someLater,
        String.intercalate_append_of_ne_nil isBlock.some (by simp), String.intercalate_singleton,
        String.append_empty, ← String.append_assoc]

/-- Blocks with blank lines between them end in ink. -/
theorem endsInInk_blocks {blocks : List (List String)} (some : blocks ≠ [])
    (each : ∀ block ∈ blocks, IsBlock block) :
    EndsInInk ("\n\n".intercalate (blocks.map fun lines => "\n".intercalate lines)) := by
  refine endsInInk_intercalate "\n\n" (by simpa using some) fun text inside => ?_
  obtain ⟨block, isBlock, rfl⟩ := List.mem_map.mp inside
  exact endsInInk_intercalate "\n" (each block isBlock).some (each block isBlock).ends

/-- The lines of blocks and the empty lines between them have no line feeds. -/
theorem oneLine_of_mem_blocks {blocks : List (List String)} (each : ∀ block ∈ blocks, IsBlock block) :
    ∀ line ∈ [""].intercalate blocks, OneLine line := by
  induction blocks with
  | nil => simp [List.intercalate]
  | cons block rest inductionHypothesis =>
    have own := (each block List.mem_cons_self).oneLine
    have later := inductionHypothesis fun part inside => each part (List.mem_cons_of_mem block inside)
    cases rest with
    | nil => simpa using own
    | cons next rest =>
      rw [List.intercalate_cons_of_ne_nil (by simp)]
      simp only [List.mem_append, List.mem_singleton]
      rintro line ((inBlock | rfl) | inRest)
      · exact own line inBlock
      · simp [OneLine]
      · exact later line inRest

/-- Blocks are told by a text that has blank lines between them. -/
theorem intercalate_blocks_inj {blocks others : List (List String)}
    (each : ∀ block ∈ blocks, IsBlock block) (eachOther : ∀ block ∈ others, IsBlock block)
    (same : "\n\n".intercalate (blocks.map fun lines => "\n".intercalate lines) =
      "\n\n".intercalate (others.map fun lines => "\n".intercalate lines)) : blocks = others := by
  have noEmpty : ∀ {parts : List (List String)}, (∀ block ∈ parts, IsBlock block) →
      ∀ block ∈ parts, "" ∉ block :=
    fun each block inside isLine => ((each block inside).ends "" isLine).ne_empty rfl
  by_cases none : blocks = []
  · subst none
    by_contra someOther
    exact (endsInInk_blocks (Ne.symm someOther) eachOther).ne_empty (same.symm.trans rfl)
  by_cases noneOther : others = []
  · subst noneOther
    exact absurd (same.trans rfl) (endsInInk_blocks none each).ne_empty
  obtain ⟨someLines, asLines⟩ := intercalate_blocks none each
  obtain ⟨someOtherLines, asOtherLines⟩ := intercalate_blocks noneOther eachOther
  rw [asLines, asOtherLines] at same
  have sameLines := intercalate_lines_inj someLines someOtherLines (oneLine_of_mem_blocks each)
    (oneLine_of_mem_blocks eachOther) same
  rw [← List.splitOn_intercalate "" (noEmpty each) none, sameLines,
    List.splitOn_intercalate "" (noEmpty eachOther) noneOther]

/-- What shows something of several texts, each of which is a block of lines or empty. -/
theorem filter_hasInk_blocks {blocks : List (List String)}
    (each : ∀ block ∈ blocks, block ≠ [] → IsBlock block) :
    (blocks.map fun lines => "\n".intercalate lines).filter Text.hasInk =
      (blocks.filter (· ≠ [])).map fun lines => "\n".intercalate lines := by
  rw [List.filter_map]
  congr 1
  refine List.filter_congr fun block inside => ?_
  by_cases none : block = []
  · subst none
    rfl
  · have isBlock := each block inside none
    have shows := (endsInInk_intercalate "\n" none isBlock.ends).hasInk
    simpa [none] using shows

end Text

/-- A finished text of blocks, some of which may be empty, tells the blocks that are not. -/
theorem finishText_joinBlocks_inj {blocks others : List (List String)}
    (each : ∀ block ∈ blocks, block ≠ [] → Text.IsBlock block)
    (eachOther : ∀ block ∈ others, block ≠ [] → Text.IsBlock block)
    (same : finishText (joinBlocks (blocks.map fun lines => "\n".intercalate lines)) =
      finishText (joinBlocks (others.map fun lines => "\n".intercalate lines))) :
    blocks.filter (· ≠ []) = others.filter (· ≠ []) := by
  have shown : ∀ {parts : List (List String)}, (∀ block ∈ parts, block ≠ [] → Text.IsBlock block) →
      ∀ block ∈ parts.filter (· ≠ []), Text.IsBlock block := by
    intro parts each block inside
    obtain ⟨isPart, some⟩ := List.mem_filter.mp inside
    exact each block isPart (by simpa using some)
  have finished : ∀ {parts : List (List String)}, (∀ block ∈ parts, Text.IsBlock block) →
      Text.stripEnd ("\n\n".intercalate (parts.map fun lines => "\n".intercalate lines)) =
        "\n\n".intercalate (parts.map fun lines => "\n".intercalate lines) := by
    intro parts each
    by_cases none : parts = []
    · rw [none]
      rfl
    · exact (Text.endsInInk_blocks none each).stripEnd
  rw [finishText, finishText, String.append_left_inj, joinBlocks, joinBlocks,
    Text.filter_hasInk_blocks each, Text.filter_hasInk_blocks eachOther, finished (shown each),
    finished (shown eachOther)] at same
  exact Text.intercalate_blocks_inj (shown each) (shown eachOther) same

end OutlineWiki
