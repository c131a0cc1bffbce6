import OutlineWiki.Proofs.Trees
import OutlineWiki.Renderer

/-!
# The text of inline nodes

An inline node writes one text, whatever stands around it and whatever was rendered before. So does a
cell that holds nothing but inline nodes.
-/

namespace OutlineWiki

open Markup

namespace Node

mutual

/-- An inline node whose texts and inline codes hold strings, to any depth. -/
def isInline : Node → Bool
  | .text _ (.string _) | .code _ (.string _) | .image .. | .lineBreak .. => true
  | .styled _ _ content | .link _ _ content => allInline content
  | _ => false

/-- Nothing but inline nodes. -/
def allInline : List Node → Bool
  | [] => true
  | node :: rest => isInline node && allInline rest

end

mutual

/-- The text that an inline node writes. -/
def inlineText : Node → String
  | .text _ (.string value) => value
  | .styled _ style content => styledText style (inlineTexts content)
  | .code _ content => codeText content
  | .link _ url content => linkText url (inlineTexts content)
  | .image _ url _ => imageText url
  | .lineBreak _ soft => lineBreakText soft
  | _ => ""

/-- The texts of inline nodes, joined. -/
def inlineTexts : List Node → String
  | [] => ""
  | node :: rest => inlineText node ++ inlineTexts rest

end

/-- A list of inline nodes holds inline nodes. -/
theorem allInline_iff {nodes : List Node} : allInline nodes = true ↔ ∀ node ∈ nodes, node.isInline := by
  induction nodes with
  | nil => simp [allInline]
  | cons node rest inductionHypothesis => simp [allInline, inductionHypothesis]

/-- A cell with inline content. -/
def isInlineCell : Node → Bool
  | .tableCell _ content => allInline content
  | _ => false

/-- A row of cells with inline content, or a node that is no such row. -/
def hasInlineCells : Node → Bool
  | .tableRow _ _ cells => cells.all isInlineCell
  | _ => true

/-- The content of a cell on one line. -/
def cellContent : Node → String
  | .tableCell _ content => Text.collapse (inlineTexts content)
  | _ => ""

end Node

namespace Markup

variable {form : TableForm} {options : Options} {around : Option Surroundings}

/-- One string is the text that it makes. -/
theorem joinPieces_single (text : String) : joinPieces [.string text] = .ok text := by
  simp [joinPieces, stringsOf, Except.map]

/-- The pieces of one writer in sequence are its own. -/
theorem inSequence_single (writer : Writer) (around : Option Surroundings) :
    inSequence [writer] around = writer around := by
  simp [inSequence]

/-- Writers of one text each write these texts in sequence. -/
theorem inSequence_texts {nodes : List Node}
    (each : ∀ node ∈ nodes, node.writer form options around = pure [.string node.inlineText]) :
    inSequence (Node.writers form options nodes) around =
      pure (nodes.map fun node => .string node.inlineText) := by
  induction nodes with
  | nil => simp only [Node.writers, inSequence, List.map_nil]
  | cons node rest inductionHypothesis =>
    have later := inductionHypothesis fun node inside => each node (List.mem_cons_of_mem _ inside)
    simp only [Node.writers, inSequence, each node List.mem_cons_self, later, pure_bind, List.map_cons,
      List.singleton_append]

/-- Writers of one text each make the joined texts. -/
theorem capture_texts {nodes : List Node}
    (each : ∀ node ∈ nodes, node.writer form options around = pure [.string node.inlineText]) :
    capture (Node.writers form options nodes) around = pure (Node.inlineTexts nodes) := by
  have joined : joinPieces (nodes.map fun node => .string node.inlineText) =
      .ok (Node.inlineTexts nodes) := by
    have strings : (nodes.map fun node => Json.string node.inlineText) =
        (nodes.map Node.inlineText).map .string := by simp
    have texts : String.join (nodes.map Node.inlineText) = Node.inlineTexts nodes := by
      clear each strings
      induction nodes with
      | nil => rfl
      | cons node rest inductionHypothesis =>
        rw [List.map_cons, String.join_cons, inductionHypothesis, Node.inlineTexts]
    rw [joinPieces, strings, stringsOf_map_string, Except.map, texts]
  rw [capture, inSequence_texts each, pure_bind, joined]
  rfl

/-- An inline node writes its text. -/
theorem writer_inline {node : Node} (inline : node.isInline = true) :
    node.writer form options around = pure [.string node.inlineText] := by
  induction node using Node.inductionChildren with
  | step node inductionHypothesis =>
    have content_captured : ∀ content, node.children = content → Node.allInline content = true →
        capture (Node.writers form options content) around = pure (Node.inlineTexts content) := by
      rintro content rfl inlineContent
      exact capture_texts fun child inside =>
        inductionHypothesis child inside (Node.allInline_iff.mp inlineContent child inside)
    cases node with
    | text attributes content =>
      cases content with
      | string text => simp only [Node.writer, Node.inlineText]
      | _ => simp [Node.isInline] at inline
    | styled attributes style content =>
      simp only [Node.isInline] at inline
      simp only [Node.writer, styledWriter, content_captured content rfl inline, pure_bind,
        Node.inlineText]
    | link attributes url content =>
      simp only [Node.isInline] at inline
      simp only [Node.writer, linkWriter, content_captured content rfl inline, pure_bind,
        Node.inlineText]
    | code | image | lineBreak => simp only [Node.writer, Writer.ofStrings, Node.inlineText, List.map]
    | _ => simp [Node.isInline] at inline

/-- A cell writes what its content writes, on one line. -/
theorem capture_cell (attributes : Attributes) (content : List Node) :
    capture [(Node.tableCell attributes content).writer form options] around =
      Text.collapse <$> capture (Node.writers form options content) around := by
  rw [map_eq_pure_bind, capture, inSequence_single, Node.writer]
  simp only [cellWriter, bind_assoc, pure_bind, joinPieces_single, settle]

/-- A cell with inline content writes that content on one line. -/
theorem capture_inlineCell {cell : Node} (inline : cell.isInlineCell = true) :
    capture [cell.writer form options] around = pure cell.cellContent := by
  cases cell with
  | tableCell attributes content =>
    simp only [Node.isInlineCell] at inline
    have content_captured : capture (Node.writers form options content) around =
        pure (Node.inlineTexts content) :=
      capture_texts fun node inside => writer_inline (Node.allInline_iff.mp inline node inside)
    rw [capture_cell, content_captured, map_pure, Node.cellContent]
  | _ => simp [Node.isInlineCell] at inline

end Markup

end OutlineWiki
