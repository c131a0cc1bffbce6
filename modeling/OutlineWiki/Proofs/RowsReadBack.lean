import Mathlib.Data.List.DropRight
import Mathlib.Data.List.Infix
import OutlineWiki.Proofs.Ink
import OutlineWiki.Proofs.TableLines

/-!
# Rows read back

A row of a table without column groups is read back from its line: split at the double bars, the line gives
one part for each cell, and each part is the cell's content between spaces. It rests on the spaces beside
every border: a bar at the end of a content never meets one of the border.
-/

namespace OutlineWiki

namespace Text

namespace Chars

/-! ## Splitting at double bars -/

/-- The parts of a text between double bars, which are looked for from left to right. -/
def barParts : List Char → List (List Char)
  | [] => [[]]
  | '|' :: '|' :: rest => [] :: barParts rest
  | character :: rest => (barParts rest).modifyHead (character :: ·)

/-- A text without double bars: no two bars stand side by side. -/
def NoBars (characters : List Char) : Prop :=
  ¬ ['|', '|'] <:+: characters

/-- A double bar ends the part before it. -/
theorem barParts_bars (rest : List Char) : barParts ('|' :: '|' :: rest) = [] :: barParts rest := by
  rw [barParts]

/-- A character that opens no double bar belongs to the first part. -/
theorem barParts_cons {character : Char} {rest : List Char}
    (noBars : ¬ (character = '|' ∧ rest.head? = some '|')) :
    barParts (character :: rest) = (barParts rest).modifyHead (character :: ·) := by
  rw [barParts]
  rintro others rfl rfl
  exact noBars ⟨rfl, rfl⟩

/-- Spaces belong to the first part of what follows them. -/
theorem barParts_spaces (count : Nat) (rest : List Char) :
    barParts (List.replicate count ' ' ++ rest) =
      (barParts rest).modifyHead (List.replicate count ' ' ++ ·) := by
  induction count with
  | zero => cases parts : barParts rest <;> exact parts
  | succ count inductionHypothesis =>
    rw [List.replicate_succ, List.cons_append, barParts_cons (by simp), inductionHypothesis,
      List.modifyHead_modifyHead]
    rfl

/-- A text without double bars and the space behind it belong to the first part of what follows them. -/
theorem barParts_content {content : List Char} (noBars : NoBars content) (rest : List Char) :
    barParts (content ++ ' ' :: rest) = (barParts rest).modifyHead (content ++ ' ' :: ·) := by
  induction content with
  | nil => exact barParts_cons (by simp)
  | cons character others inductionHypothesis =>
    have later := inductionHypothesis fun inside => noBars (inside.trans (List.suffix_cons _ _).isInfix)
    have opens : ¬ (character = '|' ∧ (others ++ ' ' :: rest).head? = some '|') := by
      rintro ⟨rfl, next⟩
      cases others with
      | nil => simp at next
      | cons second others =>
        obtain rfl : second = '|' := by simpa using next
        exact noBars ⟨[], others, rfl⟩
    rw [List.cons_append, barParts_cons opens, later, List.modifyHead_modifyHead]
    rfl

/-- A content with spaces behind it, before a double bar, is one part. -/
theorem barParts_padded {content : List Char} (noBars : NoBars content) (count : Nat) (rest : List Char) :
    barParts (content ++ ' ' :: (List.replicate count ' ' ++ '|' :: '|' :: rest)) =
      (content ++ ' ' :: List.replicate count ' ') :: barParts rest := by
  rw [barParts_content noBars, barParts_spaces, barParts_bars, List.modifyHead_cons, List.modifyHead_cons,
    List.append_nil]

/-! ## Stripping -/

/-- A text without the characters of a class at its ends. -/
def strippedOf (drops : Char → Bool) (characters : List Char) : List Char :=
  ((characters.dropWhile drops).reverse.dropWhile drops).reverse

/-- A text that neither starts nor ends with a blank. -/
def InkAtEnds (characters : List Char) : Prop :=
  (∀ first ∈ characters.head?, isBlank first = false) ∧ ∀ last ∈ characters.getLast?, isBlank last = false

/-- A collapsed text neither starts nor ends with a blank. -/
theorem inkAtEnds_collapse (characters : List Char) : InkAtEnds (collapse characters) := by
  rw [collapse, trim, trimEnd]
  constructor
  · intro first isFirst
    obtain ⟨ending, whole⟩ := List.rdropWhile_prefix isBlank (trimStart (squeeze false characters))
    have isHead : (trimStart (squeeze false characters)).head? = some first := by
      rw [← whole, List.head?_append, List.rdropWhile, isFirst, Option.some_or]
    exact head?_dropWhile_blank _ first isHead
  · intro last isLast
    rw [List.getLast?_reverse] at isLast
    exact head?_dropWhile_blank _ last isLast

variable {drops : Char → Bool} {content : List Char}

/-- A class that has the space drops spaces at the start. -/
theorem dropWhile_spaces (space : drops ' ' = true) (count : Nat) (rest : List Char) :
    (List.replicate count ' ' ++ rest).dropWhile drops = rest.dropWhile drops :=
  List.dropWhile_append_of_pos fun character inside => by rw [List.eq_of_mem_replicate inside, space]

/-- A class of blanks drops nothing where a text starts with no blank. -/
theorem dropWhile_ink (blank : ∀ character, drops character = true → isBlank character = true)
    (ink : ∀ first ∈ content.head?, isBlank first = false) : content.dropWhile drops = content := by
  cases content with
  | nil => rfl
  | cons first rest =>
    refine List.dropWhile_cons_of_neg fun dropped => ?_
    have shows := ink first rfl
    rw [blank first dropped] at shows
    cases shows

/-- A content between spaces is stripped bare by every class of blanks that has the space. -/
theorem strippedOf_spaces (space : drops ' ' = true)
    (blank : ∀ character, drops character = true → isBlank character = true) (ends : InkAtEnds content)
    (before after : Nat) :
    strippedOf drops (List.replicate before ' ' ++ (content ++ List.replicate after ' ')) = content := by
  have inReverse : ∀ first ∈ content.reverse.head?, isBlank first = false := by
    rw [List.head?_reverse]
    exact ends.2
  rw [strippedOf, dropWhile_spaces space]
  cases shape : content with
  | nil =>
    have nothing := dropWhile_spaces space after []
    rw [List.append_nil] at nothing
    rw [List.nil_append, nothing]
    rfl
  | cons first rest =>
    have start : ((first :: rest) ++ List.replicate after ' ').dropWhile drops = _ :=
      dropWhile_ink blank (by rw [← shape]; simpa [shape] using ends.1)
    rw [start, List.reverse_append, List.reverse_replicate, dropWhile_spaces space, ← shape,
      dropWhile_ink blank inReverse, List.reverse_reverse]

end Chars

/-- The parts of a text between double bars, which are looked for from left to right. -/
def barParts (text : String) : List String :=
  (Chars.barParts text.toList).map .ofList

/-- A text without double bars. -/
def NoBars (text : String) : Prop :=
  Chars.NoBars text.toList

instance (text : String) : Decidable (NoBars text) :=
  inferInstanceAs (Decidable ¬ ['|', '|'] <:+: text.toList)

/-- The text without spaces at either end; other blanks stay. -/
def stripSpaces (text : String) : String :=
  .ofList (Chars.strippedOf (· == ' ') text.toList)

end Text

namespace TableLayout

/-- Without group markers no column but the first opens a group. -/
theorem startsGroup_unmarked {layout : TableLayout} (unmarked : layout.markers = []) :
    ∀ column, 0 < column → layout.startsGroup column = false := by
  intro column after
  cases column with
  | zero => cases after
  | succ before => simp [startsGroup, unmarked]

/-! ## The parts of a line -/

/-- What stands between the borders of a cell: its content between spaces. -/
def cellPart (content : Node → String) (width : Nat → Nat) (column : Nat) (cell : Node) : List Char :=
  ' ' :: ((content cell).toList ++
    ' ' :: List.replicate (width column - Text.displayWidth (content cell)) ' ')

variable {layout : TableLayout} {content : Node → String} {width : Nat → Nat}

/-- A cell with its borders is its part before a double bar, after another one if it opens a group. -/
theorem toList_alignedCell (column : Nat) (cell : Node) :
    (layout.alignedCell content width column cell).toList =
      (if layout.startsGroup column then ['|', '|'] else []) ++ cellPart content width column cell ++
        ['|', '|'] := by
  have space : (" " : String).toList = [' '] := rfl
  have opener : ("|| " : String).toList = ['|', '|', ' '] := rfl
  have closer : (" ||" : String).toList = [' ', '|', '|'] := rfl
  have turned : ∀ count rest,
      List.replicate count ' ' ++ ' ' :: rest = ' ' :: (List.replicate count ' ' ++ rest) := by
    intro count rest
    rw [List.append_cons, ← List.replicate_succ', List.replicate_succ, List.cons_append]
  simp only [alignedCell, cellPart, String.toList_append, Text.replicate, String.toList_ofList, closer,
    List.append_assoc, turned]
  split <;> simp [space, opener]

/-- A cell that opens no group is the first part of what it starts. -/
theorem barParts_alignedCell {column : Nat} (noGroup : layout.startsGroup column = false) {cell : Node}
    (noBars : Text.NoBars (content cell)) (rest : List Char) :
    Text.Chars.barParts ((layout.alignedCell content width column cell).toList ++ rest) =
      cellPart content width column cell :: Text.Chars.barParts rest := by
  rw [toList_alignedCell, noGroup, cellPart]
  simp only [Bool.false_eq_true, if_false, List.nil_append, List.append_assoc, List.cons_append]
  rw [Text.Chars.barParts_cons (by simp), Text.Chars.barParts_padded noBars, List.modifyHead_cons]

/-- Cells that are each the first part of what they start are the parts of their line. -/
theorem barParts_join {cells : List Node} {box : Nat → Node → String} {part : Nat → Node → List Char}
    (each : ∀ column, ∀ cell ∈ cells, ∀ rest,
      Text.Chars.barParts ((box column cell).toList ++ rest) = part column cell :: Text.Chars.barParts rest) :
    Text.Chars.barParts (String.join (cells.mapIdx box)).toList = cells.mapIdx part ++ [[]] := by
  induction cells generalizing box part with
  | nil => rfl
  | cons cell others inductionHypothesis =>
    have later := inductionHypothesis fun column other inside =>
      each (column + 1) other (List.mem_cons_of_mem cell inside)
    rw [List.mapIdx_cons, List.mapIdx_cons, String.join_cons, String.toList_append,
      each 0 cell List.mem_cons_self, later, List.cons_append]

/-- A line of cells without groups but the first has one part for each cell, between two that are empty. -/
theorem barParts_line {cells : List Node} (some : cells ≠ [])
    (noGroups : ∀ column, 0 < column → layout.startsGroup column = false)
    (noBars : ∀ cell ∈ cells, Text.NoBars (content cell)) :
    Text.Chars.barParts (String.join (cells.mapIdx (layout.alignedCell content width))).toList =
      [] :: (cells.mapIdx (cellPart content width) ++ [[]]) := by
  obtain ⟨cell, others, rfl⟩ := List.exists_cons_of_ne_nil some
  have opens : layout.startsGroup 0 = true := rfl
  have later : ∀ column, ∀ other ∈ others, ∀ rest,
      Text.Chars.barParts ((layout.alignedCell content width (column + 1) other).toList ++ rest) =
        cellPart content width (column + 1) other :: Text.Chars.barParts rest := fun column other inside =>
    barParts_alignedCell (noGroups (column + 1) (Nat.succ_pos column))
      (noBars other (List.mem_cons_of_mem cell inside))
  rw [List.mapIdx_cons, List.mapIdx_cons, String.join_cons, String.toList_append, toList_alignedCell, opens,
    if_pos rfl]
  simp only [cellPart, List.cons_append, List.nil_append, List.append_assoc]
  rw [Text.Chars.barParts_bars, Text.Chars.barParts_cons (by simp),
    Text.Chars.barParts_padded (noBars cell List.mem_cons_self), barParts_join later, List.modifyHead_cons]

/-- The part of a cell, stripped, is its content. -/
theorem strippedOf_cellPart {drops : Char → Bool} (space : drops ' ' = true)
    (blank : ∀ character, drops character = true → Text.isBlank character = true) {column : Nat} {cell : Node}
    (ends : Text.Chars.InkAtEnds (content cell).toList) :
    Text.Chars.strippedOf drops (cellPart content width column cell) = (content cell).toList :=
  Text.Chars.strippedOf_spaces space blank ends 1 (width column - Text.displayWidth (content cell) + 1)

/-- The parts of a line, stripped, are the contents of its cells. -/
theorem map_strippedOf {cells : List Node} {drops : Char → Bool} (space : drops ' ' = true)
    (blank : ∀ character, drops character = true → Text.isBlank character = true)
    (ends : ∀ cell ∈ cells, Text.Chars.InkAtEnds (content cell).toList) :
    ((cells.mapIdx (cellPart content width)).map String.ofList).map
        (fun part => String.ofList (Text.Chars.strippedOf drops part.toList)) = cells.map content := by
  refine List.ext_getElem (by simp) fun column _ inside => ?_
  simp only [List.getElem_map, List.getElem_mapIdx, String.toList_ofList]
  rw [strippedOf_cellPart space blank (ends _ (List.getElem_mem _)), String.ofList_toList]

end TableLayout

open Markup

/-- The content of a cell neither starts nor ends with a blank. -/
theorem Node.inkAtEnds_cellContent (cell : Node) : Text.Chars.InkAtEnds cell.cellContent.toList := by
  cases cell with
  | tableCell attributes content =>
    rw [cellContent, Text.collapse, String.toList_ofList]
    exact Text.Chars.inkAtEnds_collapse _
  | _ => exact ⟨by simp [cellContent], by simp [cellContent]⟩

/-- A visit of a table of inline cells writes its lines, if it has columns, and its rows can be read back from
them where it has no column groups: when no content of a row has a double bar, the row's line, split at the
double bars, gives an empty part, one part for each of its cells in order, and an empty part, and the parts
between are the contents of the cells when spaces, or all blanks, are stripped from them. -/
theorem rows_read_back (options : Options) (attributes : Attributes) (key : Nat) {rows : List Node}
    (inline : ∀ row ∈ rows, row.isInlineRow = true) (around : Option Surroundings) (state : State) :
    ∃ layout width after, TableLayout.ofRows rows = .ok layout ∧
      ((Node.table attributes key rows).writer (tableWriter .remembering) options around).run state =
        .ok (if layout.columnCount = 0 then []
          else [.string (String.join ((layout.tableLines Node.cellContent width).map (· ++ "\n")))]) after ∧
      ((∀ column, 0 < column → layout.startsGroup column = false) →
        ∀ row ∈ layout.rows, row.isRule = false → layout.cells row ≠ [] →
          (∀ cell ∈ layout.cells row, Text.NoBars cell.cellContent) →
            ∃ line ∈ layout.tableLines Node.cellContent width, ∃ parts,
              layout.rowLines Node.cellContent width (layout.isDrawn row) row = [line] ∧
                Text.barParts line = "" :: (parts ++ [""]) ∧
                parts.map Text.stripSpaces = (layout.cells row).map Node.cellContent ∧
                parts.map Text.strip = (layout.cells row).map Node.cellContent) := by
  obtain ⟨layout, made⟩ := TableLayout.ofRows_inline inline
  have cellsInline : ∀ row ∈ rows, row.hasInlineCells = true := fun row inside =>
    (Bool.and_eq_true_iff.mp (inline row inside)).2
  obtain ⟨width, after, run⟩ := run_inlineTable options attributes key made cellsInline around state
  refine ⟨layout, width, after, made, run, fun noGroups row exported noRule some noBars => ?_⟩
  let line := String.join ((layout.cells row).mapIdx (layout.alignedCell Node.cellContent width))
  let parts := (layout.cells row).mapIdx (TableLayout.cellPart Node.cellContent width)
  have isLine : layout.rowLines Node.cellContent width (layout.isDrawn row) row = [line] :=
    layout.rowLines_of_cells _ _ _ noRule some
  have split : Text.Chars.barParts line.toList = [] :: (parts ++ [[]]) :=
    TableLayout.barParts_line some noGroups noBars
  have ends : ∀ cell ∈ layout.cells row, Text.Chars.InkAtEnds cell.cellContent.toList := fun cell _ =>
    cell.inkAtEnds_cellContent
  refine ⟨line, TableLayout.mem_tableLines exported isLine, parts.map String.ofList, isLine, ?_, ?_, ?_⟩
  · rw [Text.barParts, split, List.map_cons, List.map_append]
    rfl
  · have blank : ∀ character, (character == ' ') = true → Text.isBlank character = true := by
      intro character isSpace
      rw [eq_of_beq isSpace]
      rfl
    exact TableLayout.map_strippedOf rfl blank ends
  · have blank : ∀ character, Text.isBlank character = true → Text.isBlank character = true := fun _ same => same
    exact TableLayout.map_strippedOf rfl blank ends

/-- Bars at the ends of contents, an empty content and contents with spaces and line feeds are read back. -/
theorem rows_read_back_bars :
    let cell : String → Node := fun text => .tableCell {} [.text {} (.string text)]
    let row : Node := .tableRow {} 2 [cell "|a|", cell "", cell " b\n c |"]
    let rows : List Node := [.tableRow {} 1 [cell "wide", cell "x", cell ""], row]
    (∀ row ∈ rows, row.isInlineRow = true) ∧
      ∃ layout width after, TableLayout.ofRows rows = .ok layout ∧
        ((Node.table {} 0 rows).writer (tableWriter .remembering) {} none).run {} =
          .ok [.string (String.join ((layout.tableLines Node.cellContent width).map (· ++ "\n")))] after ∧
        ∃ line ∈ layout.tableLines Node.cellContent width, ∃ parts,
          layout.rowLines Node.cellContent width (layout.isDrawn row) row = [line] ∧
            Text.barParts line = "" :: (parts ++ [""]) ∧
            parts.map Text.stripSpaces = ["|a|", "", "b c |"] ∧ parts.map Text.strip = ["|a|", "", "b c |"] := by
  intro cell row rows
  have inline : ∀ row ∈ rows, row.isInlineRow = true := by decide
  obtain ⟨layout, width, after, made, run, readBack⟩ := rows_read_back {} {} 0 inline none {}
  have same : TableLayout.ofRows rows = .ok
      { specialColumn := false, special := [false, false], rows := rows, rowCount := 2, columnCount := 3,
        cookies := [], markers := [] } := by rfl
  obtain rfl := Except.ok.inj (made.symm.trans same)
  have contents : (row.columnCells false).map Node.cellContent = ["|a|", "", "b c |"] := by decide +kernel
  have noBars : ∀ cell ∈ row.columnCells false, Text.NoBars cell.cellContent := by decide +kernel
  have exported : row ∈ rows := List.mem_cons_of_mem _ List.mem_cons_self
  have read := readBack (TableLayout.startsGroup_unmarked rfl) row exported rfl (by decide) noBars
  rw [TableLayout.cells, contents] at read
  exact ⟨inline, _, width, after, made, run, read⟩

/-- Where the first row has no cells the table has no columns, and the line of a later row is not written. -/
theorem rows_after_empty_unwritten :
    let row : Node := .tableRow {} 2 [.tableCell {} [.text {} (.string "a")]]
    let rows : List Node := [.tableRow {} 1 [], row]
    (∀ row ∈ rows, row.isInlineRow = true) ∧
      ∃ layout, TableLayout.ofRows rows = .ok layout ∧
        (∀ column, 0 < column → layout.startsGroup column = false) ∧
        row ∈ layout.rows ∧ row.isRule = false ∧ layout.cells row ≠ [] ∧
        (∀ cell ∈ layout.cells row, Text.NoBars cell.cellContent) ∧
        (render {} (.document {} [.table {} 0 rows])).toOption = some "\n" := by
  intro row rows
  have made : TableLayout.ofRows rows = .ok
      { specialColumn := false, special := [false, false], rows := rows, rowCount := 2, columnCount := 0,
        cookies := [], markers := [] } := by rfl
  have exported : row ∈ rows := List.mem_cons_of_mem _ List.mem_cons_self
  exact ⟨by decide, _, made, TableLayout.startsGroup_unmarked rfl, exported, rfl, by decide, by decide +kernel,
    by decide +kernel⟩

end OutlineWiki
