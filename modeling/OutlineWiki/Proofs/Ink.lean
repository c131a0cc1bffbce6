import OutlineWiki.Text.Blank
import OutlineWiki.Text.Lines

/-!
# Ink

What a reader sees of a text are its characters that are not blank. Trimming, collapsing and every
change of line feeds leave the ink of a text as it was, and a joiner of blanks adds none.
-/

namespace OutlineWiki.Text

namespace Chars

/-- The characters that are not blank, in order. -/
def ink (characters : List Char) : List Char :=
  characters.filter fun character => !isBlank character

/-- Without the blanks at its start a text does not start with one. -/
theorem head?_dropWhile_blank (characters : List Char) :
    ∀ first ∈ (characters.dropWhile isBlank).head?, isBlank first = false := by
  intro first isFirst
  have notDropped := List.head?_dropWhile_not isBlank characters
  rw [Option.mem_def] at isFirst
  rwa [isFirst] at notDropped

/-- The line feed is blank. -/
theorem isBlank_newline : isBlank '\n' = true := by
  decide

/-- Ink is that of the parts, one after the other. -/
@[simp] theorem ink_append (first second : List Char) : ink (first ++ second) = ink first ++ ink second :=
  List.filter_append ..

/-- Dropping nothing but blanks at the start leaves the ink. -/
theorem ink_dropWhile {drops : Char → Bool} (blank : ∀ character, drops character → isBlank character)
    (characters : List Char) : ink (characters.dropWhile drops) = ink characters := by
  induction characters with
  | nil => rfl
  | cons character rest inductionHypothesis =>
    by_cases dropped : drops character = true
    · rw [List.dropWhile_cons_of_pos dropped, inductionHypothesis, ink, ink,
        List.filter_cons_of_neg (by simp [blank character dropped])]
    · rw [List.dropWhile_cons_of_neg dropped]

/-- Dropping nothing but blanks at the end leaves the ink. -/
theorem ink_dropWhileEnd {drops : Char → Bool} (blank : ∀ character, drops character → isBlank character)
    (characters : List Char) : ink (characters.reverse.dropWhile drops).reverse = ink characters := by
  have dropped := ink_dropWhile blank characters.reverse
  rw [ink, ink, List.filter_reverse] at dropped
  rw [ink, List.filter_reverse, dropped, List.reverse_reverse, ink]

/-- Trimming leaves the ink. -/
@[simp] theorem ink_trimEnd (characters : List Char) : ink (trimEnd characters) = ink characters :=
  ink_dropWhileEnd (fun _ blank => blank) characters

/-- Trimming at both ends leaves the ink. -/
@[simp] theorem ink_trim (characters : List Char) : ink (trim characters) = ink characters := by
  rw [trim, ink_trimEnd, trimStart, ink_dropWhile fun _ blank => blank]

/-- Squeezing runs of blanks leaves the ink. -/
theorem ink_squeeze (inRun : Bool) (characters : List Char) :
    ink (squeeze inRun characters) = ink characters := by
  induction characters generalizing inRun with
  | nil => rfl
  | cons character rest inductionHypothesis =>
    by_cases blank : isBlank character = true
    · have without : ink (character :: rest) = ink rest := List.filter_cons_of_neg (by simp [blank])
      rw [without, ← inductionHypothesis true, squeeze, if_pos blank]
      cases inRun with
      | true => rfl
      | false => exact List.filter_cons_of_neg (by decide)
    · rw [squeeze, if_neg blank, ink, ink, List.filter_cons_of_pos (by simp [blank]),
        List.filter_cons_of_pos (by simp [blank])]
      exact congrArg (character :: ·) (inductionHypothesis false)

/-- Squeezing runs of line feeds leaves the ink. -/
theorem ink_squeezeNewlines (inRun : Bool) (characters : List Char) :
    ink (squeezeNewlines inRun characters) = ink characters := by
  induction characters generalizing inRun with
  | nil => rfl
  | cons character rest inductionHypothesis =>
    by_cases newline : character = '\n'
    · subst newline
      have without : ∀ others, ink ('\n' :: others) = ink others := fun others =>
        List.filter_cons_of_neg (by simp [isBlank_newline])
      rw [without, ← inductionHypothesis true, squeezeNewlines, if_pos rfl]
      cases inRun with
      | true => rfl
      | false => exact without _
    · have same := congrArg (ink [character] ++ ·) (inductionHypothesis false)
      rw [squeezeNewlines, if_neg newline]
      simpa only [← ink_append, List.singleton_append] using same

/-- The ink of lines is that of the text they were cut from. -/
theorem ink_lines (characters : List Char) : (lines characters).flatMap ink = ink characters := by
  induction characters using lines.induct with
  | case1 => rfl
  | case2 rest inductionHypothesis =>
    rw [lines, List.flatMap_cons, inductionHypothesis]
    exact (List.filter_cons_of_neg (by simp [isBlank_newline])).symm
  | case3 character rest notNewline noLines inductionHypothesis =>
    rw [noLines] at inductionHypothesis
    have same := congrArg (ink [character] ++ ·) inductionHypothesis
    rw [lines]
    · simpa only [noLines, List.flatMap_cons, List.flatMap_nil, List.append_nil, ← ink_append,
        List.singleton_append] using same
    · exact notNewline
  | case4 character rest notNewline line more someLines inductionHypothesis =>
    have same := congrArg (ink [character] ++ ·) inductionHypothesis
    rw [lines]
    · simpa only [someLines, List.flatMap_cons, ← List.append_assoc, ← ink_append,
        List.singleton_append] using same
    · exact notNewline

end Chars

/-- The characters of a text that are not blank, in order. -/
def ink (text : String) : List Char :=
  Chars.ink text.toList

/-- The empty text has no ink. -/
@[simp] theorem ink_empty : ink "" = [] :=
  rfl

/-- Ink is that of the parts, one after the other. -/
@[simp] theorem ink_append (first second : String) : ink (first ++ second) = ink first ++ ink second := by
  rw [ink, String.toList_append, Chars.ink_append]
  rfl

/-- A text shows something exactly when it has ink. -/
theorem hasInk_eq_false_iff {text : String} : hasInk text = false ↔ ink text = [] := by
  simp [hasInk, ink, Chars.ink]

/-- Trimming at the end leaves the ink. -/
@[simp] theorem ink_stripEnd (text : String) : ink (stripEnd text) = ink text := by
  simp [ink, stripEnd]

/-- Trimming at both ends leaves the ink. -/
@[simp] theorem ink_strip (text : String) : ink (strip text) = ink text := by
  simp [ink, strip]

/-- Writing a text on one line leaves its ink. -/
@[simp] theorem ink_collapse (text : String) : ink (collapse text) = ink text := by
  simp [ink, collapse, Chars.collapse, Chars.ink_squeeze]

/-- Line feeds at the end are no ink. -/
@[simp] theorem ink_stripNewlinesEnd (text : String) : ink (stripNewlinesEnd text) = ink text := by
  simp only [ink, stripNewlinesEnd, String.toList_ofList, Chars.trimNewlinesEnd]
  refine Chars.ink_dropWhileEnd (fun character newline => ?_) _
  rw [eq_of_beq newline]
  exact Chars.isBlank_newline

/-- Empty lines hold no ink. -/
@[simp] theorem ink_dropEmptyLines (text : String) : ink (dropEmptyLines text) = ink text := by
  simp only [ink, dropEmptyLines, String.toList_ofList, Chars.trimNewlinesStart]
  rw [Chars.ink_dropWhile, Chars.ink_squeezeNewlines]
  intro character newline
  rw [eq_of_beq newline]
  exact Chars.isBlank_newline

/-- The ink of the lines of a text is the ink of the text. -/
theorem ink_lines (text : String) : (lines text).flatMap ink = ink text := by
  rw [lines, List.flatMap_map, ink, ← Chars.ink_lines]
  simp [ink]

/-- The ink of joined texts is theirs, one after the other. -/
theorem ink_join (texts : List String) : ink (String.join texts) = texts.flatMap ink := by
  induction texts with
  | nil => rfl
  | cons text rest inductionHypothesis =>
    rw [String.join_cons, ink_append, inductionHypothesis, List.flatMap_cons]

/-- A joiner of blanks adds no ink. -/
theorem ink_intercalate {joiner : String} (blank : ink joiner = []) (texts : List String) :
    ink (joiner.intercalate texts) = texts.flatMap ink := by
  induction texts with
  | nil => rfl
  | cons text rest inductionHypothesis =>
    cases rest with
    | nil => simp
    | cons next rest =>
      rw [String.intercalate_cons_cons, ink_append, ink_append, blank, inductionHypothesis,
        List.append_nil]
      rfl

/-- Texts without ink can be left out. -/
theorem flatMap_ink_filter {keeps : String → Bool} {texts : List String}
    (inkless : ∀ text ∈ texts, keeps text = false → ink text = []) :
    (texts.filter keeps).flatMap ink = texts.flatMap ink := by
  induction texts with
  | nil => rfl
  | cons text rest inductionHypothesis =>
    have later := inductionHypothesis fun other inside => inkless other (List.mem_cons_of_mem text inside)
    by_cases kept : keeps text = true
    · rw [List.filter_cons_of_pos kept, List.flatMap_cons, List.flatMap_cons, later]
    · rw [List.filter_cons_of_neg kept, List.flatMap_cons, later,
        inkless text List.mem_cons_self (by simpa using kept), List.nil_append]

end OutlineWiki.Text
