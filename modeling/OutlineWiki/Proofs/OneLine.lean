import OutlineWiki.Table.Lines
import OutlineWiki.Text.Blank
import OutlineWiki.Text.Lines

/-!
# Texts on one line

The parts of a table's lines hold no line feed, so each row stays on one line. Removing empty lines
then leaves exactly the rows on which something was written.
-/

namespace OutlineWiki.Text

/-- A text without line feeds. -/
def OneLine (text : String) : Prop :=
  '\n' ∉ text.toList

/-- Texts on one line, joined, stay on one line. -/
theorem OneLine.append {first second : String} (one : OneLine first) (other : OneLine second) :
    OneLine (first ++ second) := by
  simp only [OneLine, String.toList_append, List.mem_append, not_or]
  exact ⟨one, other⟩

/-- A list of texts on one line stays on one line when it is joined. -/
theorem oneLine_join {texts : List String} (each : ∀ text ∈ texts, OneLine text) :
    OneLine (String.join texts) := by
  induction texts with
  | nil => simp [OneLine]
  | cons text rest inductionHypothesis =>
    rw [String.join_cons]
    exact (each text List.mem_cons_self).append
      (inductionHypothesis fun later inside => each later (List.mem_cons_of_mem text inside))

/-- A run of a character other than the line feed stays on one line. -/
theorem oneLine_replicate (count : Nat) {character : Char} (other : character ≠ '\n') :
    OneLine (replicate count character) := by
  rw [OneLine, replicate, String.toList_ofList, List.mem_replicate]
  exact fun both => other both.2.symm

/-- Squeezed blanks leave no blank but spaces. -/
theorem mem_squeeze {inRun : Bool} {characters : List Char} {character : Char}
    (inside : character ∈ Chars.squeeze inRun characters) :
    character = ' ' ∨ isBlank character = false := by
  induction characters generalizing inRun with
  | nil => cases inside
  | cons first rest inductionHypothesis =>
    simp only [Chars.squeeze] at inside
    split at inside
    · split at inside
      · exact inductionHypothesis inside
      · rcases List.mem_cons.mp inside with rfl | later
        · exact .inl rfl
        · exact inductionHypothesis later
    case isFalse ink =>
      rcases List.mem_cons.mp inside with rfl | later
      · exact .inr (by simpa using ink)
      · exact inductionHypothesis later

/-- A collapsed text is on one line. -/
theorem oneLine_collapse (text : String) : OneLine (collapse text) := by
  intro inside
  rw [collapse, String.toList_ofList, Chars.collapse, Chars.trim, Chars.trimEnd, Chars.trimStart,
    List.mem_reverse] at inside
  have trimmed := List.mem_reverse.mp ((List.dropWhile_sublist _).mem inside)
  have squeezed := (List.dropWhile_sublist _).mem trimmed
  rcases mem_squeeze squeezed with isSpace | ink
  · exact absurd isSpace (by decide)
  · exact absurd ink (by decide)

/-- Texts on one line with such a text between them stay on one line. -/
theorem oneLine_intercalate {joiner : String} {texts : List String} (between : OneLine joiner)
    (each : ∀ text ∈ texts, OneLine text) : OneLine (joiner.intercalate texts) := by
  induction texts with
  | nil => simp [OneLine]
  | cons text rest inductionHypothesis =>
    cases rest with
    | nil =>
      rw [String.intercalate_singleton]
      exact each text List.mem_cons_self
    | cons next rest =>
      rw [String.intercalate_cons_cons]
      exact ((each text List.mem_cons_self).append between).append
        (inductionHypothesis fun later inside => each later (List.mem_cons_of_mem text inside))

/-- A line of runs is on one line. -/
theorem oneLine_runLine {character : Char} (other : character ≠ '\n') (widths : List Nat) :
    OneLine (runLine character widths) := by
  have border : OneLine "||" := by simp [OneLine]
  refine (border.append (oneLine_intercalate border ?_)).append border
  intro run inside
  obtain ⟨width, _, rfl⟩ := List.mem_map.mp inside
  exact oneLine_replicate _ other

/-- A line of runs shows its borders at least. -/
theorem runLine_ne_empty (character : Char) (widths : List Nat) : runLine character widths ≠ "" := by
  intro empty
  have nothing := congrArg String.toList empty
  simp [runLine] at nothing

/-- A text on one line has no line feeds at its end to remove. -/
theorem stripNewlinesEnd_oneLine {text : String} (one : OneLine text) : stripNewlinesEnd text = text := by
  have kept : Chars.trimNewlinesEnd text.toList = text.toList := by
    rw [Chars.trimNewlinesEnd, List.reverse_eq_iff]
    cases shape : text.toList.reverse with
    | nil => rfl
    | cons last rest =>
      have inside : last ∈ text.toList := by
        rw [← List.mem_reverse, shape]
        exact List.mem_cons_self
      have notNewline : (last == '\n') = false := beq_eq_false_iff_ne.mpr fun same => one (same ▸ inside)
      rw [List.dropWhile_cons_of_neg (by simp [notNewline])]
  rw [stripNewlinesEnd, kept, String.ofList_toList]

/-! ## Removing empty lines -/

/-- The characters of texts with a line feed after each. -/
theorem toList_join_lines (texts : List String) :
    (String.join (texts.map (· ++ "\n"))).toList = texts.flatMap fun text => text.toList ++ ['\n'] := by
  induction texts with
  | nil => rfl
  | cons text rest inductionHypothesis =>
    rw [List.map_cons, String.join_cons, String.toList_append, String.toList_append,
      inductionHypothesis, List.flatMap_cons]
    rfl

/-- A line without line feeds is kept as it is. -/
theorem squeezeNewlines_line {line : List Char} (one : '\n' ∉ line) (shows : line ≠ []) (inRun : Bool)
    (rest : List Char) :
    Chars.squeezeNewlines inRun (line ++ '\n' :: rest) =
      line ++ '\n' :: Chars.squeezeNewlines true rest := by
  induction line generalizing inRun with
  | nil => exact absurd rfl shows
  | cons character line inductionHypothesis =>
    have notNewline : character ≠ '\n' := fun same => one (same ▸ List.mem_cons_self)
    rw [List.cons_append, Chars.squeezeNewlines, if_neg notNewline]
    cases line with
    | nil => simp [Chars.squeezeNewlines]
    | cons next line =>
      rw [inductionHypothesis (fun inside => one (List.mem_cons_of_mem _ inside)) (by simp)]
      rfl

/-- After a line, only the lines that show something are kept. -/
theorem squeezeNewlines_lines {texts : List String} (each : ∀ text ∈ texts, OneLine text) :
    Chars.squeezeNewlines true (texts.flatMap fun text => text.toList ++ ['\n']) =
      (texts.filter (· != "")).flatMap fun text => text.toList ++ ['\n'] := by
  induction texts with
  | nil => rfl
  | cons text rest inductionHypothesis =>
    have later := inductionHypothesis fun other inside => each other (List.mem_cons_of_mem text inside)
    rw [List.flatMap_cons, List.append_assoc, List.singleton_append]
    by_cases empty : text = ""
    · subst empty
      rw [List.filter_cons_of_neg (by simp)]
      simpa [Chars.squeezeNewlines] using later
    · have shows : text.toList ≠ [] := fun nothing => empty (String.toList_eq_nil_iff.mp nothing)
      rw [squeezeNewlines_line (each text List.mem_cons_self) shows, later,
        List.filter_cons_of_pos (by simpa using empty), List.flatMap_cons, List.append_assoc,
        List.singleton_append]

/-- Lines that show something start with no line feed. -/
theorem trimNewlinesStart_lines {lines : List String} (each : ∀ line ∈ lines, OneLine line)
    (shows : ∀ line ∈ lines, line ≠ "") :
    Chars.trimNewlinesStart (lines.flatMap fun text => text.toList ++ ['\n']) =
      lines.flatMap fun text => text.toList ++ ['\n'] := by
  cases lines with
  | nil => rfl
  | cons line rest =>
    cases shape : line.toList with
    | nil => exact absurd (String.toList_eq_nil_iff.mp shape) (shows line List.mem_cons_self)
    | cons first others =>
      have notNewline : first ≠ '\n' := by
        rintro rfl
        exact each line List.mem_cons_self (by simp [shape])
      rw [List.flatMap_cons, shape, List.cons_append, List.cons_append, Chars.trimNewlinesStart,
        List.dropWhile_cons_of_neg (by simpa using notNewline)]

/-- Without its empty lines, a text of lines holds those that show something. -/
theorem dropEmptyLines_lines {texts : List String} (each : ∀ text ∈ texts, OneLine text) :
    dropEmptyLines (String.join (texts.map (· ++ "\n"))) =
      String.join ((texts.filter (· != "")).map (· ++ "\n")) := by
  have keptEach : ∀ text ∈ texts.filter (· != ""), OneLine text := fun text inside =>
    each text (List.mem_filter.mp inside).1
  have keptShows : ∀ text ∈ texts.filter (· != ""), text ≠ "" := fun text inside => by
    simpa using (List.mem_filter.mp inside).2
  have kept := trimNewlinesStart_lines keptEach keptShows
  rw [← squeezeNewlines_lines each] at kept
  -- A first line that shows nothing leaves one line feed, which is removed at the start.
  have squeezed : Chars.trimNewlinesStart (Chars.squeezeNewlines false
      (texts.flatMap fun text => text.toList ++ ['\n'])) =
        Chars.squeezeNewlines true (texts.flatMap fun text => text.toList ++ ['\n']) := by
    cases texts with
    | nil => rfl
    | cons text rest =>
      rw [List.flatMap_cons, List.append_assoc, List.singleton_append] at kept ⊢
      by_cases empty : text = ""
      · subst empty
        simpa [Chars.squeezeNewlines, Chars.trimNewlinesStart] using kept
      · have shows : text.toList ≠ [] := fun nothing => empty (String.toList_eq_nil_iff.mp nothing)
        have one := each text List.mem_cons_self
        have same := squeezeNewlines_line one shows
        rw [same true] at kept ⊢
        rw [same false]
        exact kept
  apply String.toList_injective
  rw [dropEmptyLines, String.toList_ofList, toList_join_lines, toList_join_lines, squeezed,
    squeezeNewlines_lines each]

end OutlineWiki.Text
