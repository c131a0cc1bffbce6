import Mathlib.Data.List.Chain
import OutlineWiki.Markup.Marks
import OutlineWiki.Proofs.JoinedTexts
import OutlineWiki.Proofs.OneLine
import OutlineWiki.Proofs.RowsReadBack

/-!
# Words

The words of a text are its maximal runs of characters that are not blank. Collapsing a text joins its words
with single spaces, so all that is known of a collapsed text is known of such a join: where blanks can stand
in it, that collapsing it again changes nothing, and that a text can be collapsed before another is put
behind it, unless it ends with a blank.
-/

namespace OutlineWiki.Text

namespace Chars

/-! ## Maximal runs -/

/-- A word shows something and holds no blank. -/
structure IsWord (word : List Char) : Prop where
  shows : word ≠ []
  ink : ∀ character ∈ word, isBlank character = false

/-- The maximal runs of characters that are not blank stand in a text in this order. A run lies between
blanks or the ends of the text, and between two runs there is at least one blank. -/
inductive InRuns : List Char → List (List Char) → Prop where
  | nothing {gap : List Char} (blank : ∀ character ∈ gap, isBlank character = true) : InRuns gap []
  | run {gap word rest : List Char} {words : List (List Char)}
      (blank : ∀ character ∈ gap, isBlank character = true) (isWord : IsWord word)
      (ends : ∀ next ∈ rest.head?, isBlank next = true) (later : InRuns rest words) :
      InRuns (gap ++ (word ++ rest)) (word :: words)

variable {gap word rest characters : List Char} {runs : List (List Char)}

/-- A character that is not blank makes a word, alone or before others that are not blank. -/
theorem isWord_cons {first : Char} (ink : isBlank first = false)
    (others : ∀ character ∈ word, isBlank character = false) : IsWord (first :: word) :=
  ⟨by simp, by simpa using ⟨ink, others⟩⟩

/-- A run at the start of a text. -/
theorem InRuns.atStart (isWord : IsWord word) (ends : ∀ next ∈ rest.head?, isBlank next = true)
    (later : InRuns rest runs) : InRuns (word ++ rest) (word :: runs) :=
  @InRuns.run [] word rest runs (by simp) isWord ends later

/-- A blank before a text leaves its runs. -/
theorem InRuns.behindBlank (stand : InRuns characters runs) {first : Char} (blank : isBlank first = true) :
    InRuns (first :: characters) runs := by
  cases stand with
  | nothing allBlank => exact .nothing (by simpa using ⟨blank, allBlank⟩)
  | @run gap word rest words allBlank isWord ends later =>
    rw [← List.cons_append]
    exact .run (by simpa using ⟨blank, allBlank⟩) isWord ends later

/-- Each run is a word. -/
theorem InRuns.each (stand : InRuns characters runs) : ∀ run ∈ runs, IsWord run := by
  induction stand with
  | nothing => simp
  | run _ isWord _ _ inductionHypothesis => simpa using ⟨isWord, inductionHypothesis⟩

/-! ## Words are the maximal runs -/

/-- A blank belongs to no word. -/
theorem words_blank {first : Char} (blank : isBlank first = true) (rest : List Char) :
    words (first :: rest) = words rest := by
  rw [words.eq_def]
  exact if_pos blank

/-- Blanks belong to no word. -/
theorem words_gap (blank : ∀ character ∈ gap, isBlank character = true) (rest : List Char) :
    words (gap ++ rest) = words rest := by
  induction gap with
  | nil => rfl
  | cons first gap inductionHypothesis =>
    rw [List.cons_append, words_blank (blank first List.mem_cons_self)]
    exact inductionHypothesis fun character inside => blank character (List.mem_cons_of_mem first inside)

/-- A character that is not blank is a word where a blank or nothing follows it. -/
theorem words_single {first : Char} (ink : isBlank first = false)
    (ends : ∀ next ∈ rest.head?, isBlank next = true) : words (first :: rest) = [first] :: words rest := by
  rw [words.eq_def]
  simp only [ink, Bool.false_eq_true, if_false]
  cases rest with
  | nil => rfl
  | cons next rest =>
    cases words (next :: rest) with
    | nil => rfl
    | cons word more => exact if_pos (ends next rfl)

/-- A character that is not blank belongs to the word that follows it at once. -/
theorem words_joined {first next : Char} {word : List Char} {more : List (List Char)}
    (ink : isBlank first = false) (follows : isBlank next = false)
    (found : words (next :: rest) = word :: more) : words (first :: next :: rest) = (first :: word) :: more := by
  rw [words.eq_def]
  simp only [ink, follows, found, Bool.false_eq_true, if_false]

/-- A run of characters that are not blank is a word where a blank or nothing follows it. -/
theorem words_run (isWord : IsWord word) (ends : ∀ next ∈ rest.head?, isBlank next = true) :
    words (word ++ rest) = word :: words rest := by
  induction word with
  | nil => exact absurd rfl isWord.shows
  | cons first others inductionHypothesis =>
    have ink := isWord.ink first List.mem_cons_self
    cases others with
    | nil => exact words_single ink ends
    | cons next others =>
      have later : IsWord (next :: others) :=
        ⟨by simp, fun character inside => isWord.ink character (List.mem_cons_of_mem first inside)⟩
      exact words_joined ink (later.ink next List.mem_cons_self) (inductionHypothesis later)

/-- The maximal runs of a text are its words. -/
theorem InRuns.words_eq (stand : InRuns characters runs) : words characters = runs := by
  induction stand with
  | @nothing gap blank => simpa [words] using words_gap blank []
  | run blank isWord ends _ inductionHypothesis =>
    rw [words_gap blank, words_run isWord ends, inductionHypothesis]

/-- A character that is not blank belongs to the run that follows it at once. -/
theorem InRuns.joined {first next : Char} (stand : InRuns (next :: rest) runs) (ink : isBlank first = false)
    (follows : isBlank next = false) :
    ∃ word more, runs = word :: more ∧ InRuns (first :: next :: rest) ((first :: word) :: more) := by
  generalize whole : next :: rest = text at stand
  cases stand with
  | nothing blank =>
    rw [← whole] at blank
    simp [blank next List.mem_cons_self] at follows
  | @run gap word rest more blank isWord ends later =>
    refine ⟨word, more, rfl, ?_⟩
    have noGap : gap = [] := by
      cases gap with
      | nil => rfl
      | cons start gap =>
        obtain rfl : next = start := by simpa using congrArg List.head? whole
        simp [blank next List.mem_cons_self] at follows
    rw [noGap, List.nil_append, ← List.cons_append]
    exact .atStart (isWord_cons ink isWord.ink) ends later

/-- The words of a text are maximal runs in it. -/
theorem inRuns_words (characters : List Char) : InRuns characters (words characters) := by
  induction characters with
  | nil => exact .nothing (by simp)
  | cons first rest inductionHypothesis =>
    cases ink : isBlank first with
    | true =>
      rw [words_blank ink]
      exact inductionHypothesis.behindBlank ink
    | false =>
      have alone : (∀ next ∈ rest.head?, isBlank next = true) →
          InRuns (first :: rest) (words (first :: rest)) := fun ends => by
        rw [words_single ink ends]
        exact @InRuns.atStart [first] rest _ (isWord_cons ink (by simp)) ends inductionHypothesis
      cases rest with
      | nil => exact alone (by simp)
      | cons next rest =>
        cases follows : isBlank next with
        | true => exact alone (by simpa using follows)
        | false =>
          obtain ⟨word, more, found, stand⟩ := inductionHypothesis.joined ink follows
          rwa [words_joined ink follows found]

/-- The maximal runs of a text are its words, and nothing else is. -/
theorem inRuns_iff : InRuns characters runs ↔ words characters = runs :=
  ⟨InRuns.words_eq, fun same => same ▸ inRuns_words characters⟩

/-! ## Collapsing joins words -/

/-- Squeezed text that comes behind a blank starts with none. -/
theorem head?_squeeze (characters : List Char) :
    ∀ first ∈ (squeeze true characters).head?, isBlank first = false := by
  induction characters with
  | nil => simp [squeeze]
  | cons first rest inductionHypothesis =>
    cases ink : isBlank first with
    | true => simpa [squeeze, ink] using inductionHypothesis
    | false => simp [squeeze, ink]

/-- Without blanks at its start, a squeezed text is as it is behind a blank. -/
theorem trimStart_squeeze (characters : List Char) :
    trimStart (squeeze false characters) = squeeze true characters := by
  cases characters with
  | nil => rfl
  | cons first rest =>
    cases ink : isBlank first with
    | true =>
      have space : isBlank ' ' = true := by decide
      simp only [squeeze, ink, if_true, Bool.false_eq_true, if_false, trimStart]
      rw [List.dropWhile_cons_of_pos space]
      exact dropWhile_ink (fun _ blank => blank) (head?_squeeze rest)
    | false => simp [squeeze, ink, trimStart]

/-- Blanks behind a blank are squeezed away. -/
theorem squeeze_gap (blank : ∀ character ∈ gap, isBlank character = true) (rest : List Char) :
    squeeze true (gap ++ rest) = squeeze true rest := by
  induction gap with
  | nil => rfl
  | cons first gap inductionHypothesis =>
    rw [List.cons_append, squeeze, if_pos (blank first List.mem_cons_self), if_pos rfl]
    exact inductionHypothesis fun character inside => blank character (List.mem_cons_of_mem first inside)

/-- What is not blank is kept by squeezing. -/
theorem squeeze_run (isWord : IsWord word) (inRun : Bool) (rest : List Char) :
    squeeze inRun (word ++ rest) = word ++ squeeze false rest := by
  induction word generalizing inRun with
  | nil => exact absurd rfl isWord.shows
  | cons first others inductionHypothesis =>
    have ink := isWord.ink first List.mem_cons_self
    rw [List.cons_append, squeeze, if_neg (by simp [ink]), List.cons_append]
    cases others with
    | nil => rfl
    | cons next others =>
      rw [inductionHypothesis ⟨by simp, fun character inside =>
        isWord.ink character (List.mem_cons_of_mem first inside)⟩]

/-- What stands behind a word when more words are joined to it. -/
def behindWord : List (List Char) → List Char
  | [] => []
  | more => ' ' :: [' '].intercalate more

/-- A join starts with its first word. -/
theorem intercalate_eq (word : List Char) (more : List (List Char)) :
    [' '].intercalate (word :: more) = word ++ behindWord more := by
  cases more with
  | nil => simp [behindWord]
  | cons next more => simp [behindWord, List.intercalate_cons_cons]

/-- Behind a word, trimming leaves what it leaves of the rest. -/
theorem trimEnd_word_append (isWord : IsWord word) (rest : List Char) :
    trimEnd (word ++ rest) = word ++ trimEnd rest := by
  have kept : word.rdropWhile isBlank = word := by
    rw [List.rdropWhile, dropWhile_ink (fun _ blank => blank), List.reverse_reverse]
    intro last isLast
    rw [List.head?_reverse] at isLast
    exact isWord.ink last (List.mem_of_getLast? isLast)
  have split := rdropWhile_append isBlank word rest
  rw [kept] at split
  refine split.trans ?_
  split
  case isTrue nothing => rw [trimEnd, ← List.rdropWhile, nothing, List.append_nil]
  case isFalse => rfl

/-- A space is trimmed away when nothing is left behind it. -/
theorem trimEnd_space (rest : List Char) :
    trimEnd (' ' :: rest) = if trimEnd rest = [] then [] else ' ' :: trimEnd rest :=
  rdropWhile_append isBlank [' '] rest

/-- Squeezed and without blanks at its end, a text is the join of its runs. -/
theorem InRuns.trimEnd_squeeze (stand : InRuns characters runs) :
    trimEnd (squeeze true characters) = [' '].intercalate runs := by
  induction stand with
  | @nothing gap blank =>
    have squeezed := squeeze_gap blank []
    rw [List.append_nil] at squeezed
    rw [squeezed]
    rfl
  | @run gap word rest more blank isWord ends later inductionHypothesis =>
    rw [squeeze_gap blank, squeeze_run isWord, trimEnd_word_append isWord, intercalate_eq]
    congr 1
    cases rest with
    | nil =>
      obtain rfl : [] = more := later.words_eq
      rfl
    | cons next rest =>
      have isBlankNext := ends next rfl
      have squeezed : squeeze false (next :: rest) = ' ' :: squeeze true (next :: rest) := by
        simp [squeeze, isBlankNext]
      rw [squeezed, trimEnd_space, inductionHypothesis]
      cases more with
      | nil => rfl
      | cons run more =>
        have shows := (later.each run List.mem_cons_self).shows
        rw [if_neg (by simp [intercalate_eq, shows])]
        rfl

/-- Collapsing joins the words of a text with single spaces. -/
theorem collapse_eq_intercalate (characters : List Char) :
    collapse characters = [' '].intercalate (words characters) := by
  rw [collapse, trim, trimStart_squeeze, (inRuns_words characters).trimEnd_squeeze]

/-! ## Joined words -/

/-- The runs of joined words are the words. -/
theorem inRuns_intercalate (each : ∀ run ∈ runs, IsWord run) : InRuns ([' '].intercalate runs) runs := by
  induction runs with
  | nil => exact .nothing (by simp)
  | cons word more inductionHypothesis =>
    have isWord := each word List.mem_cons_self
    have later := inductionHypothesis fun run inside => each run (List.mem_cons_of_mem word inside)
    rw [intercalate_eq]
    cases more with
    | nil => exact .atStart isWord (by simp [behindWord]) (.nothing (by simp [behindWord]))
    | cons next more =>
      have space : isBlank ' ' = true := by decide
      exact .atStart isWord (by simpa [behindWord] using space) (later.behindBlank space)

/-- Collapsing leaves the words of a text. -/
theorem words_collapse (characters : List Char) : words (collapse characters) = words characters := by
  rw [collapse_eq_intercalate]
  exact (inRuns_intercalate (inRuns_words characters).each).words_eq

/-- No two blanks stand side by side. -/
def SingleBlanks (characters : List Char) : Prop :=
  characters.IsChain fun first second => isBlank first = true → isBlank second = false

/-- What is not blank puts, before a text, no blanks side by side. -/
theorem SingleBlanks.behindInk (single : SingleBlanks rest)
    (ink : ∀ character ∈ word, isBlank character = false) : SingleBlanks (word ++ rest) := by
  induction word with
  | nil => exact single
  | cons first word inductionHypothesis =>
    refine List.IsChain.cons (inductionHypothesis fun character inside =>
      ink character (List.mem_cons_of_mem first inside)) fun _ _ blank => ?_
    rw [ink first List.mem_cons_self] at blank
    cases blank

/-- In joined words no two blanks stand side by side. -/
theorem singleBlanks_intercalate (each : ∀ run ∈ runs, IsWord run) :
    SingleBlanks ([' '].intercalate runs) := by
  induction runs with
  | nil => exact .nil
  | cons word more inductionHypothesis =>
    have later := inductionHypothesis fun run inside => each run (List.mem_cons_of_mem word inside)
    rw [intercalate_eq]
    refine SingleBlanks.behindInk ?_ (each word List.mem_cons_self).ink
    cases more with
    | nil => exact .nil
    | cons next more =>
      obtain ⟨shows, ink⟩ := each next (by simp)
      refine List.IsChain.cons later fun first isFirst _ => ?_
      rw [intercalate_eq, List.head?_append_of_ne_nil _ shows] at isFirst
      exact ink first (List.mem_of_head? isFirst)

/-! ## Texts behind texts -/

/-- A text does not end with a blank. -/
def InkLast (characters : List Char) : Prop :=
  ∀ last ∈ characters.getLast?, isBlank last = false

/-- The end of a text that does not end with a blank does not either. -/
theorem InkLast.right (ends : InkLast (characters ++ rest)) : InkLast rest := by
  intro last isLast
  refine ends last ?_
  rw [List.getLast?_append, Option.mem_def.mp isLast, Option.some_or]
  rfl

/-- A text that does not end with a blank is empty when it has no words. -/
theorem eq_nil_of_inRuns (stand : InRuns characters []) (ends : InkLast characters) : characters = [] := by
  cases stand with
  | nothing blank =>
    cases isLast : characters.getLast? with
    | none => exact List.getLast?_eq_none_iff.mp isLast
    | some last =>
      have ink := ends last isLast
      rw [blank last (List.mem_of_getLast? isLast)] at ink
      cases ink

/-- A text in which a run stands is not empty. -/
theorem InRuns.ne_nil {more : List (List Char)} (stand : InRuns characters (word :: more)) :
    characters ≠ [] := by
  rintro rfl
  cases stand.words_eq

/-- What stands behind a text that does not end with a blank makes words with those of the text, whatever
the blanks between these. -/
theorem InRuns.words_append_congr {others : List Char} (stand : InRuns characters runs)
    (othersStand : InRuns others runs) (ends : InkLast characters) (othersEnd : InkLast others)
    (behind : List Char) : words (characters ++ behind) = words (others ++ behind) := by
  induction stand generalizing others with
  | @nothing gap blank =>
    rw [eq_nil_of_inRuns (.nothing blank) ends, eq_nil_of_inRuns othersStand othersEnd]
  | @run gap word rest more blank isWord restEnds later inductionHypothesis =>
    cases othersStand with
    | @run otherGap _ otherRest _ otherBlank _ otherRestEnds otherLater =>
      have restInk : InkLast rest := ends.right.right
      have otherInk : InkLast otherRest := othersEnd.right.right
      simp only [List.append_assoc]
      rw [words_gap blank, words_gap otherBlank]
      cases more with
      | nil => rw [eq_nil_of_inRuns later restInk, eq_nil_of_inRuns otherLater otherInk]
      | cons next more =>
        -- Behind the run stands a blank in both texts, so it is a word there.
        rw [words_run isWord (by rwa [List.head?_append_of_ne_nil _ later.ne_nil]),
          words_run isWord (by rwa [List.head?_append_of_ne_nil _ otherLater.ne_nil]),
          inductionHypothesis otherLater restInk otherInk]

/-- A text that does not end with a blank can be collapsed before another is put behind it. -/
theorem words_collapse_append (ends : InkLast characters) (behind : List Char) :
    words (characters ++ behind) = words (collapse characters ++ behind) := by
  have collapsed : InRuns (collapse characters) (words characters) :=
    inRuns_iff.mpr (words_collapse characters)
  exact (inRuns_words characters).words_append_congr collapsed ends (inkAtEnds_collapse characters).2 behind

end Chars

/-- The words of a text. -/
def words (text : String) : List String :=
  (Chars.words text.toList).map .ofList

/-- The maximal runs of characters that are not blank stand in a text in this order. -/
def InRuns (text : String) (runs : List String) : Prop :=
  Chars.InRuns text.toList (runs.map String.toList)

/-- The maximal runs of a text are its words, and nothing else is. -/
theorem inRuns_iff {text : String} {runs : List String} : InRuns text runs ↔ words text = runs := by
  rw [InRuns, Chars.inRuns_iff, words]
  constructor
  · intro same
    rw [same, List.map_map]
    simp
  · rintro rfl
    simp

/-- Collapsing a text joins its words with single spaces. -/
theorem collapse_eq_join (text : String) : collapse text = " ".intercalate (words text) := by
  apply String.toList_injective
  rw [collapse, String.toList_ofList, Chars.collapse_eq_intercalate, String.toList_intercalate, words]
  simp

/-- A text as words with single spaces between them make it: it is on one line, it neither starts nor ends with a
blank, and no two blanks stand side by side in it. -/
structure Spaced (text : String) : Prop where
  oneLine : OneLine text
  ends : Chars.InkAtEnds text.toList
  single : Chars.SingleBlanks text.toList

/-- A collapsed text is spaced. -/
theorem spaced_collapse (text : String) : Spaced (collapse text) where
  oneLine := oneLine_collapse text
  ends := by
    rw [collapse, String.toList_ofList]
    exact Chars.inkAtEnds_collapse text.toList
  single := by
    rw [collapse, String.toList_ofList, Chars.collapse_eq_intercalate]
    exact Chars.singleBlanks_intercalate (Chars.inRuns_words text.toList).each

/-- Collapsing leaves the words of a text. -/
theorem words_collapse (text : String) : words (collapse text) = words text := by
  rw [words, collapse, String.toList_ofList, Chars.words_collapse, words]

/-- A text that does not end with a blank can be collapsed before another is put behind it. -/
theorem words_collapse_append {text : String} (ends : Chars.InkLast text.toList) (behind : String) :
    words (text ++ behind) = words (collapse text ++ behind) := by
  rw [words, words, String.toList_append, String.toList_append, Chars.words_collapse_append ends, collapse,
    String.toList_ofList]

/-- Collapsing a text, as reflowing does where line breaks are not kept, joins with single spaces the words
of the text, which are its maximal runs of characters that are not blank. The join has the ink of the text
and is spaced; collapsing it again changes nothing, and a text that does not end with a blank can be
collapsed before another is put behind it. -/
theorem collapse_joins_words (text : String) :
    (∀ runs, InRuns text runs ↔ words text = runs) ∧ collapse text = " ".intercalate (words text) ∧
    (∀ options : Options, options.preserveBreaks = false →
      Markup.reflow options text = " ".intercalate (words text)) ∧
    Spaced (collapse text) ∧ ink (collapse text) = ink text ∧ collapse (collapse text) = collapse text ∧
    ∀ behind, Chars.InkLast text.toList → collapse (text ++ behind) = collapse (collapse text ++ behind) := by
  refine ⟨fun runs => inRuns_iff, collapse_eq_join text, fun options breaksOff => ?_, spaced_collapse text,
    ink_collapse text, ?_, fun behind ends => ?_⟩
  · rw [Markup.reflow, breaksOff]
    exact collapse_eq_join text
  · rw [collapse_eq_join (collapse text), words_collapse, collapse_eq_join text]
  · rw [collapse_eq_join, collapse_eq_join (collapse text ++ behind), words_collapse_append ends]

/-- A text with a wide space, a tab and a line feed before its words, and another behind it that goes on
with the last of them. -/
theorem tabbedText_collapsed :
    let text := "\u3000one\t\ntw"
    let options : Options := { preserveBreaks := false }
    options.preserveBreaks = false ∧ Chars.InkLast text.toList ∧ words text = ["one", "tw"] ∧
      Markup.reflow options text = "one tw" ∧ collapse (text ++ "o\u2003 three ") = "one two three" ∧
      collapse (collapse text ++ "o\u2003 three ") = "one two three" := by
  intro text options
  obtain ⟨-, -, reflowed, -, -, -, again⟩ := collapse_joins_words text
  have isLast : text.toList.getLast? = some 'w' := by decide +kernel
  have ends : Chars.InkLast text.toList := by
    rw [Chars.InkLast, isLast]
    rintro last ⟨⟩
    decide
  have found : words text = ["one", "tw"] := by decide +kernel
  have whole : collapse (text ++ "o\u2003 three ") = "one two three" := by decide +kernel
  refine ⟨rfl, ends, found, ?_, whole, ?_⟩
  · rw [reflowed options rfl, found]
    rfl
  · rw [← again _ ends, whole]

end OutlineWiki.Text
