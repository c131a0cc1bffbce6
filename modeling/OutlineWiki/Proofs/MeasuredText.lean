import OutlineWiki.Text.Width

/-!
# The characters that are measured

How the cells of a text add up. A joiner takes the character after it out of the measure, and of the
characters that are left each counts the cells it takes alone, and a selector those it adds to the character
before it. A control character that is left ends this: the text then counts all its characters, hidden or
not, and no selector adds anything.
-/

namespace OutlineWiki.Text

/-- A control character: no width is known for it. -/
def isControl (character : Char) : Bool :=
  (charWidth? character).isNone

/-- The widths of the two characters that are measured in context: none of their own. -/
theorem charWidth?_joiner : charWidth? zeroWidthJoiner = some 0 := by
  decide

@[inherit_doc charWidth?_joiner]
theorem charWidth?_selector : charWidth? variationSelector16 = some 0 := by
  decide

namespace Chars

/-- The characters that a text is measured by: a joiner goes out with the character after it. -/
def unhidden : List Char → List Char
  | [] => []
  | character :: rest =>
    if character = zeroWidthJoiner then
      match rest with
      | [] => []
      | _ :: afterHidden => unhidden afterHidden
    else
      character :: unhidden rest

/-- The characters that joiners hide. -/
def hidden : List Char → List Char
  | [] => []
  | character :: rest =>
    if character = zeroWidthJoiner then
      match rest with
      | [] => []
      | next :: afterHidden => next :: hidden afterHidden
    else
      hidden rest

/-- The cells that selectors add: each widens the last character that takes a cell, unless a selector
between them did. -/
def gainedWidth (base : Option Char) : List Char → Nat
  | [] => 0
  | character :: rest =>
    match (if character = variationSelector16 then base else none) with
    | some widened => selectorGain widened + gainedWidth none rest
    | none =>
      match charWidth? character with
      | none | some 0 => gainedWidth base rest
      | some (_ + 1) => gainedWidth (some character) rest

/-- A control character shows when no joiner hides it. -/
def showsControl (characters : List Char) : Bool :=
  (unhidden characters).any isControl

/-- A character that is no joiner is left, before what is left of the rest. -/
theorem unhidden_cons {character : Char} (notJoiner : character ≠ zeroWidthJoiner) (rest : List Char) :
    unhidden (character :: rest) = character :: unhidden rest := by
  rw [unhidden.eq_def]
  exact if_neg notJoiner

/-- The measure of a character in front of a text whose measure is known. -/
theorem sequenceWidth?_cons {character : Char} (notJoiner : character ≠ zeroWidthJoiner)
    {rest left : List Char} {stops : Bool}
    (restWidth : ∀ base, sequenceWidth? base rest =
      if stops then none else some (separateWidth left + gainedWidth base left)) (base : Option Char) :
    sequenceWidth? base (character :: rest) =
      if isControl character || stops then none
      else some (separateWidth (character :: left) + gainedWidth base (character :: left)) := by
  rw [sequenceWidth?.eq_def]
  simp only [if_neg notJoiner, separateWidth, gainedWidth, restWidth]
  by_cases selects : character = variationSelector16
  · have measured : charWidth? character = some 0 := selects ▸ charWidth?_selector
    rw [if_pos selects]
    cases base with
    | none => simp [isControl, measured]
    | some widened => cases stops <;> simp [isControl, measured]; omega
  · rw [if_neg selects]
    cases measured : charWidth? character with
    | none => simp [isControl, measured]
    | some cells =>
      cases cells <;> cases stops <;> simp [isControl, measured]; omega

/-- A text that shows a control character has no measure in context; any other has one, to which what is not
hidden contributes its own cells and those that selectors add. -/
theorem sequenceWidth?_eq (base : Option Char) (characters : List Char) :
    sequenceWidth? base characters =
      if showsControl characters then none
      else some (separateWidth (unhidden characters) + gainedWidth base (unhidden characters)) := by
  fun_induction unhidden characters generalizing base with
  | case1 => simp [sequenceWidth?, showsControl, unhidden, separateWidth, gainedWidth]
  | case2 => simp [sequenceWidth?, showsControl, unhidden, separateWidth, gainedWidth]
  | case3 next afterHidden inductionHypothesis =>
    simpa [sequenceWidth?, showsControl, unhidden] using inductionHypothesis base
  | case4 character rest notJoiner inductionHypothesis =>
    rw [sequenceWidth?_cons notJoiner inductionHypothesis base]
    simp [showsControl, unhidden_cons notJoiner]

/-- A text that shows a control character is as wide as all its characters alone. -/
theorem displayWidth_of_shows {characters : List Char} (shows : showsControl characters = true) :
    displayWidth characters = separateWidth characters := by
  rw [displayWidth, sequenceWidth?_eq, if_pos shows]
  rfl

/-- A text that shows none is as wide as the characters left of it, with what selectors add to them. -/
theorem displayWidth_of_showsNone {characters : List Char} (shows : showsControl characters = false) :
    displayWidth characters =
      separateWidth (unhidden characters) + gainedWidth none (unhidden characters) := by
  rw [displayWidth, sequenceWidth?_eq, shows]
  rfl

/-! ## What is left and what is hidden -/

/-- What is left of a text stands in it in the same order. -/
theorem unhidden_sublist (characters : List Char) : (unhidden characters).Sublist characters := by
  fun_induction unhidden characters with
  | case1 => exact .slnil
  | case2 => exact List.nil_sublist _
  | case3 next afterHidden inductionHypothesis => exact (inductionHypothesis.cons next).cons _
  | case4 character rest notJoiner inductionHypothesis => exact inductionHypothesis.cons_cons character

/-- The cells of all characters are those of what is left and of what is hidden: joiners take none. -/
theorem separateWidth_eq (characters : List Char) :
    separateWidth characters = separateWidth (unhidden characters) + separateWidth (hidden characters) := by
  have joinerWidth : (charWidth? zeroWidthJoiner).getD 0 = 0 := by rw [charWidth?_joiner]; rfl
  fun_induction unhidden characters with
  | case1 => rfl
  | case2 => simp [separateWidth, hidden, joinerWidth]
  | case3 next afterHidden inductionHypothesis =>
    simp only [separateWidth, hidden, if_true, joinerWidth, inductionHypothesis]
    omega
  | case4 character rest notJoiner inductionHypothesis =>
    rw [hidden.eq_def]
    simp only [separateWidth, if_neg notJoiner, inductionHypothesis]
    omega

/-- Nothing is hidden in a text without joiners. -/
theorem unhidden_of_noJoiner {characters : List Char} (noJoiner : zeroWidthJoiner ∉ characters) :
    unhidden characters = characters := by
  induction characters with
  | nil => rfl
  | cons character rest inductionHypothesis =>
    have notJoiner : character ≠ zeroWidthJoiner := fun same => noJoiner (same ▸ List.mem_cons_self)
    rw [unhidden_cons notJoiner,
      inductionHypothesis fun inside => noJoiner (List.mem_cons_of_mem _ inside)]

/-- Nothing is gained in a text without selectors. -/
theorem gainedWidth_of_noSelector {characters : List Char} (noSelector : variationSelector16 ∉ characters)
    (base : Option Char) : gainedWidth base characters = 0 := by
  induction characters generalizing base with
  | nil => rfl
  | cons character rest inductionHypothesis =>
    have later := inductionHypothesis fun inside => noSelector (List.mem_cons_of_mem _ inside)
    have notSelector : character ≠ variationSelector16 := fun same => noSelector (same ▸ List.mem_cons_self)
    rw [gainedWidth, if_neg notSelector]
    simp only
    split <;> exact later _

/-- A text without joiners and selectors is as wide as all its characters alone. -/
theorem displayWidth_plain {characters : List Char} (noJoiner : zeroWidthJoiner ∉ characters)
    (noSelector : variationSelector16 ∉ characters) : displayWidth characters = separateWidth characters := by
  cases shows : showsControl characters with
  | true => exact displayWidth_of_shows shows
  | false =>
    rw [displayWidth_of_showsNone shows, unhidden_of_noJoiner noJoiner, gainedWidth_of_noSelector noSelector,
      Nat.add_zero]

/-! ## Texts without control characters -/

/-- A text without its control characters. -/
def printable (characters : List Char) : List Char :=
  characters.filter (!isControl ·)

/-- Control characters count nothing when each character is measured alone. -/
theorem separateWidth_printable (characters : List Char) :
    separateWidth (printable characters) = separateWidth characters := by
  induction characters with
  | nil => rfl
  | cons character rest inductionHypothesis =>
    rw [printable, List.filter_cons, separateWidth, ← inductionHypothesis, printable]
    cases control : isControl character with
    | false => simp [separateWidth]
    | true =>
      have noWidth : charWidth? character = none := Option.isNone_iff_eq_none.mp control
      simp [noWidth]

/-- A text shows no control character when it has none. -/
theorem showsControl_of_noControl {characters : List Char}
    (noControl : ∀ character ∈ characters, isControl character = false) : showsControl characters = false := by
  rw [showsControl, List.any_eq_false]
  intro character isLeft
  simp [noControl character ((unhidden_sublist characters).subset isLeft)]

/-- No control character is left in a printable text. -/
theorem noControl_printable (characters : List Char) :
    ∀ character ∈ printable characters, isControl character = false := by
  intro character inside
  simpa using (List.mem_filter.mp inside).2

/-- A text without the control characters that joiners hide, and without those joiners. -/
def dropHiddenControls : List Char → List Char
  | [] => []
  | character :: rest =>
    if character = zeroWidthJoiner then
      match rest with
      | [] => [character]
      | next :: afterHidden =>
        if isControl next then dropHiddenControls afterHidden
        else character :: next :: dropHiddenControls afterHidden
    else
      character :: dropHiddenControls rest

/-- Dropping what joiners hide, with them, changes nothing in what is left. -/
theorem unhidden_dropHiddenControls (characters : List Char) :
    unhidden (dropHiddenControls characters) = unhidden characters := by
  fun_induction dropHiddenControls characters with
  | case1 | case2 => rfl
  | case3 next afterHidden control inductionHypothesis => simpa [unhidden] using inductionHypothesis
  | case4 next afterHidden noControl inductionHypothesis => simpa [unhidden] using inductionHypothesis
  | case5 character rest notJoiner inductionHypothesis =>
    rw [unhidden_cons notJoiner, unhidden_cons notJoiner, inductionHypothesis]

/-- Without those that are hidden, a text that shows no control character has none. -/
theorem noControl_dropHiddenControls {characters : List Char} (shows : showsControl characters = false) :
    ∀ character ∈ dropHiddenControls characters, isControl character = false := by
  have joinerShows : isControl zeroWidthJoiner = false := by rw [isControl, charWidth?_joiner]; rfl
  fun_induction dropHiddenControls characters with
  | case1 => simp
  | case2 => simpa using joinerShows
  | case3 next afterHidden control inductionHypothesis =>
    exact inductionHypothesis (by simpa [showsControl, unhidden] using shows)
  | case4 next afterHidden noControl inductionHypothesis =>
    have later := inductionHypothesis (by simpa [showsControl, unhidden] using shows)
    simpa [joinerShows, noControl] using later
  | case5 character rest notJoiner inductionHypothesis =>
    rw [showsControl, unhidden_cons notJoiner, List.any_cons, Bool.or_eq_false_iff] at shows
    simpa [shows.1] using inductionHypothesis shows.2

end Chars

/-! ## Control characters in a text -/

/-- Whether a text shows a control character: one that no joiner hides. -/
def showsControl (text : String) : Bool :=
  Chars.showsControl text.toList

/-- The text without its control characters. -/
def printable (text : String) : String :=
  .ofList (Chars.printable text.toList)

/-- The text without the control characters that joiners hide, and without those joiners. -/
def dropHiddenControls (text : String) : String :=
  .ofList (Chars.dropHiddenControls text.toList)

/-- The cells that the characters hidden by joiners would take. -/
def hiddenWidth (text : String) : Nat :=
  Chars.separateWidth (Chars.hidden text.toList)

/-- The cells that selectors add to the characters before them. -/
def gainedWidth (text : String) : Nat :=
  Chars.gainedWidth none (Chars.unhidden text.toList)

/-- What control characters do to the width of a text. Where one shows, the width is that of the printable
text, with what joiners hide there and without what selectors add there. Where none shows, the width is that
of the text without the hidden ones and their joiners, which has no control character at all. So control
characters count nothing in a text without joiners and selectors. -/
theorem displayWidth_printable (text : String) :
    (showsControl text = true →
      displayWidth text + gainedWidth (printable text) =
        displayWidth (printable text) + hiddenWidth (printable text)) ∧
    (showsControl text = false →
      displayWidth text = displayWidth (dropHiddenControls text) ∧
        ∀ character ∈ (dropHiddenControls text).toList, isControl character = false) ∧
    (zeroWidthJoiner ∉ text.toList → variationSelector16 ∉ text.toList →
      displayWidth text = displayWidth (printable text)) := by
  refine ⟨fun shows => ?_, fun shows => ?_, fun noJoiner noSelector => ?_⟩
  · have alone := (Chars.displayWidth_of_shows shows).trans (Chars.separateWidth_printable _).symm
    have inContext := Chars.displayWidth_of_showsNone
      (Chars.showsControl_of_noControl (Chars.noControl_printable text.toList))
    have parts := Chars.separateWidth_eq (Chars.printable text.toList)
    simp only [displayWidth, gainedWidth, hiddenWidth, printable, String.toList_ofList]
    omega
  · have noControl := Chars.noControl_dropHiddenControls shows
    simp only [displayWidth, dropHiddenControls, String.toList_ofList]
    refine ⟨?_, noControl⟩
    rw [Chars.displayWidth_of_showsNone shows,
      Chars.displayWidth_of_showsNone (Chars.showsControl_of_noControl noControl),
      Chars.unhidden_dropHiddenControls]
  · have inText : Chars.printable text.toList ⊆ text.toList := List.filter_sublist.subset
    simp only [displayWidth, printable, String.toList_ofList]
    rw [Chars.displayWidth_plain noJoiner noSelector, Chars.displayWidth_plain
      (fun inside => noJoiner (inText inside)) fun inside => noSelector (inText inside),
      Chars.separateWidth_printable]

/-- Two joined emoji before a bell are measured apart, a bell that is hidden goes out with its joiner, and one
behind a wide character counts nothing. -/
theorem displayWidth_printable_bells :
    displayWidth "👩\u200D👩\x07" + gainedWidth (printable "👩\u200D👩\x07") =
        displayWidth (printable "👩\u200D👩\x07") + hiddenWidth (printable "👩\u200D👩\x07") ∧
      displayWidth "a\u200D\x07b" = displayWidth (dropHiddenControls "a\u200D\x07b") ∧
      displayWidth "日\x07" = displayWidth (printable "日\x07") :=
  ⟨(displayWidth_printable "👩\u200D👩\x07").1 (by decide +kernel),
    ((displayWidth_printable "a\u200D\x07b").2.1 (by decide +kernel)).1,
    (displayWidth_printable "日\x07").2.2 (by decide +kernel) (by decide +kernel)⟩

/-- A bell behind a heart takes away the cell that the heart's selector adds. -/
theorem control_hides_gain :
    displayWidth "\u2764\uFE0F\x07" = 1 ∧ displayWidth (printable "\u2764\uFE0F\x07") = 2 := by
  decide +kernel

end OutlineWiki.Text
