import OutlineWiki.Proofs.MeasuredText

/-!
# Padded text

Spaces behind a text count one cell each, but the first of them counts nothing where the text ends in a
joiner that still waits for a character to hide. So padding reaches its width, or falls one cell short.
-/

namespace OutlineWiki.Text

namespace Chars

/-! ## Joiners at the end -/

/-- The number of joiners at the end of a text. -/
def trailingJoiners (characters : List Char) : Nat :=
  (characters.reverse.takeWhile (· == zeroWidthJoiner)).length

/-- A text ends open when the last of its joiners waits for a character to hide: each joiner in the run at
its end hides the next, so the run is odd. -/
def endsOpen (characters : List Char) : Bool :=
  trailingJoiners characters % 2 = 1

/-- The run of joiners at the end reaches a character when nothing but joiners follows it. -/
theorem trailingJoiners_cons (character : Char) (rest : List Char) :
    trailingJoiners (character :: rest) =
      if trailingJoiners rest = rest.length ∧ character = zeroWidthJoiner then rest.length + 1
      else trailingJoiners rest := by
  rw [trailingJoiners, List.reverse_cons, List.takeWhile_append, List.length_reverse, ← trailingJoiners]
  by_cases all : trailingJoiners rest = rest.length
  · by_cases joiner : character = zeroWidthJoiner <;> simp [all, joiner]
  · rw [if_neg all, if_neg fun both => all both.1]
    rfl

/-- A run of joiners is no longer than the text. -/
theorem trailingJoiners_le (characters : List Char) : trailingJoiners characters ≤ characters.length := by
  rw [trailingJoiners, ← characters.length_reverse]
  exact (List.takeWhile_sublist _).length_le

/-- A character that is no joiner has no part in how a text ends. -/
theorem endsOpen_cons {character : Char} (notJoiner : character ≠ zeroWidthJoiner) (rest : List Char) :
    endsOpen (character :: rest) = endsOpen rest := by
  simp [endsOpen, trailingJoiners_cons, notJoiner]

/-- A joiner and what it hides have no part in how a text ends. -/
theorem endsOpen_joiner (next : Char) (rest : List Char) :
    endsOpen (zeroWidthJoiner :: next :: rest) = endsOpen rest := by
  have short := trailingJoiners_le rest
  rw [endsOpen, endsOpen, trailingJoiners_cons, trailingJoiners_cons, List.length_cons]
  by_cases reached : trailingJoiners rest = rest.length ∧ next = zeroWidthJoiner
  · simp only [reached.1, reached.2, and_self, if_true]
    congr 1
    simp; omega
  · rw [if_neg reached, if_neg (by omega)]

/-- What is left of a text that is longer: an open end hides the first character that is added. -/
theorem unhidden_append (characters added : List Char) :
    unhidden (characters ++ added) =
      unhidden characters ++ unhidden (if endsOpen characters then added.drop 1 else added) := by
  fun_induction unhidden characters with
  | case1 => rfl
  | case2 =>
    have isOpen : endsOpen [zeroWidthJoiner] = true := rfl
    rw [isOpen]
    cases added <;> simp [unhidden]
  | case3 next afterHidden inductionHypothesis =>
    rw [endsOpen_joiner, ← inductionHypothesis]
    simp [unhidden]
  | case4 character rest notJoiner inductionHypothesis =>
    rw [endsOpen_cons notJoiner, List.cons_append, unhidden_cons notJoiner, inductionHypothesis,
      List.cons_append]

/-! ## Spaces behind a text -/

/-- Characters measured alone add up. -/
theorem separateWidth_append (first second : List Char) :
    separateWidth (first ++ second) = separateWidth first + separateWidth second := by
  induction first with
  | nil => simp [separateWidth]
  | cons character rest inductionHypothesis =>
    rw [List.cons_append, separateWidth, separateWidth, inductionHypothesis, Nat.add_assoc]

/-- A space takes one cell. -/
theorem charWidth?_space : charWidth? ' ' = some 1 :=
  rfl

/-- Spaces take one cell each. -/
theorem separateWidth_spaces (count : Nat) : separateWidth (List.replicate count ' ') = count := by
  induction count with
  | zero => rfl
  | succ count inductionHypothesis =>
    rw [List.replicate_succ, separateWidth, inductionHypothesis, charWidth?_space]
    exact Nat.add_comm 1 count

/-- Nothing is hidden or gained in spaces. -/
theorem unhidden_spaces (count : Nat) : unhidden (List.replicate count ' ') = List.replicate count ' ' :=
  unhidden_of_noJoiner fun inside => absurd (List.eq_of_mem_replicate inside) (by decide)

/-- Spaces behind a text gain nothing. -/
theorem gainedWidth_append_spaces (base : Option Char) (characters : List Char) (count : Nat) :
    gainedWidth base (characters ++ List.replicate count ' ') = gainedWidth base characters := by
  induction characters generalizing base with
  | nil =>
    exact gainedWidth_of_noSelector
      (fun inside => absurd (List.eq_of_mem_replicate inside) (by decide)) base
  | cons character rest inductionHypothesis => simp only [List.cons_append, gainedWidth, inductionHypothesis]

/-- What is left of a text with spaces behind it: all of them, or all but one where the text ends open. -/
theorem unhidden_append_spaces (characters : List Char) (count : Nat) :
    unhidden (characters ++ List.replicate count ' ') =
      unhidden characters ++ List.replicate (if endsOpen characters then count - 1 else count) ' ' := by
  rw [unhidden_append]
  split
  · rw [List.drop_replicate, unhidden_spaces]
  · rw [unhidden_spaces]

/-- A text with spaces behind it shows a control character when the text does. -/
theorem showsControl_append_spaces (characters : List Char) (count : Nat) :
    showsControl (characters ++ List.replicate count ' ') = showsControl characters := by
  have noControl : isControl ' ' = false := rfl
  simp [showsControl, unhidden_append_spaces, noControl]

/-- How wide a text with spaces behind it is: one cell more for each, except for the first where the text
ends open and is measured in context. -/
theorem displayWidth_append_spaces (characters : List Char) (count : Nat) :
    displayWidth (characters ++ List.replicate count ' ') = displayWidth characters +
      if endsOpen characters && !showsControl characters then count - 1 else count := by
  have same := showsControl_append_spaces characters count
  cases shows : showsControl characters with
  | true =>
    rw [shows] at same
    rw [displayWidth_of_shows same, displayWidth_of_shows shows, separateWidth_append, separateWidth_spaces]
    simp
  | false =>
    rw [shows] at same
    rw [displayWidth_of_showsNone same, displayWidth_of_showsNone shows, unhidden_append_spaces,
      separateWidth_append, separateWidth_spaces, gainedWidth_append_spaces]
    cases endsOpen characters <;> simp <;> omega

end Chars

/-- Whether the first character behind a text would be hidden: the text ends in an odd run of joiners, and is
measured in context. -/
def hidesNext (text : String) : Bool :=
  Chars.endsOpen text.toList && !showsControl text

/-- Padding a text adds spaces behind it, as many as it is narrower than the width. The result is as wide as
the width or the text, whichever is wider, unless spaces are added to a text that hides the first of them:
then it is one cell narrower than the width. -/
theorem displayWidth_padToWidth (text : String) (width : Nat) :
    padToWidth text width = text ++ replicate (width - displayWidth text) ' ' ∧
    displayWidth (padToWidth text width) =
      if hidesNext text ∧ displayWidth text < width then width - 1 else max width (displayWidth text) := by
  refine ⟨rfl, ?_⟩
  have padded := Chars.displayWidth_append_spaces text.toList (width - displayWidth text)
  rw [padToWidth, displayWidth, String.toList_append, replicate, String.toList_ofList, padded, hidesNext,
    showsControl, ← displayWidth]
  by_cases hides : (Chars.endsOpen text.toList && !Chars.showsControl text.toList) = true
  · simp only [hides, if_true, true_and]
    split <;> omega
  · rw [if_neg hides, if_neg fun both => hides both.1]
    omega

/-- A letter and a joiner padded to three cells make two. -/
theorem open_end_padded_short :
    padToWidth "a\u200D" 3 = "a\u200D  " ∧ displayWidth (padToWidth "a\u200D" 3) = 2 ∧
      max 3 (displayWidth "a\u200D") = 3 := by
  decide +kernel

end OutlineWiki.Text
