import OutlineWiki.Proofs.LongNumbers
import OutlineWiki.Proofs.ParsingStages

/-!
# Where reading a tree stops

A reader with a limit to the digits of whole numbers has one more way to end than the stages of reading a tree:
it stops at a text that is JSON up to a number beyond the limit, and what it says then is no error of any stage.
At all other texts it ends as one without a limit does.
-/

namespace OutlineWiki

open Json (MeetsLong)

variable {limit : Nat} {strictness : Strictness} {text stage : String}

namespace Node

/-- A text that leads to a number that is too long gives no tree and no error of a stage. -/
theorem load_of_meetsLong (strictness : Strictness) (meets : MeetsLong limit text) :
    ∃ fault, load strictness text (.upTo limit) = .error (.stopped fault) := by
  obtain ⟨fault, stopped, notOfText⟩ := meets.stops
  refine ⟨fault.locate text.toList, ?_⟩
  have located : (fault.locate text.toList).cause.isOfText = false := notOfText
  simp only [load, Json.parse, stopped, Except.mapError, located]
  rfl

/-- Any other text is read as without a limit. -/
theorem load_of_not_meetsLong (free : ¬ MeetsLong limit text) :
    load strictness text (.upTo limit) = (parse strictness text).mapError .parsing := by
  rcases Json.compares_readAll limit text with ⟨meets, -⟩ | ⟨same, goesOn⟩
  · exact absurd meets free
  · simp only [load, parse, Json.parse, same]
    cases all_read : Json.readAll text.toList with
    | ok value => rfl
    | error fault =>
      have ofText : (fault.locate text.toList).cause.isOfText = true := by
        rw [← Bool.not_eq_false]
        exact fun notOfText => goesOn ⟨fault, all_read, notOfText⟩
      simp only [Except.mapError, ofText]
      rfl

end Node

/-- Reading a text stops at a number, with an error of no stage. -/
def StopsReading (limit : Nat) (strictness : Strictness) (text : String) : Prop :=
  ∃ fault, Node.load strictness text (.upTo limit) = .error (.stopped fault)

/-- Reading a text with a limit to its numbers fails in the stage of a name. -/
def FailsLoading (limit : Nat) (strictness : Strictness) (text stage : String) : Prop :=
  ∃ error, Node.load strictness text (.upTo limit) = .error (.parsing error) ∧ error.stage.name = stage

/-- Reading stops exactly where a text leads to a number that is too long. -/
theorem stopsReading_iff : StopsReading limit strictness text ↔ MeetsLong limit text := by
  refine ⟨fun ⟨fault, stopped⟩ => ?_, Node.load_of_meetsLong strictness⟩
  by_contra free
  rw [Node.load_of_not_meetsLong free] at stopped
  obtain ⟨error, -, told⟩ := mapError_eq_error.mp stopped
  cases told

/-- Reading fails in a stage exactly where it fails in it without a limit and does not stop. -/
theorem failsLoading_iff :
    FailsLoading limit strictness text stage ↔ FailsIn strictness text stage ∧ ¬ MeetsLong limit text := by
  by_cases meets : MeetsLong limit text
  · obtain ⟨fault, stopped⟩ := Node.load_of_meetsLong strictness meets
    simp [FailsLoading, stopped, meets]
  · simp [FailsLoading, FailsIn, Node.load_of_not_meetsLong meets, mapError_eq_error, meets]

/-- Reading gives a tree exactly where it gives one without a limit and does not stop. -/
theorem load_isOk_iff :
    (∃ node, Node.load strictness text (.upTo limit) = .ok node) ↔
      (∃ node, Node.parse strictness text = .ok node) ∧ ¬ MeetsLong limit text := by
  by_cases meets : MeetsLong limit text
  · obtain ⟨fault, stopped⟩ := Node.load_of_meetsLong strictness meets
    simp [stopped, meets]
  · simp [Node.load_of_not_meetsLong meets, mapError_eq_ok, meets]

/-- Reading a text gives a tree, fails in one of three stages, or stops at a number. It stops exactly when the
text is JSON up to a whole number of more digits than the limit. Otherwise it fails while the text is decoded
exactly when that is no JSON or no object, while the version is looked at exactly when the object has another
one, while nodes are made exactly when the object describes no tree, and not at all exactly when it describes
one. -/
theorem loading_stages (limit : Nat) (strictness : Strictness) (text : String) :
    ((∃ node, Node.load strictness text (.upTo limit) = .ok node) ∨
      FailsLoading limit strictness text "json_decode" ∨ FailsLoading limit strictness text "schema_validation" ∨
      FailsLoading limit strictness text "node_construction" ∨ StopsReading limit strictness text) ∧
    (StopsReading limit strictness text ↔ MeetsLong limit text) ∧
    (FailsLoading limit strictness text "json_decode" ↔ NoObject text ∧ ¬ MeetsLong limit text) ∧
    (FailsLoading limit strictness text "schema_validation" ↔ OtherVersion text ∧ ¬ MeetsLong limit text) ∧
    (FailsLoading limit strictness text "node_construction" ↔ NoTree strictness text ∧ ¬ MeetsLong limit text) ∧
    ((∃ node, Node.load strictness text (.upTo limit) = .ok node) ↔
      DescribesSource strictness (BesideFits (·.isTruthy = true)) text ∧ ¬ MeetsLong limit text) := by
  obtain ⟨some, decode, version, construction⟩ := parsing_stages strictness text
  rw [failsLoading_iff, failsLoading_iff, failsLoading_iff, stopsReading_iff, load_isOk_iff, decode, version,
    construction, Node.parse_isOk]
  refine ⟨?_, .rfl, .rfl, .rfl, .rfl, .rfl⟩
  rw [decode, version, construction, Node.parse_isOk] at some
  tauto

/-- A text of nothing but digits stands for no object. -/
theorem noObject_digits {whole : List Char} (wholeText : Json.WholeText whole) : NoObject (.ofList whole) := by
  have spelled : Json.NumberText whole (Json.numberOf false whole none none) := by
    simpa using Json.NumberText.unsigned (.parts wholeText .absent .absent)
  refine .inr ⟨_, ⟨[], whole, [], by simp, by simp [Json.IsGap], by simp [Json.IsGap], .number spelled⟩, ?_⟩
  rintro ⟨members, isObject⟩
  cases isObject

/-- A text of ones, one more of them than a command takes, stands for no object, and reading it stops with an error
that belongs to no stage. -/
theorem load_stopped :
    let text := String.ofList (List.replicate 4301 '1')
    NoObject text ∧ ∃ fault, Node.load .strict text (.upTo usualDigitLimit) = .error (.stopped fault) := by
  have wholeText := Json.wholeText_ones 4300
  exact ⟨noObject_digits wholeText, Node.load_of_meetsLong .strict (Json.meetsLong_digits wholeText (by
    rw [List.length_replicate]
    decide))⟩

end OutlineWiki
