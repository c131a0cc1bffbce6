import Mathlib.Data.List.Infix
import OutlineWiki.Proofs.FirstOf
import OutlineWiki.Proofs.SettingsGiven
import OutlineWiki.Settings.Discover

/-!
# Settings that are found

The way from a directory to the top passes candidates in a fixed order: in every directory the files made
for this tool, and after them the project file. The first candidate that counts is found, unless the way
first comes to a project file in which what should hold the sections of all tools is no table. That one
is not passed over but ends the way with an error.
-/

namespace OutlineWiki

namespace Settings

open Files

/-! ## Candidates -/

/-- The directories around a place are all that its path passes, the longest way first. -/
theorem withParents_eq (place : Place) : place.withParents = place.inits.reverse := by
  unfold Place.withParents
  induction place using List.reverseRecOn with
  | nil => rfl
  | append_singleton directory name inductionHypothesis =>
    rw [List.length_append, List.length_singleton, Place.upwards, List.dropLast_concat, inductionHypothesis]
    simp [List.inits_append]

/-- The places at which a directory can offer settings, the one that counts most first. -/
def offers (directory : Place) : List Place :=
  (dedicatedNames ++ [projectFileName]).map fun name => directory ++ [name]

/-- The places that the way from a directory to the top passes in search of settings. -/
def candidates (start : Place) : List Place :=
  start.inits.reverse.flatMap offers

section

variable (readers : Readers) (tree : Tree) (place : Place)

/-- The file at a place holds a text. -/
def HoldsText (text : String) : Prop :=
  ∃ content, tree.get? place = some (.file content) ∧ tree.halves.NoneIn content ∧ Text.unifyNewlines content = text

/-- The file at a place is TOML and has the given members. -/
def HoldsToml (members : Values) : Prop :=
  ∃ text, HoldsText tree place text ∧ readers.toml text = .ok (.table members)

/-- The file at a place has a section for this tool, with something in it. -/
def HasSection : Prop :=
  ∃ project tools values, HoldsToml readers tree place project ∧
    Value.member? project "tool" = some (.table tools) ∧
      Value.member? tools "all2trac" = some (.table values) ∧ values ≠ []

/-- In the file at a place something else stands where the sections of all tools should be. -/
def HasNoSections (found : Value) : Prop :=
  ∃ project, HoldsToml readers tree place project ∧ Value.member? project "tool" = some found ∧
    ∀ tools, found ≠ .table tools

/-- Whether a place is that of a project file. -/
def IsProject : Prop :=
  place.getLast? = some projectFileName

/-- A candidate that counts: a project file with a section, or any other file that is there. -/
def Counts : Prop :=
  (IsProject place ∧ HasSection readers tree place) ∨ (¬ IsProject place ∧ tree.hasFile place = true)

/-- A candidate that ends the way with an error: a project file that cannot have sections. Beside these there are
files that cannot even be read: those that are no text, and those at which the reader of TOML stops. -/
inductive Trips : LoadError → Prop where
  | noSections {found : Value} : IsProject place → HasNoSections readers tree place found →
      Trips (.noSections place.path found)
  | noText {content : String} : IsProject place → tree.get? place = some (.file content) → ¬ tree.halves.NoneIn content →
      Trips (.unreachable { reason := .undecodable, path := place.path })
  | stopped {text detail : String} : IsProject place → HoldsText tree place text →
      readers.toml text = .error (.stopped detail) → Trips (.stopped place.path detail)

/-- A candidate at which the way ends. -/
def Stops : Prop :=
  Counts readers tree place ∨ ∃ error, Trips readers tree place error

end

variable {readers : Readers} {tree : Tree} {directory place : Place} {error : LoadError}

/-- A file that is TOML is a file. -/
theorem HoldsToml.isFile {members : Values} (holds : HoldsToml readers tree place members) :
    ∃ content, tree.get? place = some (.file content) := by
  obtain ⟨_, ⟨content, isFile, _⟩, _⟩ := holds
  exact ⟨content, isFile⟩

/-- What has a section is a file. -/
theorem HasSection.isFile (hasSection : HasSection readers tree place) :
    ∃ content, tree.get? place = some (.file content) := by
  obtain ⟨_, _, _, holds, _⟩ := hasSection
  exact holds.isFile

/-- What trips is a file. -/
theorem Trips.isFile (trips : Trips readers tree place error) :
    ∃ content, tree.get? place = some (.file content) := by
  cases trips with
  | noSections _ none =>
    obtain ⟨_, holds, _⟩ := none
    exact holds.isFile
  | noText _ isFile => exact ⟨_, isFile⟩
  | stopped _ holds => exact ⟨_, holds.choose_spec.1⟩

/-- A candidate that trips is a project file. -/
theorem Trips.isProject (trips : Trips readers tree place error) : IsProject place := by
  cases trips with
  | noSections isProject | noText isProject | stopped isProject => exact isProject

/-- The place of the project file in a directory. -/
theorem isProject_concat {name : String} : IsProject (directory ++ [name]) ↔ name = projectFileName := by
  simp [IsProject]

/-- A file made for this tool counts if it is there, and nothing else makes the way end there. -/
theorem counts_dedicated (readers : Readers) {name : String} (dedicated : name ∈ dedicatedNames) :
    (Counts readers tree (directory ++ [name]) ↔ tree.hasFile (directory ++ [name]) = true) ∧
      (Stops readers tree (directory ++ [name]) ↔ Counts readers tree (directory ++ [name])) := by
  have other : ¬ IsProject (directory ++ [name]) := by
    rw [isProject_concat]
    rintro rfl
    revert dedicated
    decide
  have passes : ∀ error, ¬ Trips readers tree (directory ++ [name]) error := fun _ trips => other trips.isProject
  simp [Stops, Counts, other, passes]

/-! ## Project files -/

variable {content : String}

/-- Of the values of a project file its section is empty or known by name. -/
theorem sectionGives_of_ne_nil {path : Path} {project values : Values} (notEmpty : values ≠ [])
    (gives : SectionGives path project (.ok values)) :
    ∃ tools, Value.member? project "tool" = some (.table tools) ∧
      Value.member? tools "all2trac" = some (.table values) := by
  cases gives with
  | noTools | noSection => exact absurd rfl notEmpty
  | values atTool atSection => exact ⟨_, atTool, atSection⟩

/-- A project file from which members are read holds them, unless it is empty. -/
theorem holdsToml_of_gives {path : Path} {project : Values} {name : String} {found : Value}
    (isFile : tree.get? place = some (.file content))
    (gives : ContentGives readers tree path .toml content (.ok project))
    (atName : Value.member? project name = some found) : HoldsToml readers tree place project := by
  cases gives with
  | empty => cases atName
  | values isText reads => exact ⟨_, ⟨content, isFile, isText, rfl⟩, reads_iff.mp reads⟩

/-- The members that a file holds are given by its content. -/
theorem gives_of_holdsToml {path : Path} {project : Values} (isFile : tree.get? place = some (.file content))
    (holds : HoldsToml readers tree place project) : ContentGives readers tree path .toml content (.ok project) := by
  obtain ⟨text, ⟨other, found, isText, rfl⟩, parsed⟩ := holds
  obtain rfl := Entry.file.inj (Option.some.inj (isFile.symm.trans found))
  exact .values isText (reads_iff.mpr parsed)

/-- A project file has a section with something in it when its content gives values. -/
theorem hasSection_iff (isFile : tree.get? place = some (.file content)) :
    HasSection readers tree place ↔
      ∃ values, values ≠ [] ∧ ProjectGives readers tree place.path content (.ok values) := by
  constructor
  · rintro ⟨project, tools, values, holds, atTool, atSection, notEmpty⟩
    exact ⟨values, notEmpty, .read (gives_of_holdsToml isFile holds) (.values atTool atSection)⟩
  · rintro ⟨values, notEmpty, gives⟩
    cases gives with
    | @read project _ gives inSection =>
      obtain ⟨tools, atTool, atSection⟩ := sectionGives_of_ne_nil notEmpty inSection
      exact ⟨project, tools, values, holdsToml_of_gives isFile gives atTool, atTool, atSection, notEmpty⟩

/-- A project file trips when its content gives an error that is not foreseen. -/
theorem trips_iff (isProject : IsProject place) (isFile : tree.get? place = some (.file content)) :
    Trips readers tree place error ↔
      ProjectGives readers tree place.path content (.error error) ∧ error.escapes = true := by
  constructor
  · intro trips
    cases trips with
    | noSections _ none =>
      obtain ⟨project, holds, atTool, noTable⟩ := none
      exact ⟨.read (gives_of_holdsToml isFile holds) (.noSections atTool noTable), rfl⟩
    | noText _ found noText =>
      obtain rfl := Entry.file.inj (Option.some.inj (isFile.symm.trans found))
      exact ⟨.unread (.noText noText), rfl⟩
    | stopped _ holds stops =>
      obtain ⟨other, found, isText, rfl⟩ := holds
      obtain rfl := Entry.file.inj (Option.some.inj (isFile.symm.trans found))
      exact ⟨.unread (.stopped isText (reads_iff.mpr stops)), rfl⟩
  · rintro ⟨gives, escapes⟩
    cases gives with
    | unread gives =>
      cases gives with
      | noText noText => exact .noText isProject isFile noText
      | malformed | notAMapping => cases escapes
      | stopped isText reads =>
        exact .stopped isProject ⟨content, isFile, isText, rfl⟩ (reads_iff.mp reads)
    | read gives inSection =>
      cases inSection with
      | notATable => cases escapes
      | noSections atTool noTable =>
        exact .noSections isProject ⟨_, holdsToml_of_gives isFile gives atTool, atTool, noTable⟩

/-- A project file that counts does not trip. -/
theorem not_trips_of_counts (counts : Counts readers tree place) : ¬ Trips readers tree place error := by
  intro trips
  have isProject := trips.isProject
  rcases counts with ⟨-, hasSection⟩ | ⟨noProject, -⟩
  · obtain ⟨content, isFile⟩ := hasSection.isFile
    obtain ⟨values, -, gives⟩ := (hasSection_iff isFile).mp hasSection
    have fails := ((trips_iff isProject isFile).mp trips).1
    cases (projectGives_iff.mp gives).symm.trans (projectGives_iff.mp fails)
  · exact noProject isProject

/-- A candidate trips in one way. -/
theorem Trips.unique {other : LoadError} (trips : Trips readers tree place error)
    (again : Trips readers tree place other) : error = other := by
  have isProject := trips.isProject
  obtain ⟨content, isFile⟩ := trips.isFile
  have first := projectGives_iff.mp ((trips_iff isProject isFile).mp trips).1
  have second := projectGives_iff.mp ((trips_iff isProject isFile).mp again).1
  exact Except.error.inj (first.symm.trans second)

/-- What a project file tells: it has a section, or it trips, or it is of no interest. -/
theorem hasProjectIn_cases (readers : Readers) (tree : Tree) (directory : Place) :
    let place := directory ++ [projectFileName]
    (HasSection readers tree place ∧ hasProjectIn readers tree directory = .ok true) ∨
      (∃ error, Trips readers tree place error ∧ hasProjectIn readers tree directory = .error error) ∨
      (¬ HasSection readers tree place ∧ (∀ error, ¬ Trips readers tree place error) ∧
        hasProjectIn readers tree directory = .ok false) := by
  intro place
  have isProject : IsProject place := isProject_concat.mpr rfl
  match isFile : tree.get? place with
  | none | some .directory =>
    have noFile : ¬ ∃ content, tree.get? place = some (.file content) := by simp [isFile]
    refine .inr (.inr ⟨fun hasSection => noFile hasSection.isFile, fun _ trips => noFile trips.isFile, ?_⟩)
    simp only [hasProjectIn, place, isFile]
  | some (.file content) =>
    simp only [hasProjectIn, place, isFile, hasSection_iff isFile, trips_iff isProject isFile, projectGives_iff]
    cases projectValuesOf readers tree place.path content with
    | ok values => cases values <;> simp
    | error error => cases error.escapes <;> simp

/-! ## The way -/

/-- What the way past candidates comes to: the first of them at which it ends is found if it counts, and
is an error if it does not. -/
inductive Passes (readers : Readers) (tree : Tree) (places : List Place) : Except LoadError (Option Place) → Prop where
  | nothing : (∀ place ∈ places, ¬ Stops readers tree place) → Passes readers tree places (.ok none)
  | found {place : Place} : FirstOf (Stops readers tree) places place → Counts readers tree place →
      Passes readers tree places (.ok (some place))
  | tripped {place : Place} {error : LoadError} : FirstOf (Stops readers tree) places place → Trips readers tree place error →
      Passes readers tree places (.error error)

namespace Passes

variable {places earlier : List Place} {outcome other : Except LoadError (Option Place)}

/-- Candidates at which the way does not end change nothing. -/
theorem behind (known : Passes readers tree places outcome) (none : ∀ place ∈ earlier, ¬ Stops readers tree place) :
    Passes readers tree (earlier ++ places) outcome := by
  cases known with
  | nothing noOther =>
    refine .nothing fun place inside => ?_
    rcases List.mem_append.mp inside with inEarlier | inPlaces
    · exact none place inEarlier
    · exact noOther place inPlaces
  | found first counts => exact .found (first.behind none) counts
  | tripped first trips => exact .tripped (first.behind none) trips

/-- The way comes to one end. -/
theorem unique (known : Passes readers tree places outcome) (again : Passes readers tree places other) :
    outcome = other := by
  cases known with
  | nothing none =>
    cases again with
    | nothing => rfl
    | found first => exact absurd (.inl ‹_›) (none _ first.mem)
    | tripped first => exact absurd (.inr ⟨_, ‹_›⟩) (none _ first.mem)
  | found first counts =>
    cases again with
    | nothing none => exact absurd (.inl counts) (none _ first.mem)
    | found second => rw [first.unique second]
    | tripped second trips =>
      obtain rfl := first.unique second
      exact absurd trips (not_trips_of_counts counts)
  | tripped first trips =>
    cases again with
    | nothing none => exact absurd (.inr ⟨_, trips⟩) (none _ first.mem)
    | found second counts =>
      obtain rfl := first.unique second
      exact absurd trips (not_trips_of_counts counts)
    | tripped second again =>
      obtain rfl := first.unique second
      rw [trips.unique again]

end Passes

/-- The way past the candidates of directories comes to the first settings file that one of them offers. -/
theorem passes_firstIn (readers : Readers) (tree : Tree) (directories : List Place) :
    Passes readers tree (directories.flatMap offers) (firstIn readers tree directories) := by
  induction directories with
  | nil => exact .nothing (by simp)
  | cons directory rest inductionHypothesis =>
    let dedicated := dedicatedNames.map fun name => directory ++ [name]
    have known : ∀ place ∈ dedicated, (Counts readers tree place ↔ tree.hasFile place = true) ∧
        (Stops readers tree place ↔ Counts readers tree place) := by
      intro place inside
      obtain ⟨name, isDedicated, rfl⟩ := List.mem_map.mp inside
      exact counts_dedicated readers isDedicated
    have tells : ∀ place ∈ dedicated, tree.hasFile place = true ↔ Stops readers tree place :=
      fun place inside => ((known place inside).2.trans (known place inside).1).symm
    have order : (directory :: rest).flatMap offers =
        dedicated ++ (directory ++ [projectFileName]) :: rest.flatMap offers := by
      simp [offers, dedicated]
    rw [order, firstIn]
    cases searched : dedicatedIn? tree directory with
    | some place =>
      have first := FirstOf.of_find? searched tells
      exact .found first.before ((known place first.mem).1.mpr (List.find?_some searched))
    | none =>
      have noDedicated : ∀ place ∈ dedicated, ¬ Stops readers tree place := by
        intro place inside stops
        exact List.find?_eq_none.mp searched place inside ((tells place inside).mpr stops)
      refine Passes.behind ?_ noDedicated
      have isProject : IsProject (directory ++ [projectFileName]) := isProject_concat.mpr rfl
      rcases hasProjectIn_cases readers tree directory with
        ⟨hasSection, answer⟩ | ⟨error, trips, answer⟩ | ⟨noSection, noTrip, answer⟩
      · have counts : Counts readers tree (directory ++ [projectFileName]) := .inl ⟨isProject, hasSection⟩
        simp only [answer]
        exact .found (.head (.inl counts)) counts
      · simp only [answer]
        exact .tripped (.head (.inr ⟨error, trips⟩)) trips
      · have passed : ∀ place ∈ [directory ++ [projectFileName]], ¬ Stops readers tree place := by
          simp [Stops, Counts, isProject, noSection, noTrip]
        simp only [answer]
        exact inductionHypothesis.behind passed

/-- A search for settings passes the candidates from its directory to the top. -/
theorem passes_nearest (readers : Readers) (tree : Tree) (start : Place) :
    Passes readers tree (candidates start) (nearest readers tree start) := by
  rw [nearest, withParents_eq]
  exact passes_firstIn readers tree start.inits.reverse

/-- A search for settings finds the nearest file that counts. It follows the candidates from the directory to the
top and in each directory from the files made for this tool to the project file; the first at which it ends is
found if it counts, nothing is found if there is none, and the only error is that of a project file that trips, on
the way before any file that counts. -/
theorem nearest_firstOf (readers : Readers) (tree : Tree) (start : Place) :
    (∀ place, nearest readers tree start = .ok (some place) ↔
      FirstOf (Stops readers tree) (candidates start) place ∧ Counts readers tree place) ∧
    (nearest readers tree start = .ok none ↔ ∀ place ∈ candidates start, ¬ Stops readers tree place) ∧
    ∀ error, nearest readers tree start = .error error ↔
      ∃ place, FirstOf (Stops readers tree) (candidates start) place ∧ Trips readers tree place error := by
  have passes := passes_nearest readers tree start
  refine ⟨fun place => ⟨fun outcome => ?_, fun ⟨first, counts⟩ => passes.unique (.found first counts)⟩,
    ⟨fun outcome => ?_, fun none => passes.unique (.nothing none)⟩, fun error => ⟨fun outcome => ?_, ?_⟩⟩
  · rw [outcome] at passes
    cases passes with
    | found first counts => exact ⟨first, counts⟩
  · rw [outcome] at passes
    cases passes with
    | nothing none => exact none
  · rw [outcome] at passes
    cases passes with
    | tripped first trips => exact ⟨_, first, trips⟩
  · rintro ⟨place, first, trips⟩
    exact passes.unique (.tripped first trips)

/-- A project file that sets `tool` to a number makes a search fail, although a file made for this tool is
found above it when the project file is not there. -/
theorem nearest_tripped :
    let project : Place := ["p", "pyproject.toml"]
    let above : List (Place × Entry) := [([".all2trac.toml"], .file ""), (["p"], .directory)]
    let readers : Readers := .usual {}
    (∃ found, found.kindName = "int" ∧
      nearest readers { entries := (project, .file "tool = 5\n") :: above } ["p"] =
        .error (.noSections project.path found)) ∧
      nearest readers { entries := above } ["p"] = .ok (some [".all2trac.toml"]) := by
  intro project above readers
  let tree : Tree := { entries := (project, .file "tool = 5\n") :: above }
  have told : (match hasProjectIn readers tree ["p"] with
      | .error (.noSections path found) => path == project.path && found.kindName == "int"
      | _ => false) = true := by
    decide +kernel
  constructor
  · split at told
    case h_1 path found failed =>
      obtain ⟨rfl, isInt⟩ : path = project.path ∧ found.kindName = "int" := by simpa using told
      refine ⟨found, isInt, ?_⟩
      have noOther : dedicatedIn? tree ["p"] = none := by decide
      show firstIn readers tree [["p"], []] = _
      simp only [firstIn, noOther, failed, bind, Except.bind]
    case h_2 => cases told
  · rfl

end Settings

end OutlineWiki
