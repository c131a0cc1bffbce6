import OutlineWiki.Proofs.Outcomes
import OutlineWiki.Proofs.TextHalves
import OutlineWiki.Settings.Load

/-!
# What settings files give

What becomes of a path that is to give settings, told step by step: what the system says about the path, what the
reader of the format makes of the content, and, in a project file, what stands where the section of this tool
should be. Each step can fail, and every failure is an error of its own.
-/

namespace OutlineWiki

namespace Files.Tree

/-- Contents are refused unless they are texts. -/
theorem textOf_eq (tree : Tree) (path : Path) (content : String) :
    (tree.halves.NoneIn content ∧ tree.textOf path content = .ok (Text.unifyNewlines content)) ∨
      (¬ tree.halves.NoneIn content ∧ tree.textOf path content = .error { reason := .undecodable, path }) := by
  unfold textOf
  rw [← Halves.inText?_eq_none]
  cases tree.halves.inText? content <;> simp

end Files.Tree

namespace Settings

open Files

section

variable (readers : Readers) (tree : Tree) (current : Place) (path : Path)

/-- What the reader of a format makes of a text. The reader of JSON can stop at a number, with a fault that is
none of the text. -/
inductive Reads (halves : Halves) (text : String) : Format → Except Refusal Value → Prop where
  | toml : Reads halves text .toml (readers.toml text)
  | yaml : Reads halves text .yaml (readers.yaml text)
  | json {value : Json} : Json.parse text (.usual halves) = .ok value → Reads halves text .json (.ok (.ofJson value))
  | noJson {fault : Json.LocatedFault} : Json.parse text (.usual halves) = .error fault →
      fault.cause.isOfText = true → Reads halves text .json (.error (.malformed fault.message))
  | stopped {fault : Json.LocatedFault} : Json.parse text (.usual halves) = .error fault →
      fault.cause.isOfText = false → Reads halves text .json (.error (.stopped fault.message))

/-- What the content of a file in a format gives. It must be a text that its reader takes, and the value that is
read must be null, which counts as no values, or a table, whose members are the values. -/
inductive ContentGives (format : Format) (content : String) : Except LoadError Values → Prop where
  | noText : ¬ tree.halves.NoneIn content →
      ContentGives format content (.error (.unreachable { reason := .undecodable, path }))
  | malformed {detail : String} : tree.halves.NoneIn content →
      Reads readers tree.halves (Text.unifyNewlines content) format (.error (.malformed detail)) →
      ContentGives format content (.error (.malformed path format detail))
  | stopped {detail : String} : tree.halves.NoneIn content →
      Reads readers tree.halves (Text.unifyNewlines content) format (.error (.stopped detail)) →
      ContentGives format content (.error (.stopped path detail))
  | empty : tree.halves.NoneIn content → Reads readers tree.halves (Text.unifyNewlines content) format (.ok .null) →
      ContentGives format content (.ok [])
  | values {members : Values} : tree.halves.NoneIn content →
      Reads readers tree.halves (Text.unifyNewlines content) format (.ok (.table members)) →
      ContentGives format content (.ok members)
  | notAMapping {found : Value} : tree.halves.NoneIn content →
      Reads readers tree.halves (Text.unifyNewlines content) format (.ok found) →
      found ≠ .null → (∀ members, found ≠ .table members) →
      ContentGives format content (.error (.notAMapping path format found))

/-- What the values of a project file give. Below the sections of all tools there may be one of this tool. -/
inductive SectionGives (project : Values) : Except LoadError Values → Prop where
  | noTools : Value.member? project "tool" = none → SectionGives project (.ok [])
  | noSection {tools : Values} : Value.member? project "tool" = some (.table tools) →
      Value.member? tools "all2trac" = none → SectionGives project (.ok [])
  | values {tools values : Values} : Value.member? project "tool" = some (.table tools) →
      Value.member? tools "all2trac" = some (.table values) → SectionGives project (.ok values)
  | notATable {tools : Values} {found : Value} : Value.member? project "tool" = some (.table tools) →
      Value.member? tools "all2trac" = some found → (∀ values, found ≠ .table values) →
      SectionGives project (.error (.sectionNotATable path found))
  | noSections {found : Value} : Value.member? project "tool" = some found → (∀ tools, found ≠ .table tools) →
      SectionGives project (.error (.noSections path found))

/-- What the content of a project file gives: an error of its TOML stands, and of its values the section of this
tool counts. -/
inductive ProjectGives (content : String) : Except LoadError Values → Prop where
  | unread {error : LoadError} : ContentGives readers tree path .toml content (.error error) →
      ProjectGives content (.error error)
  | read {project : Values} {outcome : Except LoadError Values} :
      ContentGives readers tree path .toml content (.ok project) → SectionGives path project outcome →
      ProjectGives content outcome

/-- The suffixes of settings files in a format. -/
def suffixes : Format → List String
  | .toml => [".toml"]
  | .yaml => [".yaml", ".yml"]
  | .json => [".json"]

/-- What a path gives to someone who wants settings from it. It must lead to a file, and the name of the file
tells what it holds: upper and lower case aside, a project file by its whole name and any other by its suffix. -/
inductive FileGives : Except LoadError Values → Prop where
  | unreachable {fault : Files.Fault} : tree.look current path = .error fault →
      FileGives (.error (.unreachable fault))
  | missing : tree.look current path = .ok none → FileGives (.error (.missing path))
  | notAFile : tree.look current path = .ok (some .directory) → FileGives (.error (.notAFile path))
  | project {content : String} {outcome : Except LoadError Values} :
      tree.look current path = .ok (some (.file content)) → Text.lower path.name = "pyproject.toml" →
      ProjectGives readers tree path content outcome → FileGives outcome
  | unsupported {content : String} : tree.look current path = .ok (some (.file content)) →
      Text.lower path.name ≠ "pyproject.toml" → (∀ format, path.suffix ∉ suffixes format) →
      FileGives (.error (.unsupportedFormat path))
  | content {content : String} {format : Format} {outcome : Except LoadError Values} :
      tree.look current path = .ok (some (.file content)) → Text.lower path.name ≠ "pyproject.toml" →
      path.suffix ∈ suffixes format → ContentGives readers tree path format content outcome → FileGives outcome

end

variable {readers : Readers} {tree : Tree} {current : Place} {path : Path} {format : Format} {content text : String}
  {outcome : Except LoadError Values}

/-- What the reader of a format makes of a text is what is read. -/
theorem reads_iff {halves : Halves} {result : Except Refusal Value} :
    Reads readers halves text format result ↔ format.parse readers halves text = result := by
  constructor
  · intro reads
    cases reads with
    | toml | yaml => rfl
    | json parsed => simp [Format.parse, Format.parseJson, parsed]
    | noJson parsed ofText | stopped parsed ofText => simp [Format.parse, Format.parseJson, parsed, ofText]
  · rintro rfl
    cases format with
    | toml => exact .toml
    | yaml => exact .yaml
    | json =>
      unfold Format.parse Format.parseJson
      cases parsed : Json.parse text (.usual halves) with
      | ok value => exact .json parsed
      | error fault =>
        cases ofText : fault.cause.isOfText with
        | true => simpa [ofText] using Reads.noJson parsed ofText
        | false => simpa [ofText] using Reads.stopped parsed ofText

/-- The values of a file are what its content gives. -/
theorem contentGives_iff :
    ContentGives readers tree path format content outcome ↔
      valuesOf readers tree path format content = outcome := by
  unfold valuesOf
  rcases tree.textOf_eq path content with ⟨isText, asText⟩ | ⟨noText, asText⟩
  · rw [asText]
    simp only [mapError_ok, bind, Except.bind]
    constructor
    · intro gives
      cases gives with
      | noText noText => exact absurd isText noText
      | malformed _ reads | stopped _ reads | empty _ reads | values _ reads => rw [reads_iff.mp reads]; rfl
      | @notAMapping found _ reads notNull noTable =>
        rw [reads_iff.mp reads]
        cases found with
        | null => exact absurd rfl notNull
        | table members => exact absurd rfl (noTable members)
        | _ => rfl
    · rintro rfl
      cases parsed : format.parse readers tree.halves (Text.unifyNewlines content) with
      | error refusal =>
        cases refusal with
        | malformed detail => exact .malformed isText (reads_iff.mpr parsed)
        | stopped detail => exact .stopped isText (reads_iff.mpr parsed)
      | ok value =>
        cases value with
        | null => exact .empty isText (reads_iff.mpr parsed)
        | table members => exact .values isText (reads_iff.mpr parsed)
        | _ => exact .notAMapping isText (reads_iff.mpr parsed) nofun nofun
  · rw [asText]
    constructor
    · intro gives
      cases gives with
      | noText => rfl
      | malformed isText | stopped isText | empty isText | values isText | notAMapping isText =>
        exact absurd isText noText
    · rintro rfl
      exact .noText noText

/-- The section of a project file is what its values give. -/
theorem sectionGives_iff {project : Values} :
    SectionGives path project outcome ↔ sectionOf path project = outcome := by
  unfold sectionOf sectionName
  constructor
  · intro gives
    cases gives with
    | noTools atTool => rw [atTool]
    | noSection atTool atSection | values atTool atSection => simp [atTool, atSection]
    | notATable atTool atSection => simp only [atTool, atSection]
    | @noSections found atTool noTable =>
      rw [atTool]
      cases found with
      | table tools => exact absurd rfl (noTable tools)
      | _ => rfl
  · rintro rfl
    cases atTool : Value.member? project "tool" with
    | none => exact .noTools atTool
    | some found =>
      cases found with
      | table tools =>
        dsimp only
        cases atSection : Value.member? tools "all2trac" with
        | none => exact .noSection atTool atSection
        | some inside =>
          cases inside with
          | table values => exact .values atTool atSection
          | _ => exact .notATable atTool atSection nofun
      | _ => exact .noSections atTool nofun

/-- The values of a project file are what its content gives. -/
theorem projectGives_iff :
    ProjectGives readers tree path content outcome ↔ projectValuesOf readers tree path content = outcome := by
  unfold projectValuesOf
  constructor
  · intro gives
    cases gives with
    | unread gives =>
      rw [contentGives_iff.mp gives]
      rfl
    | read gives inSection =>
      rw [contentGives_iff.mp gives]
      exact sectionGives_iff.mp inSection
  · rintro rfl
    cases given : valuesOf readers tree path .toml content with
    | error error => exact .unread (contentGives_iff.mpr given)
    | ok project => exact .read (contentGives_iff.mpr given) (sectionGives_iff.mpr rfl)

/-- Formats are told by their suffixes. -/
theorem ofSuffix?_eq_some {suffix : String} :
    Format.ofSuffix? suffix = some format ↔ suffix ∈ suffixes format := by
  unfold Format.ofSuffix?
  split <;> cases format <;> simp_all [suffixes]

/-- The settings of a file are what its path gives. -/
theorem fileGives_iff :
    FileGives readers tree current path outcome ↔ load readers tree current path = outcome := by
  unfold load isProjectFile projectFileName
  constructor
  · intro gives
    cases gives with
    | unreachable looked | missing looked | notAFile looked =>
      rw [looked]
      rfl
    | project looked isProject gives =>
      simp only [looked, mapError_ok, bind, Except.bind, isProject, BEq.rfl, if_true]
      exact projectGives_iff.mp gives
    | unsupported looked noProject noFormat =>
      have unknown : Format.ofSuffix? path.suffix = none :=
        Option.eq_none_iff_forall_not_mem.mpr fun format known => noFormat format (ofSuffix?_eq_some.mp known)
      simp only [looked, mapError_ok, bind, Except.bind, beq_iff_eq, noProject, if_false, unknown]
      rfl
    | content looked noProject suffix gives =>
      simp only [looked, mapError_ok, bind, Except.bind, beq_iff_eq, noProject, if_false, ofSuffix?_eq_some.mpr suffix]
      exact contentGives_iff.mp gives
  · rintro rfl
    cases looked : tree.look current path with
    | error fault => exact .unreachable looked
    | ok found =>
      cases found with
      | none => exact .missing looked
      | some entry =>
        cases entry with
        | directory => exact .notAFile looked
        | file content =>
          simp only [mapError_ok, bind, Except.bind, beq_iff_eq]
          split
          case isTrue isProject => exact .project looked isProject (projectGives_iff.mpr rfl)
          case isFalse noProject =>
            cases known : Format.ofSuffix? path.suffix with
            | some format => exact .content looked noProject (ofSuffix?_eq_some.mp known) (contentGives_iff.mpr rfl)
            | none =>
              refine .unsupported looked noProject fun format suffix => ?_
              rw [ofSuffix?_eq_some.mpr suffix] at known
              cases known

/-- A path gives one outcome. -/
theorem FileGives.unique {other : Except LoadError Values} (gives : FileGives readers tree current path outcome)
    (again : FileGives readers tree current path other) : outcome = other :=
  (fileGives_iff.mp gives).symm.trans (fileGives_iff.mp again)

end Settings

end OutlineWiki
