import OutlineWiki.Proofs.AcceptedTrees

/-!
# Where reading a tree ends

Reading a text either gives a tree or fails in one of three stages, and each of the four outcomes belongs
to texts of one description: those that are no JSON object, those with another schema version, those whose
object describes no tree, and the others.
-/

namespace OutlineWiki

/-! ## Texts by the object they stand for -/

/-- An object is of the supported schema version, or of none. -/
def SupportedVersion (members : List (String × Json)) : Prop :=
  ∀ version ∈ Json.member? members "schema_version", version.number? = some 1

/-- A text stands for an object of the supported version that describes a tree. -/
def DescribesSource (strictness : Strictness) (Beside : List (String × Json) → Prop) (text : String) :
    Prop :=
  ∃ members, Json.Spells text (.object members) ∧ SupportedVersion members ∧
    DescribesTree strictness Beside (.object members)

/-- The version is looked at as a number, and one that is missing counts as the supported one. -/
theorem supportedVersion_iff {members : List (String × Json)} :
    SupportedVersion members ↔
      ((Json.member? members "schema_version").getD (.int schemaVersion)).isOne = true := by
  unfold SupportedVersion
  cases Json.member? members "schema_version" with
  | none => simp [Json.isOne, schemaVersion]
  | some version => simp [Json.isOne_iff]

/-- A text is no JSON, or it stands for something else than an object. -/
def NoObject (text : String) : Prop :=
  (∀ value, ¬ Json.Spells text value) ∨ ∃ value, Json.Spells text value ∧ ¬ value.IsObject

/-- A text stands for an object of another schema version. -/
def OtherVersion (text : String) : Prop :=
  ∃ members, Json.Spells text (.object members) ∧ ¬ SupportedVersion members

/-- A text stands for an object of the supported version that describes no tree. -/
def NoTree (strictness : Strictness) (text : String) : Prop :=
  ∃ members, Json.Spells text (.object members) ∧ SupportedVersion members ∧
    ¬ DescribesTree strictness (BesideFits (·.isTruthy = true)) (.object members)

/-- Every text is of one of the four descriptions. -/
theorem described (strictness : Strictness) (text : String) :
    NoObject text ∨ OtherVersion text ∨ NoTree strictness text ∨
      DescribesSource strictness (BesideFits (·.isTruthy = true)) text := by
  by_cases isObject : ∃ members, Json.Spells text (.object members)
  · obtain ⟨members, spelled⟩ := isObject
    by_cases supported : SupportedVersion members
    · by_cases describes : DescribesTree strictness (BesideFits (·.isTruthy = true)) (.object members)
      · exact .inr (.inr (.inr ⟨members, spelled, supported, describes⟩))
      · exact .inr (.inr (.inl ⟨members, spelled, supported, describes⟩))
    · exact .inr (.inl ⟨members, spelled, supported⟩)
  · refine .inl ?_
    by_cases isJson : ∃ value, Json.Spells text value
    · obtain ⟨value, spelled⟩ := isJson
      refine .inr ⟨value, spelled, ?_⟩
      rintro ⟨members, rfl⟩
      exact isObject ⟨members, spelled⟩
    · exact .inl (not_exists.mp isJson)

/-! ## The outcome for each description -/

/-- Reading a text fails in the stage of a name. -/
def FailsIn (strictness : Strictness) (text : String) (stage : String) : Prop :=
  ∃ error, Node.parse strictness text = .error error ∧ error.stage.name = stage

namespace Node

variable {strictness : Strictness} {text : String} {members : List (String × Json)}

/-- A text that stands for nothing is no JSON. -/
theorem parse_notJson (noJson : ∀ value, ¬ Json.Spells text value) :
    ∃ fault, parse strictness text = .error (.notJson fault) := by
  cases json_read : Json.parse text with
  | ok value => exact absurd (Json.parse_eq_ok.mp json_read) (noJson value)
  | error fault => exact ⟨fault, by rw [parse, json_read]; rfl⟩

/-- A text that stands for something else than an object is refused as that. -/
theorem parse_noObject {value : Json} (spelled : Json.Spells text value) (noObject : ¬ value.IsObject) :
    parse strictness text = .error .notAnObject := by
  rw [parse, Json.parse_eq_ok.mpr spelled]
  cases value with
  | object members => exact absurd ⟨members, rfl⟩ noObject
  | _ => rfl

/-- An object of another version is refused as that. -/
theorem parse_unsupported (spelled : Json.Spells text (.object members))
    (unsupported : ¬ SupportedVersion members) :
    ∃ version, parse strictness text = .error (.schemaVersion version) := by
  refine ⟨(Json.member? members "schema_version").getD (.int schemaVersion), ?_⟩
  rw [parse, Json.parse_eq_ok.mpr spelled]
  simp only [mapError_ok, bind, Except.bind, ofSource, if_neg (mt supportedVersion_iff.mpr unsupported)]

/-- An object of the supported version is read as a tree, its version aside. -/
theorem parse_supported (spelled : Json.Spells text (.object members))
    (supported : SupportedVersion members) :
    parse strictness text =
      (ofJson strictness (.object (Json.dropMember members "schema_version"))).mapError .notATree := by
  rw [parse, Json.parse_eq_ok.mpr spelled]
  simp only [mapError_ok, bind, Except.bind, ofSource, if_pos (supportedVersion_iff.mp supported)]

/-- An object of the supported version is read as a tree exactly when it describes one. -/
theorem ofJson_isOk :
    (∃ node, ofJson strictness (.object (Json.dropMember members "schema_version")) = .ok node) ↔
      DescribesTree strictness (BesideFits (·.isTruthy = true)) (.object members) := by
  rw [← describesTree_dropMember, ← decode_isOk]
  constructor
  · rintro ⟨node, isRead⟩
    obtain ⟨decoded, decoded_read, -⟩ := map_eq_ok.mp isRead
    exact ⟨decoded, decoded_read⟩
  · rintro ⟨decoded, decoded_read⟩
    exact ⟨decoded.numbered, map_eq_ok.mpr ⟨decoded, decoded_read, rfl⟩⟩

/-- A text that describes a tree is read as one. -/
theorem parse_describes (describes : DescribesSource strictness (BesideFits (·.isTruthy = true)) text) :
    ∃ node, parse strictness text = .ok node := by
  obtain ⟨members, spelled, supported, describes⟩ := describes
  obtain ⟨node, isRead⟩ := ofJson_isOk.mpr describes
  exact ⟨node, by rw [parse_supported spelled supported, isRead]; rfl⟩

end Node

/-- A text that stands for no object fails while it is decoded. -/
theorem NoObject.fails {text : String} (noObject : NoObject text) (strictness : Strictness) :
    FailsIn strictness text "json_decode" := by
  rcases noObject with noJson | ⟨value, spelled, noObject⟩
  · obtain ⟨fault, refused⟩ := Node.parse_notJson noJson
    exact ⟨.notJson fault, refused, rfl⟩
  · exact ⟨.notAnObject, Node.parse_noObject spelled noObject, rfl⟩

/-- An object of another version fails while its version is looked at. -/
theorem OtherVersion.fails {text : String} (other : OtherVersion text) (strictness : Strictness) :
    FailsIn strictness text "schema_validation" := by
  obtain ⟨members, spelled, unsupported⟩ := other
  obtain ⟨version, refused⟩ := Node.parse_unsupported spelled unsupported
  exact ⟨.schemaVersion version, refused, rfl⟩

/-- An object that describes no tree fails while its nodes are made. -/
theorem NoTree.fails {strictness : Strictness} {text : String} (noTree : NoTree strictness text) :
    FailsIn strictness text "node_construction" := by
  obtain ⟨members, spelled, supported, notDescribed⟩ := noTree
  cases isRead : Node.ofJson strictness (.object (Json.dropMember members "schema_version")) with
  | ok node => exact absurd (Node.ofJson_isOk.mp ⟨node, isRead⟩) notDescribed
  | error error =>
    exact ⟨.notATree error, by rw [Node.parse_supported spelled supported, isRead]; rfl, rfl⟩

/-- Reading fails in one stage only. -/
theorem FailsIn.unique {strictness : Strictness} {text stage other : String}
    (fails : FailsIn strictness text stage) (failsOther : FailsIn strictness text other) :
    stage = other := by
  obtain ⟨error, refused, rfl⟩ := fails
  obtain ⟨same, refusedOther, rfl⟩ := failsOther
  rw [Except.error.inj (refused.symm.trans refusedOther)]

/-- A text that is read fails in no stage. -/
theorem not_failsIn_of_ok {strictness : Strictness} {text stage : String}
    (isRead : ∃ node, Node.parse strictness text = .ok node) : ¬ FailsIn strictness text stage := by
  rintro ⟨error, refused, -⟩
  obtain ⟨node, isRead⟩ := isRead
  rw [isRead] at refused
  cases refused

/-- The stage in which reading a text fails is that of the text's description. -/
theorem FailsIn.description {strictness : Strictness} {text stage : String}
    (fails : FailsIn strictness text stage) :
    stage = "json_decode" ∧ NoObject text ∨ stage = "schema_validation" ∧ OtherVersion text ∨
      stage = "node_construction" ∧ NoTree strictness text := by
  rcases described strictness text with noObject | other | noTree | describes
  · exact .inl ⟨fails.unique (noObject.fails strictness), noObject⟩
  · exact .inr (.inl ⟨fails.unique (other.fails strictness), other⟩)
  · exact .inr (.inr ⟨fails.unique noTree.fails, noTree⟩)
  · exact absurd fails (not_failsIn_of_ok (Node.parse_describes describes))

/-- A text is read as a tree exactly when it describes one. -/
theorem Node.parse_isOk {strictness : Strictness} {text : String} :
    (∃ node, parse strictness text = .ok node) ↔
      DescribesSource strictness (BesideFits (·.isTruthy = true)) text := by
  refine ⟨fun isRead => ?_, parse_describes⟩
  rcases described strictness text with noObject | other | noTree | describes
  · exact absurd (noObject.fails strictness) (not_failsIn_of_ok isRead)
  · exact absurd (other.fails strictness) (not_failsIn_of_ok isRead)
  · exact absurd noTree.fails (not_failsIn_of_ok isRead)
  · exact describes

/-! ## Reading as a whole -/

/-- Reading a text gives a tree or fails in one of three stages. It fails while the text is decoded
exactly when that is no JSON or no object, while the version is looked at exactly when the object has
another one, and while nodes are made exactly when the object describes no tree. -/
theorem parsing_stages (strictness : Strictness) (text : String) :
    ((∃ node, Node.parse strictness text = .ok node) ∨ FailsIn strictness text "json_decode" ∨
      FailsIn strictness text "schema_validation" ∨ FailsIn strictness text "node_construction") ∧
    (FailsIn strictness text "json_decode" ↔ NoObject text) ∧
    (FailsIn strictness text "schema_validation" ↔ OtherVersion text) ∧
    (FailsIn strictness text "node_construction" ↔ NoTree strictness text) := by
  refine ⟨?_, ⟨fun fails => ?_, (·.fails strictness)⟩, ⟨fun fails => ?_, (·.fails strictness)⟩,
    ⟨fun fails => ?_, (·.fails)⟩⟩
  · rcases described strictness text with noObject | other | noTree | describes
    · exact .inr (.inl (noObject.fails strictness))
    · exact .inr (.inr (.inl (other.fails strictness)))
    · exact .inr (.inr (.inr noTree.fails))
    · exact .inl (Node.parse_describes describes)
  · simpa using fails.description
  · simpa using fails.description
  · simpa using fails.description

/-- A text describes a tree by two rules together exactly when it does by each of them. -/
theorem describesSource_and {strictness : Strictness} {Beside Other : List (String × Json) → Prop}
    {text : String} :
    DescribesSource strictness (fun members => Beside members ∧ Other members) text ↔
      DescribesSource strictness Beside text ∧ DescribesSource strictness Other text := by
  constructor
  · rintro ⟨members, spelled, supported, describes⟩
    obtain ⟨left, right⟩ := describesTree_and.mp describes
    exact ⟨⟨members, spelled, supported, left⟩, members, spelled, supported, right⟩
  · rintro ⟨⟨members, spelled, supported, describes⟩, others, spelledOther, -, describesOther⟩
    obtain rfl := Json.object.inj (spelled.unique spelledOther)
    exact ⟨members, spelled, supported, describesTree_and.mpr ⟨describes, describesOther⟩⟩

/-- A strict reader gives a tree exactly for the texts that describe one, where everything beside the
fields that counts as true has to fit, and an error for all others. By the rule that only null stands for
nothing fewer texts describe a tree: those that are read and in which no node object has an empty
stand-in. -/
theorem accepted_texts (text : String) :
    ((∃ node, Node.parse .strict text = .ok node) ↔
      DescribesSource .strict (BesideFits (·.isTruthy = true)) text) ∧
    ((∃ error, Node.parse .strict text = .error error) ↔
      ¬ DescribesSource .strict (BesideFits (·.isTruthy = true)) text) ∧
    (DescribesSource .strict (BesideFits (· ≠ .null)) text ↔
      (∃ node, Node.parse .strict text = .ok node) ∧
        DescribesSource .strict (fun members => ¬ EmptyStandIn members) text) := by
  refine ⟨Node.parse_isOk, ?_, ?_⟩
  · rw [← Node.parse_isOk]
    cases Node.parse .strict text <;> simp
  · have rules : BesideFits (· ≠ .null) =
        fun members => BesideFits (·.isTruthy = true) members ∧ ¬ EmptyStandIn members :=
      funext fun members => propext besideFits_notNull
    rw [rules, describesSource_and, Node.parse_isOk]

/-- A document with a list that is empty under `metadata` is read, and does not describe a tree by the rule
that only null stands for nothing. -/
theorem empty_list_read_as_metadata :
    Node.parse .strict "\x7b\"node_type\":\"Document\",\"metadata\":[]\x7d" = .ok (.document {} []) ∧
      ¬ DescribesSource .strict (BesideFits (· ≠ .null))
        "\x7b\"node_type\":\"Document\",\"metadata\":[]\x7d" := by
  have characters : "\x7b\"node_type\":\"Document\",\"metadata\":[]\x7d".toList =
      ['\x7b', '"', 'n', 'o', 'd', 'e', '_', 't', 'y', 'p', 'e', '"', ':', '"', 'D', 'o', 'c', 'u', 'm', 'e', 'n',
        't', '"', ',', '"', 'm', 'e', 't', 'a', 'd', 'a', 't', 'a', '"', ':', '[', ']', '\x7d'] := by
    simp
  have json_read : Json.parse "\x7b\"node_type\":\"Document\",\"metadata\":[]\x7d" =
      .ok (.object [("node_type", .string "Document"), ("metadata", .array [])]) := by
    rw [Json.parse, characters]
    rfl
  constructor
  · rw [Node.parse, json_read]
    rfl
  · rintro ⟨members, spelled, -, describes⟩
    obtain rfl := Json.object.inj ((Json.parse_eq_ok.mp json_read).unique spelled)
    cases describes with
    | node _ _ _ _ beside =>
      obtain ⟨members, isObject⟩ := beside.metadata (.array []) rfl (by simp)
      cases isObject
    | unknown lenient => cases lenient

end OutlineWiki
