import OutlineWiki.Proofs.JsonReadings
import OutlineWiki.Proofs.TreeReadings

/-!
# Trees read back from their source

A tree is written as the JSON text of its object and read back from that text. The keys of tables and
rows are no part of the text, so a tree comes back with the value it had.
-/

namespace OutlineWiki

/-- A member that can be left out has its own key, or none. -/
theorem keys_optionalMember (key : String) (value : Json) :
    ((optionalMember key value).map (·.1)).Sublist [key] := by
  cases value <;> simp [optionalMember]

/-- Metadata has its own key, or none. -/
theorem keys_metadataMember (metadata : List (String × Json)) :
    ((metadataMember metadata).map (·.1)).Sublist ["metadata"] := by
  cases metadata <;> simp [metadataMember]

/-- A location that is determined by its text has an object that is. -/
theorem SourceLocation.Exact.exact_toJson {location : SourceLocation} (exact : location.Exact) :
    location.toJson.Exact := by
  obtain ⟨line, column, metadata⟩ := exact
  rw [SourceLocation.toJson, Json.exact_object_iff]
  constructor
  · have keys : ((("format", Json.string location.format) :: (optionalMember "line" location.line ++
        optionalMember "column" location.column ++ metadataMember location.metadata)).map (·.1)).Sublist
        ["format", "line", "column", "metadata"] := by
      simp only [List.map_cons, List.map_append]
      exact (((keys_optionalMember "line" location.line).append
        (keys_optionalMember "column" location.column)).append
          (keys_metadataMember location.metadata)).cons_cons "format"
    exact keys.nodup (by decide)
  · simp only [List.mem_cons, List.mem_append]
    rintro member (rfl | (inLine | inColumn) | inMetadata)
    · exact ⟨trivial, trivial⟩
    · cases value : location.line <;> simp_all [optionalMember]
    · cases value : location.column <;> simp_all [optionalMember]
    · cases value : location.metadata <;> simp_all [metadataMember]

/-- What a node carries beside its fields stands under two keys at most. -/
theorem Attributes.keys_members (attributes : Attributes) :
    (attributes.members.map (·.1)).Sublist ["metadata", "source_location"] := by
  rw [Attributes.members, List.map_append]
  refine (keys_metadataMember attributes.metadata).append ?_
  cases attributes.location <;> simp

/-- What a node carries beside its fields has members that their texts determine. -/
theorem Attributes.Exact.exact_members {attributes : Attributes} (exact : attributes.Exact) :
    ∀ member ∈ attributes.members, member.2.Exact := by
  obtain ⟨metadata, location⟩ := exact
  rw [Attributes.members]
  simp only [List.mem_append, Option.mem_toList, Option.map_eq_some_iff]
  rintro member (inMetadata | ⟨location', isLocation, rfl⟩)
  · cases value : attributes.metadata <;> simp_all [metadataMember]
  · exact (location location' isLocation).exact_toJson

namespace Node

/-- The keys of a node's object are all different, also beside the version. -/
theorem nodup_keys (node : Node) : ("schema_version" :: node.members.map (·.1)).Nodup := by
  have keys : ("schema_version" :: node.members.map (·.1)).Sublist
      ("schema_version" :: "node_type" :: (node.fields.map (·.1) ++ ["metadata", "source_location"])) := by
    rw [members_eq, nodeMembers, List.map_cons, List.map_append]
    exact ((node.attributes.keys_members.append_left (node.fields.map (·.1))).cons_cons _).cons_cons _
  refine keys.nodup ?_
  cases node <;> simp [fields]

/-- A field of a node holds one of its values, the objects of its children or a plain text. -/
theorem mem_fields {node : Node} {member : String × Json} (inside : member ∈ node.fields) :
    member.2 ∈ node.values ∨ member.2 = .array (node.children.map toJson) ∨
      ∃ text, member.2 = .string text := by
  simp only [← toJsonAll_eq_map]
  cases node <;> simp_all [fields, values, children, toJsonAll] <;> grind

/-- A tree that can be stored has an object that its text determines. -/
theorem Storable.exact_toJson {node : Node} (storable : node.Storable) : node.toJson.Exact := by
  induction node using inductionChildren with
  | step node inductionHypothesis =>
    obtain ⟨⟨-, attributesExact, valuesExact⟩, childrenStorable⟩ := everywhere_iff.mp storable
    rw [Node.toJson, Json.exact_object_iff]
    refine ⟨(List.nodup_cons.mp node.nodup_keys).2, ?_⟩
    rw [members_eq, nodeMembers]
    simp only [List.mem_cons, List.mem_append]
    rintro member (rfl | inFields | inAttributes)
    · exact ⟨trivial, trivial⟩
    · rcases mem_fields inFields with isValue | isChildren | ⟨text, isText⟩
      · exact valuesExact member.2 isValue
      · rw [isChildren, Json.exact_array_iff]
        simp only [List.mem_map]
        rintro item ⟨child, inChildren, rfl⟩
        exact inductionHypothesis child inChildren (childrenStorable child inChildren)
      · rw [isText]
        exact ⟨trivial, trivial⟩
    · exact attributesExact.exact_members member inAttributes

/-- The root of a tree that can be stored has an object that its text determines. -/
theorem Storable.exact_toVersionedJson {node : Node} (storable : node.Storable) :
    node.toVersionedJson.Exact := by
  have exact := Json.exact_object_iff.mp storable.exact_toJson
  rw [Node.toVersionedJson, Json.exact_object_iff]
  refine ⟨node.nodup_keys, ?_⟩
  simp only [List.mem_cons]
  rintro member (rfl | inside)
  · exact ⟨trivial, trivial⟩
  · exact exact.2 member inside

/-- A stored tree is read back with the value it had, in either mode. -/
theorem Storable.parse_source {layout : Json.Layout} (blank : layout.Blank) (strictness : Strictness)
    {node : Node} (storable : node.Storable) :
    parse strictness (node.source layout) = .ok node.unkeyed.numbered := by
  have fits : node.Everywhere LevelFits := fun inner within => (storable inner within).1
  have version : Json.member? (("schema_version", .int schemaVersion) :: node.members)
      "schema_version" = some (.int schemaVersion) := Json.member?_cons_self ..
  have noVersion : "schema_version" ∉ node.members.map (·.1) := (List.nodup_cons.mp node.nodup_keys).1
  have dropped : Json.dropMember (("schema_version", .int schemaVersion) :: node.members)
      "schema_version" = node.members := by
    rw [Json.dropMember, List.filter_cons_of_neg (by simp), List.filter_eq_self]
    intro member inside
    have notVersion : member.1 ≠ "schema_version" := fun same =>
      noVersion (same ▸ List.mem_map_of_mem inside)
    simpa using notVersion
  have supported : (Json.int schemaVersion).isOne = true := rfl
  rw [parse, source, Json.parse_write blank storable.exact_toVersionedJson]
  simp [toVersionedJson, ofSource, version, dropped, supported, ofJson, decode_members strictness fits,
    Except.map, bind, Except.bind]

/-- The value of a text without doubles, less its version, describes a tree that can be stored. -/
theorem storable_of_parse {strictness : Strictness} {text : String} {node : Node}
    (isRead : parse strictness text = .ok node)
    (noFloats : ∀ value, Json.parse text = .ok value → value.Everywhere Json.NotFloat) :
    ∃ decoded : Node, decoded.Storable ∧ node.unkeyed = decoded.unkeyed := by
  obtain ⟨value, value_read, isRead⟩ := bind_eq_ok.mp isRead
  have value_parsed := mapError_eq_ok.mp value_read
  have exact : value.Exact := ⟨noFloats value value_parsed, Json.keysOnce_of_parse value_parsed⟩
  unfold ofSource at isRead
  split at isRead
  case h_2 => cases isRead
  case h_1 members =>
    simp only at isRead
    split at isRead
    case isFalse => cases isRead
    case isTrue =>
      obtain ⟨decoded, decoded_read, rfl⟩ := map_eq_ok.mp (mapError_eq_ok.mp isRead)
      have dropped : Json.Exact (.object (Json.dropMember members "schema_version")) := by
        obtain ⟨once, each⟩ := Json.exact_object_iff.mp exact
        have fewer : (Json.dropMember members "schema_version").Sublist members :=
          List.filter_sublist
        exact Json.exact_object_iff.mpr ⟨(fewer.map (·.1)).nodup once,
          fun member inside => each member (fewer.mem inside)⟩
      exact ⟨decoded, storable_of_decode dropped decoded_read, unkeyed_numbered decoded⟩

/-- A tree that can be stored comes back from its source with the value it had, in either mode and for
every indentation. A tree that was read from a text without doubles does so too, and then it has the
same source once more. -/
theorem parse_source_roundTrip {layout : Json.Layout} (blank : layout.Blank) :
    (∀ (strictness : Strictness) (node : Node), node.Storable →
      ∃ again, parse strictness (node.source layout) = .ok again ∧ again.unkeyed = node.unkeyed) ∧
    ∀ (strictness strictness' : Strictness) (text : String) (node : Node),
      parse strictness text = .ok node →
      (∀ value, Json.parse text = .ok value → value.Everywhere Json.NotFloat) →
        ∃ again, parse strictness' (node.source layout) = .ok again ∧ again.unkeyed = node.unkeyed ∧
          again.source layout = node.source layout := by
  have stored : ∀ (strictness : Strictness) (node : Node), node.Storable →
      ∃ again, parse strictness (node.source layout) = .ok again ∧ again.unkeyed = node.unkeyed := by
    intro strictness node storable
    refine ⟨_, storable.parse_source blank strictness, ?_⟩
    rw [unkeyed_numbered, unkeyed_unkeyed]
  refine ⟨stored, ?_⟩
  intro strictness strictness' text node isRead noFloats
  obtain ⟨decoded, storable, sameValue⟩ := storable_of_parse isRead noFloats
  obtain ⟨again, again_read, againValue⟩ := stored strictness' decoded storable
  have againSame : again.unkeyed = node.unkeyed := againValue.trans sameValue.symm
  refine ⟨again, ?_, againSame, source_congr layout againSame⟩
  rw [source_congr layout sameValue, again_read]

/-- A heading with metadata and a location without a column, on one line and back; and a text whose
version and attributes are left out, read leniently and read again strictly. -/
theorem parse_source_roundTrip_heading_and_break :
    (∃ again, parse .strict (source .compact
        (.heading ⟨[("tags", .array [.int 1, .null])], some { format := "org", line := .int 3 }⟩ (.int 2)
          [.text {} (.string "a\n\"b\"")])) = .ok again ∧
      again.unkeyed = .heading ⟨[("tags", .array [.int 1, .null])],
        some { format := "org", line := .int 3 }⟩ (.int 2) [.text {} (.string "a\n\"b\"")]) ∧
    ∃ again, parse .strict (source .compact (.thematicBreak {})) = .ok again ∧
      again.unkeyed = .thematicBreak {} ∧
        again.source .compact = source .compact (.thematicBreak {}) := by
  have blank : Json.Layout.compact.Blank := trivial
  constructor
  · refine (parse_source_roundTrip blank).1 .strict _ (everywhere_iff.mpr ⟨⟨rfl, ⟨?_, ?_⟩, ?_⟩, ?_⟩)
    · exact ⟨⟨trivial, ⟨trivial, trivial, trivial, trivial⟩, trivial⟩, by simp [Json.KeysOnce, Node.attributes],
        ⟨trivial, trivial, trivial, trivial⟩, trivial⟩
    · intro location isLocation
      obtain rfl := Option.some.inj isLocation
      exact ⟨⟨trivial, trivial⟩, ⟨trivial, trivial⟩, ⟨trivial, trivial⟩, List.nodup_nil, trivial⟩
    · simp [values, Json.Exact, Json.Everywhere, Json.NotFloat, Json.KeysOnce]
    · intro child inside
      obtain rfl := List.mem_singleton.mp inside
      refine everywhere_iff.mpr ⟨⟨trivial, ⟨?_, by simp [Node.attributes]⟩, ?_⟩, by simp [children]⟩
      · exact ⟨⟨trivial, trivial⟩, List.nodup_nil, trivial⟩
      · simp [values, Json.Exact, Json.Everywhere, Json.NotFloat, Json.KeysOnce]
  · have exact : Json.Exact (.object [("node_type", .string "ThematicBreak")]) :=
      ⟨⟨trivial, trivial, trivial⟩, by simp [Json.KeysOnce], trivial, trivial⟩
    have text_read := Json.parse_write blank exact
    refine (parse_source_roundTrip blank).2 .lenient .strict
      (Json.write .compact (.object [("node_type", .string "ThematicBreak")])) (.thematicBreak {}) ?_ ?_
    · rw [parse, text_read]
      rfl
    · intro value value_read
      obtain rfl := Except.ok.inj (text_read.symm.trans value_read)
      exact exact.1

end Node

end OutlineWiki
