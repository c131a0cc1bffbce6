import OutlineWiki.Document.Source
import OutlineWiki.Proofs.JsonValues
import OutlineWiki.Proofs.Trees

/-!
# Trees read back from their objects

A tree is written as an object, and its node kinds, fields and attributes are found again among the
members. Reading fills in what writing leaves out: metadata that is empty, a line or a column that is
not known.
-/

namespace OutlineWiki

/-! ## Trees that their text determines -/

/-- A source location whose text determines it. -/
def SourceLocation.Exact (location : SourceLocation) : Prop :=
  location.line.Exact ∧ location.column.Exact ∧ Json.Exact (.object location.metadata)

/-- What a node carries beside its fields is determined by its text. -/
def Attributes.Exact (attributes : Attributes) : Prop :=
  Json.Exact (.object attributes.metadata) ∧ ∀ location ∈ attributes.location, location.Exact

namespace Node

/-- The values in the own fields of a node. -/
def values : Node → List Json
  | .heading _ level _ => [level]
  | .codeBlock _ content language => [content, language]
  | .list _ ordered start _ => [ordered, start]
  | .text _ content | .code _ content => [content]
  | .link _ url _ => [url]
  | .image _ url alternative => [url, alternative]
  | .lineBreak _ soft => [soft]
  | .document .. | .paragraph .. | .blockQuote .. | .listItem .. | .table .. | .tableRow ..
  | .ruleRow .. | .tableCell .. | .thematicBreak .. | .styled .. => []

/-- A heading has a level that a heading can have. -/
def LevelFits : Node → Prop
  | .heading _ level _ => checkLevel level = .ok ()
  | _ => True

/-- A tree that can be stored as text: its values are determined by their texts, whatever kinds of
values they are, and the levels of its headings are levels. -/
def Storable (node : Node) : Prop :=
  node.Everywhere fun inner =>
    inner.LevelFits ∧ inner.attributes.Exact ∧ ∀ value ∈ inner.values, value.Exact

/-! ## The object of a node -/

/-- The members for the own fields of a node. -/
def fields : Node → List (String × Json)
  | .document _ children | .blockQuote _ children | .listItem _ children =>
    [("children", .array (toJsonAll children))]
  | .heading _ level content => [("level", level), ("content", .array (toJsonAll content))]
  | .paragraph _ content | .tableCell _ content | .styled _ _ content =>
    [("content", .array (toJsonAll content))]
  | .codeBlock _ content language => [("content", content), ("language", language)]
  | .list _ ordered start items =>
    [("ordered", ordered), ("items", .array (toJsonAll items)), ("start", start)]
  | .table _ _ rows => [("rows", .array (toJsonAll rows))]
  | .tableRow _ _ cells => [("cells", .array (toJsonAll cells)), ("row_type", .string "standard")]
  | .ruleRow _ _ => [("cells", .array []), ("row_type", .string "rule")]
  | .thematicBreak _ => []
  | .text _ content | .code _ content => [("content", content)]
  | .link _ url content => [("url", url), ("content", .array (toJsonAll content))]
  | .image _ url alternative => [("url", url), ("alt_text", alternative)]
  | .lineBreak _ soft => [("soft", soft)]

/-- A node's object holds its kind, its fields and what it carries beside them. -/
theorem members_eq (node : Node) :
    node.members = nodeMembers node.kind node.fields node.attributes := by
  cases node <;> simp [members, kind, fields, attributes]

/-- The objects of a list of nodes, one for each. -/
theorem toJsonAll_eq_map (nodes : List Node) : toJsonAll nodes = nodes.map toJson := by
  induction nodes with
  | nil => rfl
  | cons node rest inductionHypothesis => rw [toJsonAll, inductionHypothesis, List.map_cons, toJson]

/-- Keys leave no trace in a node's object. -/
theorem members_unkeyed (node : Node) : node.unkeyed.members = node.members := by
  induction node using inductionChildren with
  | step node inductionHypothesis =>
    have same : toJsonAll (unkeyedAll node.children) = toJsonAll node.children := by
      simp only [toJsonAll_eq_map, unkeyedAll_eq_map, List.map_map]
      refine List.map_congr_left fun child inside => ?_
      simp [toJson, inductionHypothesis child inside]
    cases node <;> simp_all [unkeyed, members, children]

/-- Trees of the same value have the same source. -/
theorem source_congr (layout : Json.Layout) {node other : Node} (same : node.unkeyed = other.unkeyed) :
    node.source layout = other.source layout := by
  have sameMembers : node.members = other.members := by
    rw [← members_unkeyed node, same, members_unkeyed other]
  rw [source, source, toVersionedJson, toVersionedJson, sameMembers]

end Node

/-! ## Finding members -/

/-- A value that is found under a key is a member with that key. -/
theorem Json.mem_of_member? {members : List (String × Json)} {key : String} {value : Json}
    (found : Json.member? members key = some value) : (key, value) ∈ members := by
  obtain ⟨⟨name, _⟩, isFound, rfl⟩ := Option.map_eq_some_iff.mp found
  obtain rfl : name = key := by simpa using List.find?_some isFound
  exact List.mem_of_find?_eq_some isFound

/-- A member of a joined list is the one of the first part, if there is one. -/
theorem Json.member?_append (first second : List (String × Json)) (key : String) :
    Json.member? (first ++ second) key =
      (Json.member? first key).or (Json.member? second key) := by
  simp only [Json.member?, List.find?_append]
  cases first.find? fun member => member.1 == key <;> rfl

/-- A member is found under its own key. -/
@[simp] theorem Json.member?_cons_self (key : String) (value : Json) (rest : List (String × Json)) :
    Json.member? ((key, value) :: rest) key = some value := by
  simp [Json.member?]

/-- A member under another key is passed over. -/
theorem Json.member?_cons_of_ne {key other : String} (different : key ≠ other) (value : Json)
    (rest : List (String × Json)) :
    Json.member? ((key, value) :: rest) other = Json.member? rest other := by
  simp [Json.member?, different]

/-- Metadata is found as it was written, or not at all when it is empty. -/
theorem member?_metadataMember (metadata : List (String × Json)) :
    Json.member? (metadataMember metadata) "metadata" =
      if metadata = [] then none else some (.object metadata) := by
  cases metadata <;> simp [metadataMember, Json.member?]

/-- Metadata stands under no other key. -/
theorem member?_metadataMember_of_ne (metadata : List (String × Json)) {key : String}
    (different : "metadata" ≠ key) : Json.member? (metadataMember metadata) key = none := by
  cases metadata <;> simp [metadataMember, Json.member?, different]

/-- A member that is left out when it is null counts as null then. -/
theorem member?_optionalMember (key : String) (value : Json) :
    (Json.member? (optionalMember key value) key).getD .null = value := by
  cases value <;> simp [optionalMember, Json.member?]

/-- A member that can be left out stands under no other key. -/
theorem member?_optionalMember_of_ne {key other : String} (different : key ≠ other) (value : Json) :
    Json.member? (optionalMember key value) other = none := by
  cases value <;> simp [optionalMember, Json.member?, different]

/-! ## Reading the object of a node -/

/-- A written source location is read back. -/
theorem SourceLocation.ofJson_toJson (location : SourceLocation) :
    SourceLocation.ofJson location.toJson = .ok location := by
  have line := member?_optionalMember "line" location.line
  have column := member?_optionalMember "column" location.column
  have noLine := fun key (different : "line" ≠ key) =>
    member?_optionalMember_of_ne different location.line
  have noColumn := fun key (different : "column" ≠ key) =>
    member?_optionalMember_of_ne different location.column
  have noMetadata := fun key (different : "metadata" ≠ key) =>
    member?_metadataMember_of_ne location.metadata different
  unfold SourceLocation.ofJson SourceLocation.toJson
  simp only [Json.member?_cons_self]
  simp only [Json.member?_cons_of_ne (show "format" ≠ "metadata" by decide),
    Json.member?_cons_of_ne (show "format" ≠ "line" by decide),
    Json.member?_cons_of_ne (show "format" ≠ "column" by decide), Json.member?_append,
    noLine "metadata" (by decide), noLine "column" (by decide), noColumn "metadata" (by decide),
    noColumn "line" (by decide), noMetadata "line" (by decide), noMetadata "column" (by decide),
    member?_metadataMember, Option.or_none, Option.none_or, line, column]
  by_cases empty : location.metadata = []
  · obtain ⟨format, line, column, metadata⟩ := location
    obtain rfl : metadata = [] := empty
    rfl
  · rw [if_neg empty]
    rfl

/-- The object of a source location counts as one: it has a format at least. -/
theorem SourceLocation.isTruthy_toJson (location : SourceLocation) : location.toJson.isTruthy = true := by
  simp [SourceLocation.toJson, Json.isTruthy]

/-- What a node carries beside its fields is read back from its object. -/
theorem Attributes.ofMembers_nodeMembers (kind : Kind) {fields : List (String × Json)}
    (noMetadata : Json.member? fields "metadata" = none)
    (noLocation : Json.member? fields "source_location" = none) (attributes : Attributes) :
    Attributes.ofMembers kind (nodeMembers kind fields attributes) = .ok attributes := by
  obtain ⟨metadata, location⟩ := attributes
  have metadataFound : Json.member? (nodeMembers kind fields ⟨metadata, location⟩) "metadata" =
      if metadata = [] then none else some (.object metadata) := by
    rw [nodeMembers, Json.member?_cons_of_ne (by decide), Json.member?_append, noMetadata,
      Option.none_or, Attributes.members, Json.member?_append, member?_metadataMember]
    cases location <;> simp [Json.member?]
  have locationFound : Json.member? (nodeMembers kind fields ⟨metadata, location⟩)
      "source_location" = location.map SourceLocation.toJson := by
    rw [nodeMembers, Json.member?_cons_of_ne (by decide), Json.member?_append, noLocation,
      Option.none_or, Attributes.members, Json.member?_append,
      member?_metadataMember_of_ne metadata (by decide), Option.none_or]
    cases location <;> simp [Json.member?]
  have nothing : Json.null.isTruthy = false := rfl
  unfold Attributes.ofMembers
  rw [metadataFound, locationFound]
  by_cases empty : metadata = []
  · subst empty
    cases location with
    | none => rfl
    | some location =>
      simp [location.isTruthy_toJson, SourceLocation.ofJson_toJson, bind, Except.bind, pure, Except.pure,
        Functor.map, Except.map, nothing]
  · cases location with
    | none => simp [empty, nothing, bind, Except.bind, pure, Except.pure]
    | some location =>
      simp [empty, location.isTruthy_toJson, SourceLocation.ofJson_toJson, bind, Except.bind, pure, Except.pure,
        Functor.map, Except.map]

/-- The kind of a node is read back from its object. -/
theorem kindOf?_nodeMembers (kind : Kind) (fields : List (String × Json)) (attributes : Attributes) :
    kindOf? (nodeMembers kind fields attributes) = some kind := by
  simp [kindOf?, nodeMembers]

namespace Node

/-- A list of trees is decoded tree by tree. -/
theorem decodeAll_map {strictness : Strictness} {Item : Type} {items : List Item} {toValue : Item → Json}
    {toNode : Item → Node}
    (each : ∀ item ∈ items, decode strictness (toValue item) = .ok (toNode item)) :
    decodeAll strictness (items.map toValue) = .ok (items.map toNode) := by
  induction items with
  | nil => rfl
  | cons item rest inductionHypothesis =>
    rw [List.map_cons, decodeAll, each item List.mem_cons_self,
      inductionHypothesis fun later inside => each later (List.mem_cons_of_mem item inside)]
    rfl

/-- The children under a field that holds a list are those decoded from that list. -/
theorem childrenUnder_array {strictness : Strictness} (kind : Kind) {members : List (String × Json)}
    {field : String} {items : List Json} (found : Json.member? members field = some (.array items)) :
    childrenUnder kind members (decodeLists strictness members) field = decodeAll strictness items := by
  have looked : (decodeLists strictness members).lookup field = some (decodeAll strictness items) := by
    induction members with
    | nil => simp [Json.member?] at found
    | cons member rest inductionHypothesis =>
      obtain ⟨key, value⟩ := member
      by_cases same : key = field
      · subst same
        rw [Json.member?_cons_self, Option.some.injEq] at found
        subst found
        simp [decodeLists]
      · rw [Json.member?_cons_of_ne same] at found
        have notSame : (field == key) = false := beq_eq_false_iff_ne.mpr (Ne.symm same)
        cases value <;> simp [decodeLists, List.lookup_cons, notSame, inductionHypothesis found]
  rw [childrenUnder, found, looked]
  rfl

/-- The fields of a node keep clear of the names of what any node can carry. -/
theorem member?_fields (node : Node) :
    Json.member? node.fields "metadata" = none ∧ Json.member? node.fields "source_location" = none := by
  cases node <;> exact ⟨rfl, rfl⟩

/-- A node's object holds each field of the node. -/
theorem member?_nodeMembers {kind : Kind} {fields : List (String × Json)} {attributes : Attributes}
    {field : String} {value : Json} (noKind : "node_type" ≠ field)
    (found : Json.member? fields field = some value) :
    Json.member? (nodeMembers kind fields attributes) field = some value := by
  rw [nodeMembers, Json.member?_cons_of_ne noKind, Json.member?_append, found, Option.some_or]

/-- A node's object lists its children under the field of its kind, if its kind has one. -/
theorem member?_members_childField {node : Node} {field : String}
    (isField : node.kind.childField? = some field) :
    Json.member? node.members field = some (.array (node.children.map toJson)) := by
  rw [members_eq, ← toJsonAll_eq_map]
  cases node with
  | styled attributes style content =>
    obtain rfl : "content" = field := by cases style <;> exact Option.some.inj isField
    exact member?_nodeMembers (by decide) rfl
  | codeBlock | thematicBreak | text | code | image | lineBreak => cases isField
  | _ =>
    obtain rfl := Option.some.inj isField
    exact member?_nodeMembers (by decide) rfl

/-- A node of a kind without children has none. -/
theorem children_eq_nil {node : Node} (noField : node.kind.childField? = none) : node.children = [] := by
  cases node with
  | styled attributes style content => cases style <;> cases noField
  | codeBlock | thematicBreak | text | code | image | lineBreak => rfl
  | _ => cases noField

/-- The own fields of a node are read back from its object. -/
theorem ofParts_members {node : Node} (fits : node.LevelFits) :
    ofParts node.kind node.members (unkeyedAll node.children) node.attributes = .ok node.unkeyed := by
  rw [members_eq]
  cases node with
  | heading attributes level content =>
    have levelFits : checkLevel level = .ok () := fits
    simp [ofParts, requiredField, nodeMembers, kind, fields, Json.member?, levelFits, unkeyed, children,
      Node.attributes, bind, Except.bind, pure, Except.pure]
  | styled attributes style content => cases style <;> rfl
  | ruleRow attributes key =>
    simp [ofParts, nodeMembers, kind, fields, Json.member?, unkeyed, unkeyedAll, children,
      Node.attributes]
  | tableRow attributes key cells =>
    simp [ofParts, nodeMembers, kind, fields, Json.member?, unkeyed, children, Node.attributes]
  | _ =>
    simp [ofParts, requiredField, nodeMembers, kind, fields, Json.member?, unkeyed, children,
      Node.attributes, bind, Except.bind, pure, Except.pure]

/-- A tree is decoded from its object, whatever its values are. -/
theorem decode_members (strictness : Strictness) {node : Node} (fits : node.Everywhere LevelFits) :
    decode strictness (.object node.members) = .ok node.unkeyed := by
  induction node using inductionChildren with
  | step node inductionHypothesis =>
    obtain ⟨ownFits, childrenFit⟩ := everywhere_iff.mp fits
    have children_read : decodeAll strictness (node.children.map toJson) =
        .ok (unkeyedAll node.children) := by
      rw [unkeyedAll_eq_map]
      exact decodeAll_map fun child inside => inductionHypothesis child inside (childrenFit child inside)
    have attributes_read : Attributes.ofMembers node.kind node.members = .ok node.attributes := by
      rw [members_eq]
      exact Attributes.ofMembers_nodeMembers node.kind node.member?_fields.1 node.member?_fields.2
        node.attributes
    have kind_read : kindOf? node.members = some node.kind := by
      rw [members_eq, kindOf?_nodeMembers]
    have parts_read := ofParts_members ownFits
    unfold decode ofMembers
    rw [kind_read]
    cases field : node.kind.childField? with
    | none =>
      rw [children_eq_nil field] at parts_read
      simpa [field, attributes_read, unkeyedAll, bind, Except.bind, pure, Except.pure] using parts_read
    | some field =>
      have under : childrenUnder node.kind node.members (decodeLists strictness node.members) _ =
          decodeAll strictness (node.children.map toJson) :=
        childrenUnder_array node.kind (member?_members_childField field)
      simpa [field, under, children_read, attributes_read, bind, Except.bind, pure, Except.pure]
        using parts_read

end Node

end OutlineWiki
