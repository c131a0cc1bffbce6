import OutlineWiki.Proofs.TreeObjects

/-!
# Trees that were read

A tree that was read from an object whose text determines it is one that its own text determines: what
it carries was among the members, or is what reading fills in.
-/

namespace OutlineWiki

/-- A member that is found is one of the members. -/
theorem Json.exact_of_member? {members : List (String × Json)} (exact : Json.Exact (.object members))
    {key : String} {value : Json} (found : Json.member? members key = some value) : value.Exact := by
  obtain ⟨member, isFound, rfl⟩ := Option.map_eq_some_iff.mp found
  exact (Json.exact_object_iff.mp exact).2 member (List.mem_of_find?_eq_some isFound)

/-- A member that is looked up is determined by its text, if what stands in for it is. -/
theorem Json.exact_member?_getD {members : List (String × Json)} (exact : Json.Exact (.object members))
    (key : String) {default : Json} (defaultExact : default.Exact) :
    ((Json.member? members key).getD default).Exact := by
  cases found : Json.member? members key with
  | none => exact defaultExact
  | some value => exact Json.exact_of_member? exact found

/-- A scalar other than a double is determined by its text. -/
theorem Json.exact_scalars : Json.null.Exact ∧ (∀ value, (Json.bool value).Exact) ∧
    (∀ value, (Json.int value).Exact) ∧ (∀ value, (Json.string value).Exact) ∧
      Json.Exact (.object []) :=
  ⟨⟨trivial, trivial⟩, fun _ => ⟨trivial, trivial⟩, fun _ => ⟨trivial, trivial⟩,
    fun _ => ⟨trivial, trivial⟩, ⟨trivial, trivial⟩, List.nodup_nil, trivial⟩

/-- A location that is read from a value determined by its text is determined by its text. -/
theorem SourceLocation.exact_of_ofJson {value : Json} (exact : value.Exact) {location : SourceLocation}
    (isRead : SourceLocation.ofJson value = .ok location) : location.Exact := by
  obtain ⟨nullExact, -, -, -, emptyExact⟩ := Json.exact_scalars
  unfold SourceLocation.ofJson at isRead
  split at isRead
  · split at isRead
    · split at isRead
      case h_1 members _ _ _ _ metadata isMetadata =>
        obtain rfl := Except.ok.inj isRead
        have metadataExact := Json.exact_member?_getD exact "metadata" emptyExact
        rw [isMetadata] at metadataExact
        exact ⟨Json.exact_member?_getD exact "line" nullExact,
          Json.exact_member?_getD exact "column" nullExact, metadataExact⟩
      case h_2 => cases isRead
    · cases isRead
  · cases isRead

/-- What is read beside the fields of a node is determined by its text. -/
theorem Attributes.exact_of_ofMembers {kind : Kind} {members : List (String × Json)}
    (exact : Json.Exact (.object members)) {attributes : Attributes}
    (isRead : Attributes.ofMembers kind members = .ok attributes) : attributes.Exact := by
  obtain ⟨nullExact, -, -, -, emptyExact⟩ := Json.exact_scalars
  have metadataFound := Json.exact_member?_getD exact "metadata" nullExact
  have locationFound := Json.exact_member?_getD exact "source_location" nullExact
  -- Whatever the metadata are, the location is read after them in the same way.
  have location_read : ∀ metadata, Json.Exact (.object metadata) →
      (if ((Json.member? members "source_location").getD .null).isTruthy = true then do
        let location ← some <$> SourceLocation.ofJson
          ((Json.member? members "source_location").getD .null)
        pure { metadata, location : Attributes }
      else do
        let location ← pure none
        pure { metadata, location : Attributes }) = Except.ok attributes → attributes.Exact := by
    intro metadata metadataExact isRead
    split at isRead
    · obtain ⟨location, some_read, isRead⟩ := bind_eq_ok.mp isRead
      obtain ⟨read, read_read, rfl⟩ := map_eq_ok.mp some_read
      obtain rfl := pure_eq_ok.mp isRead
      refine ⟨metadataExact, fun location isLocation => ?_⟩
      obtain rfl := Option.some.inj isLocation
      exact SourceLocation.exact_of_ofJson locationFound read_read
    · obtain rfl := pure_eq_ok.mp isRead
      exact ⟨metadataExact, by simp⟩
  unfold Attributes.ofMembers at isRead
  split at isRead
  case h_1 metadata isMetadata =>
    rw [isMetadata] at metadataFound
    exact location_read metadata metadataFound isRead
  case h_2 =>
    split at isRead
    · cases isRead
    · exact location_read [] emptyExact isRead

namespace Node

/-- A node that is put together from parts determined by their texts is one itself, and it has no
children but those. -/
theorem storable_of_ofParts {kind : Kind} {members : List (String × Json)} {children : List Node}
    {attributes : Attributes} (exact : Json.Exact (.object members))
    (childrenStorable : ∀ child ∈ children, child.Storable) (attributesExact : attributes.Exact)
    {node : Node} (made : ofParts kind members children attributes = .ok node) : node.Storable := by
  obtain ⟨nullExact, boolExact, intExact, stringExact, -⟩ := Json.exact_scalars
  have valueExact : ∀ field value, requiredField kind members field = .ok value → value.Exact := by
    intro field value isRead
    unfold requiredField at isRead
    split at isRead
    case h_1 found =>
      obtain rfl := Except.ok.inj isRead
      exact Json.exact_of_member? exact found
    case h_2 => cases isRead
  have optionalExact : ∀ field {default : Json}, default.Exact →
      ((Json.member? members field).getD default).Exact := fun field _ defaultExact =>
    Json.exact_member?_getD exact field defaultExact
  suffices parts : node.LevelFits ∧ node.attributes = attributes ∧
      (∀ value ∈ node.values, value.Exact) ∧ ∀ child ∈ node.children, child ∈ children by
    obtain ⟨fits, sameAttributes, valuesExact, sameChildren⟩ := parts
    exact everywhere_iff.mpr ⟨⟨fits, sameAttributes ▸ attributesExact, valuesExact⟩,
      fun child inside => childrenStorable child (sameChildren child inside)⟩
  cases kind with
  | heading =>
    obtain ⟨level, level_read, made⟩ := bind_eq_ok.mp made
    obtain ⟨_, levelFits, made⟩ := bind_eq_ok.mp made
    obtain rfl := pure_eq_ok.mp made
    exact ⟨levelFits, rfl, by simpa [values] using valueExact _ level level_read, by simp [Node.children]⟩
  | codeBlock =>
    obtain ⟨content, content_read, made⟩ := bind_eq_ok.mp made
    obtain rfl := pure_eq_ok.mp made
    refine ⟨trivial, rfl, ?_, by simp [Node.children]⟩
    simpa [values] using ⟨valueExact _ content content_read, optionalExact "language" nullExact⟩
  | list =>
    obtain ⟨ordered, ordered_read, made⟩ := bind_eq_ok.mp made
    obtain rfl := pure_eq_ok.mp made
    refine ⟨trivial, rfl, ?_, by simp [Node.children]⟩
    simpa [values] using ⟨valueExact _ ordered ordered_read, optionalExact "start" (intExact 1)⟩
  | tableRow =>
    simp only [ofParts] at made
    split at made
    · split at made
      · obtain rfl := Except.ok.inj made
        exact ⟨trivial, rfl, by simp [values], by simp [Node.children]⟩
      · split at made
        · split at made
          · obtain rfl := Except.ok.inj made
            exact ⟨trivial, rfl, by simp [values], by simp [Node.children]⟩
          · cases made
        · cases made
    · cases made
  | text | code =>
    obtain ⟨content, content_read, made⟩ := bind_eq_ok.mp made
    obtain rfl := pure_eq_ok.mp made
    refine ⟨trivial, rfl, ?_, by simp [Node.children]⟩
    simpa [values] using valueExact _ content content_read
  | link =>
    obtain ⟨url, url_read, made⟩ := bind_eq_ok.mp made
    obtain rfl := pure_eq_ok.mp made
    exact ⟨trivial, rfl, by simpa [values] using valueExact _ url url_read, by simp [Node.children]⟩
  | image =>
    obtain ⟨url, url_read, made⟩ := bind_eq_ok.mp made
    obtain rfl := pure_eq_ok.mp made
    refine ⟨trivial, rfl, ?_, by simp [Node.children]⟩
    simpa [values] using ⟨valueExact _ url url_read, optionalExact "alt_text" (stringExact "")⟩
  | lineBreak =>
    obtain rfl := Except.ok.inj made
    refine ⟨trivial, rfl, ?_, by simp [Node.children]⟩
    simpa [values] using optionalExact "soft" (boolExact false)
  | _ =>
    obtain rfl := Except.ok.inj made
    exact ⟨trivial, rfl, by simp [values], by simp [Node.children]⟩

/-- Nodes decoded from a list are decoded from its items. -/
theorem mem_of_decodeAll {strictness : Strictness} {items : List Json} {nodes : List Node}
    (isRead : decodeAll strictness items = .ok nodes) {node : Node} (inside : node ∈ nodes) :
    ∃ item ∈ items, decode strictness item = .ok node := by
  induction items generalizing nodes with
  | nil =>
    obtain rfl := Except.ok.inj isRead
    cases inside
  | cons item rest inductionHypothesis =>
    obtain ⟨first, first_read, isRead⟩ := bind_eq_ok.mp isRead
    obtain ⟨others, others_read, isRead⟩ := bind_eq_ok.mp isRead
    obtain rfl := pure_eq_ok.mp isRead
    rcases List.mem_cons.mp inside with rfl | later
    · exact ⟨item, List.mem_cons_self, first_read⟩
    · obtain ⟨other, inRest, other_read⟩ := inductionHypothesis others_read later
      exact ⟨other, List.mem_cons_of_mem item inRest, other_read⟩

/-- Children that are read under a field are decoded from items of a list among the members. -/
theorem mem_of_childrenUnder {strictness : Strictness} {kind : Kind} {members : List (String × Json)}
    {field : String} {children : List Node}
    (isRead : childrenUnder kind members (decodeLists strictness members) field = .ok children)
    {child : Node} (inside : child ∈ children) :
    ∃ key items, (key, .array items) ∈ members ∧ ∃ item ∈ items, decode strictness item = .ok child := by
  unfold childrenUnder at isRead
  split at isRead
  case h_1 =>
    obtain rfl := Except.ok.inj isRead
    cases inside
  case h_2 items found =>
    have under : childrenUnder kind members (decodeLists strictness members) field =
        decodeAll strictness items := childrenUnder_array kind found
    rw [childrenUnder, found] at under
    obtain ⟨item, inItems, item_read⟩ := mem_of_decodeAll (under.symm.trans isRead) inside
    exact ⟨field, items, Json.mem_of_member? found, item, inItems, item_read⟩
  case h_3 => cases isRead

/-- The node of an object is storable when those are that are decoded from lists of the object. -/
theorem storable_of_ofMembers {strictness : Strictness} {members : List (String × Json)}
    (exact : Json.Exact (.object members))
    (inLists : ∀ key items, (key, .array items) ∈ members → ∀ item ∈ items, ∀ node,
      decode strictness item = .ok node → node.Storable)
    {node : Node} (made : ofMembers strictness members (decodeLists strictness members) = .ok node) :
    node.Storable := by
  unfold ofMembers at made
  split at made
  · cases strictness with
    | strict => cases made
    | lenient =>
      obtain rfl := Except.ok.inj made
      obtain ⟨-, -, -, stringExact, emptyExact⟩ := Json.exact_scalars
      refine everywhere_iff.mpr ⟨⟨trivial, ⟨emptyExact, ?_⟩, ?_⟩, by simp [placeholder, children]⟩
      · simp [placeholder, Node.attributes]
      · simpa [placeholder, values] using stringExact _
  case h_2 kind _ =>
    -- Whatever the children are, the rest of the node is read after them in the same way.
    have rest_read : ∀ children : List Node, (∀ child ∈ children, child.Storable) →
        (do
          let attributes ← Attributes.ofMembers kind members
          ofParts kind members children attributes) = Except.ok node → node.Storable := by
      intro children childrenStorable made
      obtain ⟨attributes, attributes_read, made⟩ := bind_eq_ok.mp made
      exact storable_of_ofParts exact childrenStorable
        (Attributes.exact_of_ofMembers exact attributes_read) made
    split at made
    · obtain ⟨children, children_read, made⟩ := bind_eq_ok.mp made
      refine rest_read children (fun child inside => ?_) made
      obtain ⟨key, items, inMembers, item, inItems, item_read⟩ :=
        mem_of_childrenUnder children_read inside
      exact inLists key items inMembers item inItems child item_read
    · exact rest_read [] (by simp) made

/-- A tree decoded from a value that its text determines can be stored. -/
theorem storable_of_decode {strictness : Strictness} {value : Json} (exact : value.Exact) {node : Node}
    (isRead : decode strictness value = .ok node) : node.Storable := by
  induction value using Json.inductionItems generalizing node with
  | other value noObject =>
    cases value with
    | object members => exact absurd rfl (noObject members)
    | _ => cases isRead
  | object members inductionHypothesis =>
    refine storable_of_ofMembers exact (fun key items inMembers item inside node item_read => ?_) isRead
    have itemsExact := (Json.exact_object_iff.mp exact).2 (key, .array items) inMembers
    exact inductionHypothesis key items inMembers item inside (Json.exact_array_iff.mp itemsExact item inside)
      item_read

end Node

end OutlineWiki
