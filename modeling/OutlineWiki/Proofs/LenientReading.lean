import OutlineWiki.Proofs.AcceptedTrees

/-!
# Lenient reading

A lenient reader reads a value as a strict one reads it once every node object that names no kind is
replaced by a text that says so. Node objects are the root and the objects in the child lists of objects
that name a kind; nothing else of the value is touched. A strict reader comes to the same end as a lenient
one unless such an object stops it.
-/

namespace OutlineWiki

namespace Json

/-! ## Replacing objects of no known kind -/

/-- The object of a text that says which kind an object named instead of a known one. -/
def placeholderText (found : Json) : Json :=
  .object [("node_type", .string "Text"),
    ("content", .string ("[Unknown node type: " ++ found.shown ++ "]"))]

mutual

/-- A value with every node object that names no kind replaced by a text. -/
def substituted : Json → Json
  | .object members =>
    match kindOf? members with
    | some kind => .object (substitutedUnder kind.childField? members)
    | none => placeholderText ((member? members "node_type").getD .null)
  | other => other

/-- The node objects of a list replaced. -/
def substitutedAll : List Json → List Json
  | [] => []
  | item :: rest => substituted item :: substitutedAll rest

/-- The members of an object, with the node objects under the field for children replaced. A value there
that is no list holds none. -/
def substitutedUnder (field? : Option String) : List (String × Json) → List (String × Json)
  | [] => []
  | (key, .array items) :: rest =>
    (key, .array (if field? = some key then substitutedAll items else items)) ::
      substitutedUnder field? rest
  | member :: rest => member :: substitutedUnder field? rest

end

/-- A list of values is replaced one by one. -/
theorem substitutedAll_eq_map (items : List Json) : substitutedAll items = items.map substituted := by
  induction items with
  | nil => rfl
  | cons item rest inductionHypothesis => rw [substitutedAll, inductionHypothesis, List.map_cons]

/-- What stands under the field for children: the items of a list replaced. -/
def substitutedList : Json → Json
  | .array items => .array (items.map substituted)
  | other => other

/-- A member is found with its value, replaced if it stands under the field for children. -/
theorem member?_substitutedUnder (field? : Option String) (members : List (String × Json)) (key : String) :
    member? (substitutedUnder field? members) key =
      (member? members key).map fun value => if field? = some key then substitutedList value else value := by
  induction members with
  | nil => rfl
  | cons member rest inductionHypothesis =>
    obtain ⟨name, value⟩ := member
    by_cases same : name = key
    · subst same
      cases value with
      | array items =>
        simp only [substitutedUnder, member?_cons_self, Option.map_some, substitutedAll_eq_map]
        split <;> rfl
      | _ => simp [substitutedUnder, substitutedList]
    · cases value <;> simpa [substitutedUnder, member?_cons_of_ne same] using inductionHypothesis

/-- Under the field for children stand the items replaced. -/
theorem member?_substitutedUnder_self (members : List (String × Json)) (field : String) :
    member? (substitutedUnder (some field) members) field = (member? members field).map substitutedList := by
  simp [member?_substitutedUnder]

/-- Members beside the field for children keep their values. -/
theorem member?_substitutedUnder_of_ne {field? : Option String} (members : List (String × Json))
    {key : String} (beside : field? ≠ some key) :
    member? (substitutedUnder field? members) key = member? members key := by
  rw [member?_substitutedUnder]
  simp [beside]

end Json

/-- The field for children is none that is read for its value, nor one that any node can carry. -/
theorem Kind.childField?_ne (kind : Kind) :
    kind.childField? ≠ some "node_type" ∧ kind.childField? ≠ some "metadata" ∧
      kind.childField? ≠ some "source_location" ∧ ∀ field ∈ kind.valueFields, kind.childField? ≠ some field := by
  cases kind <;> simp [childField?, valueFields]

/-- What stands beside the fields is read from two members. -/
theorem Attributes.ofMembers_congr {kind : Kind} {members others : List (String × Json)}
    (metadata : Json.member? members "metadata" = Json.member? others "metadata")
    (location : Json.member? members "source_location" = Json.member? others "source_location") :
    ofMembers kind members = ofMembers kind others := by
  rw [ofMembers, ofMembers, metadata, location]

/-- The own fields of a node are read from the members that a constructor takes values from. -/
theorem Node.ofParts_congr {kind : Kind} {members others : List (String × Json)}
    (same : ∀ field ∈ kind.valueFields, Json.member? members field = Json.member? others field)
    (children : List Node) (attributes : Attributes) :
    ofParts kind members children attributes = ofParts kind others children attributes := by
  cases kind <;> simp_all [Kind.valueFields, ofParts, requiredField]

/-- A member that names a kind names it after the replacement too. -/
theorem kindOf?_substitutedUnder (kind : Kind) (members : List (String × Json)) :
    kindOf? (Json.substitutedUnder kind.childField? members) = kindOf? members := by
  rw [kindOf?, kindOf?, Json.member?_substitutedUnder_of_ne members kind.childField?_ne.1]

namespace Node

/-! ## Reading what was replaced -/

/-- Any reader takes the text that stands for an object of no known kind as a lenient one takes the
object. -/
theorem decode_placeholderText (strictness : Strictness) (found : Json) :
    decode strictness (Json.placeholderText found) = .ok (placeholder found) := by
  cases strictness <;> rfl

/-- Lists are read alike when their items are. -/
theorem decodeAll_congr {left right : Strictness} {change : Json → Json} {items : List Json}
    (each : ∀ item ∈ items, decode left item = decode right (change item)) :
    decodeAll left items = decodeAll right (items.map change) := by
  induction items with
  | nil => rfl
  | cons item rest inductionHypothesis =>
    rw [List.map_cons, decodeAll, decodeAll, each item List.mem_cons_self,
      inductionHypothesis fun later inside => each later (List.mem_cons_of_mem item inside)]

/-- The children of an object are read alike when each item of their list is. -/
theorem childrenOf_substitutedUnder {kind : Kind} {members : List (String × Json)}
    (inLists : ∀ key items, (key, .array items) ∈ members → ∀ item ∈ items,
      decode .lenient item = decode .strict item.substituted) :
    childrenOf .lenient kind members =
      childrenOf .strict kind (Json.substitutedUnder kind.childField? members) := by
  unfold childrenOf
  cases isField : kind.childField? with
  | none => rfl
  | some field =>
    have under := Json.member?_substitutedUnder_self members field
    simp only
    cases found : Json.member? members field with
    | none =>
      rw [found] at under
      rw [childrenUnder, childrenUnder, found, under]
      rfl
    | some value =>
      rw [found, Option.map_some] at under
      cases value with
      | array items =>
        rw [childrenUnder_array kind found, childrenUnder_array kind under]
        exact decodeAll_congr (inLists field items (Json.mem_of_member? found))
      | _ => simp only [childrenUnder, found, under, Json.substitutedList]

/-- A lenient reader decodes a value as a strict one decodes it with its unknown objects replaced. -/
theorem decode_lenient (value : Json) : decode .lenient value = decode .strict value.substituted := by
  induction value using Json.inductionItems with
  | other value noObject =>
    cases value with
    | object members => exact absurd rfl (noObject members)
    | _ => rfl
  | object members inductionHypothesis =>
    rw [Json.substituted]
    cases isKind : kindOf? members with
    | none => rw [decode_placeholderText, decode, ofMembers, isKind]
    | some kind =>
      obtain ⟨-, metadata, location, values⟩ := kind.childField?_ne
      have children : childrenOf .lenient kind members = _ := childrenOf_substitutedUnder inductionHypothesis
      have attributes : Attributes.ofMembers kind _ = Attributes.ofMembers kind members :=
        Attributes.ofMembers_congr (Json.member?_substitutedUnder_of_ne members metadata)
          (Json.member?_substitutedUnder_of_ne members location)
      have parts := ofParts_congr fun field isField =>
        Json.member?_substitutedUnder_of_ne members (values field isField)
      have named := (kindOf?_substitutedUnder kind members).trans isKind
      rw [decode_named (kindOf?_eq_some.mp isKind), decode_named (kindOf?_eq_some.mp named), children,
        attributes]
      simp only [parts]

/-! ## Where the two readers part -/

/-- Reading does not end at an object of no known kind. -/
def KnowsKinds {Result : Type} (outcome : Except DecodeError Result) : Prop :=
  ∀ found, outcome ≠ .error (.unknownKind found)

/-- Two readers come to the same end, unless the first ends at an object of no known kind; the second
never does. -/
structure PartAtUnknown {Result : Type} (strict lenient : Except DecodeError Result) : Prop where
  known : KnowsKinds lenient
  same : strict = lenient ∨ ∃ found, strict = .error (.unknownKind found)

variable {Value Result : Type}

/-- What is read in two steps ends at no unknown object when neither step does. -/
theorem KnowsKinds.bind {first : Except DecodeError Value} {next : Value → Except DecodeError Result}
    (known : KnowsKinds first) (nextKnown : ∀ value, KnowsKinds (next value)) :
    KnowsKinds (first >>= next) := by
  cases first with
  | error error => exact fun found ends => known found (congrArg Except.error (Except.error.inj ends))
  | ok value => exact nextKnown value

/-- A result ends at no unknown object. -/
theorem knowsKinds_ok (value : Value) : KnowsKinds (.ok value) :=
  fun _ ends => by cases ends

/-- What a reader that knows its kinds reads is read alike by both. -/
theorem KnowsKinds.part {outcome : Except DecodeError Value} (known : KnowsKinds outcome) :
    PartAtUnknown outcome outcome :=
  ⟨known, .inl rfl⟩

/-- Two readers part at an unknown object when they do in each of two steps. -/
theorem PartAtUnknown.bind {strict lenient : Except DecodeError Value}
    {strictNext lenientNext : Value → Except DecodeError Result} (part : PartAtUnknown strict lenient)
    (nextPart : ∀ value, PartAtUnknown (strictNext value) (lenientNext value)) :
    PartAtUnknown (strict >>= strictNext) (lenient >>= lenientNext) := by
  refine ⟨part.known.bind fun value => (nextPart value).known, ?_⟩
  rcases part.same with rfl | ⟨found, rfl⟩
  · cases strict with
    | error error => exact .inl rfl
    | ok value => exact (nextPart value).same
  · exact .inr ⟨found, rfl⟩

/-- What stands beside the fields of a node names no kind. -/
theorem knowsKinds_attributes (kind : Kind) (members : List (String × Json)) :
    KnowsKinds (Attributes.ofMembers kind members) := by
  rw [Attributes.ofMembers_eq]
  refine .bind ?_ fun metadata => .bind ?_ fun location => knowsKinds_ok _
  · intro found ends
    unfold Attributes.metadataOf at ends
    split at ends
    · cases ends
    · split at ends <;> cases ends
  · intro found ends
    unfold Attributes.locationOf SourceLocation.ofJson at ends
    simp only at ends
    split at ends
    · repeat' split at ends
      all_goals cases ends
    · cases ends

/-- The own fields of a node name no kind. -/
theorem knowsKinds_parts (kind : Kind) (members : List (String × Json)) (children : List Node)
    (attributes : Attributes) : KnowsKinds (ofParts kind members children attributes) := by
  have field : ∀ name, KnowsKinds (requiredField kind members name) := by
    intro name found ends
    unfold requiredField at ends
    split at ends <;> cases ends
  cases kind with
  | heading =>
    refine .bind (field "level") fun level => .bind ?_ fun _ => knowsKinds_ok _
    intro found ends
    cases level <;> simp only [checkLevel] at ends <;> first | cases ends | (split at ends <;> cases ends)
  | tableRow =>
    intro found ends
    simp only [ofParts] at ends
    repeat' split at ends
    all_goals cases ends
  | codeBlock | list | text | code | link | image => exact .bind (field _) fun _ => knowsKinds_ok _
  | _ => exact knowsKinds_ok _

/-- Two readers part at an unknown object in a list when they do in its items. -/
theorem part_decodeAll {items : List Json}
    (each : ∀ item ∈ items, PartAtUnknown (decode .strict item) (decode .lenient item)) :
    PartAtUnknown (decodeAll .strict items) (decodeAll .lenient items) := by
  induction items with
  | nil => exact (knowsKinds_ok []).part
  | cons item rest inductionHypothesis =>
    have later := inductionHypothesis fun other inside => each other (List.mem_cons_of_mem item inside)
    exact (each item List.mem_cons_self).bind fun node => later.bind fun nodes => (knowsKinds_ok _).part

/-- Two readers part at an unknown object among the children of an object. -/
theorem part_childrenOf {kind : Kind} {members : List (String × Json)}
    (inLists : ∀ key items, (key, .array items) ∈ members → ∀ item ∈ items,
      PartAtUnknown (decode .strict item) (decode .lenient item)) :
    PartAtUnknown (childrenOf .strict kind members) (childrenOf .lenient kind members) := by
  unfold childrenOf
  cases kind.childField? with
  | none => exact (knowsKinds_ok []).part
  | some field =>
    simp only
    cases found : Json.member? members field with
    | none =>
      simp only [childrenUnder, found]
      exact (knowsKinds_ok []).part
    | some value =>
      cases value with
      | array items =>
        rw [childrenUnder_array kind found, childrenUnder_array kind found]
        exact part_decodeAll (inLists field items (Json.mem_of_member? found))
      | _ =>
        simp only [childrenUnder, found]
        exact KnowsKinds.part fun _ ends => by cases ends

/-- A strict and a lenient reader part at an object of no known kind only. -/
theorem part_decode (value : Json) : PartAtUnknown (decode .strict value) (decode .lenient value) := by
  induction value using Json.inductionItems with
  | other value noObject =>
    cases value with
    | object members => exact absurd rfl (noObject members)
    | _ => exact KnowsKinds.part fun _ ends => by cases ends
  | object members inductionHypothesis =>
    cases isKind : kindOf? members with
    | none =>
      rw [decode, decode, ofMembers, ofMembers, isKind]
      exact ⟨knowsKinds_ok _, .inr ⟨_, rfl⟩⟩
    | some kind =>
      have named := kindOf?_eq_some.mp isKind
      rw [decode_named named, decode_named named]
      exact (part_childrenOf inductionHypothesis).bind fun children => KnowsKinds.part <|
        (knowsKinds_attributes kind members).bind fun attributes =>
          knowsKinds_parts kind members children attributes

end Node

/-- Lenient reading is strict reading after substitution: of every value, both give the same tree or the
same error. Where a strict reader ends otherwise than at an object of no known kind, whether with a tree or
with an error, a lenient one ends alike; and it never ends at such an object. -/
theorem lenient_is_strict_substituted (value : Json) :
    Node.ofJson .lenient value = Node.ofJson .strict value.substituted ∧
    (Node.ofJson .strict value = Node.ofJson .lenient value ∨
      ∃ found, Node.ofJson .strict value = .error (.unknownKind found)) ∧
    ∀ found, Node.ofJson .lenient value ≠ .error (.unknownKind found) := by
  obtain ⟨known, same⟩ := Node.part_decode value
  refine ⟨?_, ?_, ?_⟩
  · rw [Node.ofJson, Node.ofJson, Node.decode_lenient]
  · rw [Node.ofJson, Node.ofJson]
    rcases same with same | ⟨found, ends⟩
    · exact .inl (by rw [same])
    · exact .inr ⟨found, by rw [ends]; rfl⟩
  · intro found ends
    cases read : Node.decode .lenient value with
    | ok node =>
      rw [Node.ofJson, read] at ends
      cases ends
    | error error =>
      rw [Node.ofJson, read] at ends
      exact known found (read.trans (congrArg _ (Except.error.inj ends)))

-- A text that stands for an object of no known kind is a cell like any other, which a rule row refuses.
example :
    let row : Json := .object [("node_type", .string "TableRow"), ("row_type", .string "rule"),
      ("cells", .array [.object [("node_type", .string "Cell")]])]
    Node.ofJson .lenient row = .error .cellsInRule ∧ Node.ofJson .strict row.substituted = .error .cellsInRule :=
  ⟨rfl, rfl⟩

end OutlineWiki
