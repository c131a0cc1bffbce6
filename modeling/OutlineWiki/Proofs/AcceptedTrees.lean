import OutlineWiki.Proofs.JsonGrammar
import OutlineWiki.Proofs.NumericValues
import OutlineWiki.Proofs.TreeReadings

/-!
# The texts that are read as trees

Which values describe a tree, by a rule for each node object, and that reading gives a tree exactly for
the texts whose value does. The rule leaves open which values under `metadata` and `source_location` count
as given. The reader passes over everything that does not count as true; the narrower rule that only null
stands for nothing refuses the texts with another empty value there, and no others beside.
-/

namespace OutlineWiki

/-! ## Describing a tree -/

/-- A value is an object. -/
def Json.IsObject (value : Json) : Prop :=
  ∃ members, value = .object members

/-- A value describes a source location: an object with a text for its format, whose metadata, if it has
any, is an object. -/
def DescribesLocation (value : Json) : Prop :=
  ∃ members, value = .object members ∧
    (∃ format, Json.member? members "format" = some (.string format)) ∧
    ∀ metadata ∈ Json.member? members "metadata", metadata.IsObject

/-- What stands beside the fields of a node object fits, where a condition tells which values count as
given at all. -/
structure BesideFits (Given : Json → Prop) (members : List (String × Json)) : Prop where
  metadata : ∀ metadata ∈ Json.member? members "metadata", Given metadata → metadata.IsObject
  location : ∀ location ∈ Json.member? members "source_location", Given location →
    DescribesLocation location

/-- The field that a node object of a kind cannot be without. -/
def Kind.requiredField? : Kind → Option String
  | .heading => some "level"
  | .codeBlock | .text | .code => some "content"
  | .list => some "ordered"
  | .link | .image => some "url"
  | .document | .paragraph | .blockQuote | .listItem | .table | .tableRow | .tableCell | .thematicBreak
  | .emphasis | .strong | .lineBreak | .strikethrough | .superscript | .subscript => none

/-- The own fields of a node object fit its kind. -/
@[mk_iff] structure FieldsFit (kind : Kind) (members : List (String × Json)) : Prop where
  required : ∀ field ∈ kind.requiredField?, ∃ value, Json.member? members field = some value
  level : kind = .heading → ∀ level ∈ Json.member? members "level",
    ∃ number, level.number? = some number ∧ 1 ≤ number ∧ number ≤ 6
  row : kind = .tableRow → ∀ rowType ∈ Json.member? members "row_type",
    rowType = .string "standard" ∨
      rowType = .string "rule" ∧ ∀ cells ∈ Json.member? members "cells", cells = .array []

/-- A value describes a tree. Its object names a kind, and its fields, its children and what stands beside
them fit; an object that names no kind describes a tree only to a lenient reader. -/
inductive DescribesTree (strictness : Strictness) (Beside : List (String × Json) → Prop) : Json → Prop where
  | node {members : List (String × Json)} {kind : Kind}
      (named : Json.member? members "node_type" = some (.string kind.name))
      (lists : ∀ field ∈ kind.childField?, ∀ value ∈ Json.member? members field,
        ∃ items, value = .array items)
      (children : ∀ field ∈ kind.childField?, ∀ items, Json.member? members field = some (.array items) →
        ∀ item ∈ items, DescribesTree strictness Beside item)
      (fields : FieldsFit kind members) (beside : Beside members) :
      DescribesTree strictness Beside (.object members)
  | unknown {members : List (String × Json)} (lenient : strictness = .lenient)
      (unnamed : ∀ kind : Kind, Json.member? members "node_type" ≠ some (.string kind.name)) :
      DescribesTree strictness Beside (.object members)

/-! ## Decoding a tree -/

/-- The kind of an object is the one it names. -/
theorem kindOf?_eq_some {members : List (String × Json)} {kind : Kind} :
    kindOf? members = some kind ↔ Json.member? members "node_type" = some (.string kind.name) := by
  unfold kindOf?
  constructor
  · intro isKind
    split at isKind
    case h_1 name found =>
      have named := List.find?_some (p := fun kind : Kind => kind.name == name) isKind
      rw [found, beq_iff_eq.mp named]
    case h_2 => cases isKind
  · intro named
    rw [named]
    exact Kind.ofName?_name kind

/-- An object has no kind when it names none. -/
theorem kindOf?_eq_none {members : List (String × Json)} :
    kindOf? members = none ↔
      ∀ kind : Kind, Json.member? members "node_type" ≠ some (.string kind.name) := by
  rw [Option.eq_none_iff_forall_ne_some]
  exact forall_congr' fun kind => not_congr kindOf?_eq_some

/-- A source location is read exactly where a value describes one. -/
theorem SourceLocation.ofJson_isOk {value : Json} :
    (∃ location, SourceLocation.ofJson value = .ok location) ↔ DescribesLocation value := by
  constructor
  · rintro ⟨location, isRead⟩
    unfold ofJson at isRead
    split at isRead
    case h_1 members =>
      split at isRead
      case h_1 format found =>
        refine ⟨members, rfl, ⟨format, found⟩, fun metadata isMetadata => ?_⟩
        rw [Option.mem_def] at isMetadata
        rw [isMetadata, Option.getD_some] at isRead
        split at isRead
        case h_1 inside => exact ⟨inside, rfl⟩
        case h_2 => cases isRead
      case h_2 => cases isRead
    case h_2 => cases isRead
  · rintro ⟨members, rfl, ⟨format, found⟩, metadataFits⟩
    simp only [ofJson, found]
    cases isMetadata : Json.member? members "metadata" with
    | none => exact ⟨_, rfl⟩
    | some metadata =>
      obtain ⟨inside, rfl⟩ := metadataFits metadata isMetadata
      exact ⟨_, rfl⟩

/-- The metadata of a node object. -/
def Attributes.metadataOf (kind : Kind) (members : List (String × Json)) :
    Except DecodeError (List (String × Json)) :=
  match (Json.member? members "metadata").getD .null with
  | .object metadata => .ok metadata
  | other => if other.isTruthy then .error (.metadataNotAnObject kind) else .ok []

/-- The source location of a node object. -/
def Attributes.locationOf (members : List (String × Json)) : Except DecodeError (Option SourceLocation) :=
  let described := (Json.member? members "source_location").getD .null
  if described.isTruthy then (SourceLocation.ofJson described).map some else .ok none

/-- What stands beside the fields is the metadata and then the source location. -/
theorem Attributes.ofMembers_eq (kind : Kind) (members : List (String × Json)) :
    ofMembers kind members = do
      let metadata ← metadataOf kind members
      let location ← locationOf members
      return { metadata, location } := by
  unfold ofMembers metadataOf locationOf
  generalize (Json.member? members "metadata").getD .null = given
  generalize (Json.member? members "source_location").getD .null = described
  cases located : described.isTruthy with
  | false => cases given <;> simp only [located] <;> first | rfl | (split <;> rfl)
  | true => cases given <;> simp only [located] <;> first | rfl | (split <;> rfl)

/-- Metadata is read exactly where it is an object or does not count as true. -/
theorem Attributes.metadataOf_isOk {kind : Kind} {members : List (String × Json)} :
    (∃ metadata, metadataOf kind members = .ok metadata) ↔
      ∀ metadata ∈ Json.member? members "metadata", metadata.isTruthy = true → metadata.IsObject := by
  unfold metadataOf
  cases found : Json.member? members "metadata" with
  | none => simp [Json.isTruthy]
  | some value =>
    cases value with
    | object inside => simp [Json.IsObject]
    | _ =>
      simp only [Option.getD_some, Option.mem_def, Option.some.injEq, Json.IsObject]
      split <;> simp_all

/-- A source location is read exactly where a value describes one or does not count as true. -/
theorem Attributes.locationOf_isOk {members : List (String × Json)} :
    (∃ location, locationOf members = .ok location) ↔
      ∀ location ∈ Json.member? members "source_location", location.isTruthy = true →
        DescribesLocation location := by
  unfold locationOf
  cases found : Json.member? members "source_location" with
  | none => simp [Json.isTruthy]
  | some value =>
    by_cases given : value.isTruthy = true
    · simp [given, map_eq_ok, ← SourceLocation.ofJson_isOk]
    · simp [given]

/-- What stands beside the fields is read exactly where it fits, of all that counts as true. -/
theorem Attributes.ofMembers_isOk {kind : Kind} {members : List (String × Json)} :
    (∃ attributes, ofMembers kind members = .ok attributes) ↔
      BesideFits (·.isTruthy = true) members := by
  rw [ofMembers_eq]
  constructor
  · rintro ⟨attributes, isRead⟩
    obtain ⟨metadata, metadata_read, isRead⟩ := bind_eq_ok.mp isRead
    obtain ⟨location, location_read, -⟩ := bind_eq_ok.mp isRead
    exact ⟨metadataOf_isOk.mp ⟨metadata, metadata_read⟩, locationOf_isOk.mp ⟨location, location_read⟩⟩
  · intro fits
    obtain ⟨metadata, metadata_read⟩ : ∃ metadata, metadataOf kind members = .ok metadata :=
      metadataOf_isOk.mpr fits.metadata
    obtain ⟨location, location_read⟩ := locationOf_isOk.mpr fits.location
    rw [metadata_read, location_read]
    exact ⟨_, rfl⟩

/-- A required field is read exactly where it is present. -/
theorem requiredField_eq_ok {kind : Kind} {members : List (String × Json)} {field : String}
    {value : Json} :
    requiredField kind members field = .ok value ↔ Json.member? members field = some value := by
  unfold requiredField
  split
  case h_1 found => simp [found]
  case h_2 absent => simp [absent]

/-- A node that is made of a required field is made exactly where the field is present. -/
theorem requiredField_bind_isOk {kind : Kind} {members : List (String × Json)} {field : String}
    (make : Json → Node) :
    (∃ node, (do let value ← requiredField kind members field; return make value) = .ok node) ↔
      ∃ value, Json.member? members field = some value := by
  constructor
  · rintro ⟨node, made⟩
    obtain ⟨value, value_read, -⟩ := bind_eq_ok.mp made
    exact ⟨value, requiredField_eq_ok.mp value_read⟩
  · rintro ⟨value, found⟩
    rw [requiredField_eq_ok.mpr found]
    exact ⟨make value, rfl⟩

/-- A heading is made exactly where its level is present and a number from one to six. -/
theorem Node.ofParts_heading_isOk {members : List (String × Json)} {children : List Node}
    {attributes : Attributes} :
    (∃ node, ofParts .heading members children attributes = .ok node) ↔
      ∃ level, Json.member? members "level" = some level ∧
        ∃ number, level.number? = some number ∧ 1 ≤ number ∧ number ≤ 6 := by
  constructor
  · rintro ⟨node, made⟩
    obtain ⟨level, level_read, made⟩ := bind_eq_ok.mp made
    obtain ⟨_, fits, -⟩ := bind_eq_ok.mp made
    exact ⟨level, requiredField_eq_ok.mp level_read, checkLevel_eq_ok.mp fits⟩
  · rintro ⟨level, found, fits⟩
    refine ⟨.heading attributes level children, ?_⟩
    simp only [ofParts, requiredField_eq_ok.mpr found, checkLevel_eq_ok.mpr fits, bind, Except.bind, pure,
      Except.pure]

/-- A table row has one of the two types and, as a rule, no cells. -/
theorem Node.ofParts_tableRow_isOk {members : List (String × Json)} {children : List Node}
    {attributes : Attributes} :
    (∃ node, ofParts .tableRow members children attributes = .ok node) ↔
      ∀ rowType ∈ Json.member? members "row_type",
        rowType = .string "standard" ∨ rowType = .string "rule" ∧ children = [] := by
  simp only [ofParts]
  cases Json.member? members "row_type" with
  | none => simp
  | some value =>
    cases value with
    | string rowType =>
      by_cases standard : rowType = "standard"
      · simp [standard]
      · by_cases rule : rowType = "rule"
        · by_cases empty : children = [] <;> simp [rule, empty]
        · simp [standard, rule]
    | _ => simp

/-- A node is put together exactly where its own fields fit, given that it has children just where its
object lists cells. -/
theorem Node.ofParts_isOk {kind : Kind} {members : List (String × Json)} {children : List Node}
    (cells : kind = .tableRow →
      (children = [] ↔ ∀ cells ∈ Json.member? members "cells", cells = .array []))
    (attributes : Attributes) :
    (∃ node, ofParts kind members children attributes = .ok node) ↔ FieldsFit kind members := by
  rw [fieldsFit_iff]
  cases kind with
  | tableRow =>
    rw [ofParts_tableRow_isOk, cells rfl]
    simp [Kind.requiredField?]
  | heading =>
    rw [ofParts_heading_isOk]
    simp only [Kind.requiredField?, Option.mem_def, Option.some.injEq, forall_eq']
    cases Json.member? members "level" <;> simp
  | codeBlock | list | text | code | link | image =>
    exact (requiredField_bind_isOk _).trans (by simp [Kind.requiredField?])
  | _ => simp [ofParts, Kind.requiredField?]

namespace Node

/-- A list is decoded exactly when each of its items is. -/
theorem decodeAll_isOk {strictness : Strictness} {items : List Json} :
    (∃ nodes, decodeAll strictness items = .ok nodes) ↔
      ∀ item ∈ items, ∃ node, decode strictness item = .ok node := by
  induction items with
  | nil => simp [decodeAll]
  | cons item rest inductionHypothesis =>
    rw [List.forall_mem_cons, ← inductionHypothesis]
    constructor
    · rintro ⟨nodes, isRead⟩
      obtain ⟨first, first_read, isRead⟩ := bind_eq_ok.mp isRead
      obtain ⟨others, others_read, -⟩ := bind_eq_ok.mp isRead
      exact ⟨⟨first, first_read⟩, others, others_read⟩
    · rintro ⟨⟨first, first_read⟩, others, others_read⟩
      rw [decodeAll, first_read, others_read]
      exact ⟨_, rfl⟩

/-- Children are read under a field exactly when it holds a list of which each item is decoded. -/
theorem childrenUnder_isOk {strictness : Strictness} {kind : Kind} {members : List (String × Json)}
    {field : String} :
    (∃ children, childrenUnder kind members (decodeLists strictness members) field = .ok children) ↔
      (∀ value ∈ Json.member? members field, ∃ items, value = .array items) ∧
        ∀ items, Json.member? members field = some (.array items) →
          ∀ item ∈ items, ∃ node, decode strictness item = .ok node := by
  cases found : Json.member? members field with
  | none => simp [childrenUnder, found]
  | some value =>
    cases value with
    | array items => simp [childrenUnder_array kind found, decodeAll_isOk]
    | _ => simp [childrenUnder, found]

/-- There are no children under a field exactly when it is absent or holds an empty list. -/
theorem children_eq_nil_iff {strictness : Strictness} {kind : Kind} {members : List (String × Json)}
    {field : String} {children : List Node}
    (isRead : childrenUnder kind members (decodeLists strictness members) field = .ok children) :
    children = [] ↔ ∀ value ∈ Json.member? members field, value = .array [] := by
  cases found : Json.member? members field with
  | none =>
    rw [childrenUnder, found] at isRead
    obtain rfl := Except.ok.inj isRead
    simp
  | some value =>
    cases value with
    | array items =>
      rw [childrenUnder_array kind found] at isRead
      cases items with
      | nil =>
        obtain rfl := Except.ok.inj isRead
        simp
      | cons item items =>
        obtain ⟨first, -, isRead⟩ := bind_eq_ok.mp isRead
        obtain ⟨others, -, isRead⟩ := bind_eq_ok.mp isRead
        obtain rfl := pure_eq_ok.mp isRead
        simp
    | _ =>
      rw [childrenUnder, found] at isRead
      cases isRead

/-- The children of a node object, under the field of its kind. -/
def childrenOf (strictness : Strictness) (kind : Kind) (members : List (String × Json)) :
    Except DecodeError (List Node) :=
  match kind.childField? with
  | some field => childrenUnder kind members (decodeLists strictness members) field
  | none => .ok []

/-- The children of a node object are read exactly when the field for them, if its kind has one and it is
there, holds a list of which each item is decoded. -/
theorem childrenOf_isOk {strictness : Strictness} {kind : Kind} {members : List (String × Json)} :
    (∃ children, childrenOf strictness kind members = .ok children) ↔
      (∀ field ∈ kind.childField?, ∀ value ∈ Json.member? members field, ∃ items, value = .array items) ∧
        ∀ field ∈ kind.childField?, ∀ items, Json.member? members field = some (.array items) →
          ∀ item ∈ items, ∃ node, decode strictness item = .ok node := by
  unfold childrenOf
  cases kind.childField? with
  | none => simp
  | some field =>
    simp only [Option.mem_def, Option.some.injEq, forall_eq']
    exact childrenUnder_isOk

/-- An object that names a kind is read part by part: its children, what stands beside its fields, and
its own fields. -/
theorem decode_named {strictness : Strictness} {members : List (String × Json)} {kind : Kind}
    (named : Json.member? members "node_type" = some (.string kind.name)) :
    decode strictness (.object members) = (do
      let children ← childrenOf strictness kind members
      let attributes ← Attributes.ofMembers kind members
      ofParts kind members children attributes) := by
  rw [decode, ofMembers, kindOf?_eq_some.mpr named, childrenOf]
  simp only
  cases kind.childField? <;> rfl

/-- An object that names a kind is decoded exactly when its children are, what stands beside its fields
fits, and so do its own fields. -/
theorem decode_named_isOk {strictness : Strictness} {members : List (String × Json)} {kind : Kind}
    (named : Json.member? members "node_type" = some (.string kind.name)) :
    (∃ node, decode strictness (.object members) = .ok node) ↔
      (∃ children, childrenOf strictness kind members = .ok children) ∧
        FieldsFit kind members ∧ BesideFits (·.isTruthy = true) members := by
  have noCells : ∀ children, childrenOf strictness kind members = .ok children → kind = .tableRow →
      (children = [] ↔ ∀ cells ∈ Json.member? members "cells", cells = .array []) := by
    rintro children children_read rfl
    exact children_eq_nil_iff children_read
  rw [decode_named named]
  constructor
  · rintro ⟨node, isRead⟩
    obtain ⟨children, children_read, isRead⟩ := bind_eq_ok.mp isRead
    obtain ⟨attributes, attributes_read, made⟩ := bind_eq_ok.mp isRead
    exact ⟨⟨children, children_read⟩, (ofParts_isOk (noCells children children_read) attributes).mp ⟨node, made⟩,
      Attributes.ofMembers_isOk.mp ⟨attributes, attributes_read⟩⟩
  · rintro ⟨⟨children, children_read⟩, fields, beside⟩
    obtain ⟨attributes, attributes_read⟩ :
        ∃ attributes, Attributes.ofMembers kind members = .ok attributes :=
      Attributes.ofMembers_isOk.mpr beside
    obtain ⟨node, made⟩ := (ofParts_isOk (noCells children children_read) attributes).mpr fields
    exact ⟨node, by rw [children_read, attributes_read]; exact made⟩

/-- An object that names no kind is decoded by a lenient reader only. -/
theorem decode_unnamed_isOk {strictness : Strictness} {members : List (String × Json)}
    (unnamed : ∀ kind : Kind, Json.member? members "node_type" ≠ some (.string kind.name)) :
    (∃ node, decode strictness (.object members) = .ok node) ↔ strictness = .lenient := by
  rw [decode, ofMembers, kindOf?_eq_none.mpr unnamed]
  cases strictness <;> simp

/-- A value that is decoded describes a tree. -/
theorem describesTree_of_decode {strictness : Strictness} {value : Json}
    (isRead : ∃ node, decode strictness value = .ok node) :
    DescribesTree strictness (BesideFits (·.isTruthy = true)) value := by
  induction value using Json.inductionItems with
  | other value noObject =>
    obtain ⟨node, isRead⟩ := isRead
    cases value with
    | object members => exact absurd rfl (noObject members)
    | _ => cases isRead
  | object members inductionHypothesis =>
    by_cases named : ∃ kind : Kind, Json.member? members "node_type" = some (.string kind.name)
    · obtain ⟨kind, named⟩ := named
      obtain ⟨children_read, fields, beside⟩ := (decode_named_isOk named).mp isRead
      obtain ⟨lists, decoded⟩ := childrenOf_isOk.mp children_read
      refine .node named lists (fun field isField items found item inside => ?_) fields beside
      exact inductionHypothesis field items (Json.mem_of_member? found) item inside
        (decoded field isField items found item inside)
    · have unnamed := not_exists.mp named
      exact .unknown ((decode_unnamed_isOk unnamed).mp isRead) unnamed

/-- A value is decoded exactly when it describes a tree, where all that counts as true has to fit. -/
theorem decode_isOk {strictness : Strictness} {value : Json} :
    (∃ node, decode strictness value = .ok node) ↔
      DescribesTree strictness (BesideFits (·.isTruthy = true)) value := by
  refine ⟨describesTree_of_decode, fun describes => ?_⟩
  induction describes with
  | node named lists _ fields beside inductionHypothesis =>
    exact (decode_named_isOk named).mpr
      ⟨childrenOf_isOk.mpr ⟨lists, inductionHypothesis⟩, fields, beside⟩
  | unknown lenient unnamed => exact (decode_unnamed_isOk unnamed).mpr lenient

end Node

/-! ## Rules for what stands beside the fields -/

/-- A value describes one tree only: its object names one kind. -/
theorem Kind.eq_of_named {members : List (String × Json)} {kind other : Kind}
    (named : Json.member? members "node_type" = some (.string kind.name))
    (namedOther : Json.member? members "node_type" = some (.string other.name)) : kind = other :=
  Option.some.inj ((kindOf?_eq_some.mpr named).symm.trans (kindOf?_eq_some.mpr namedOther))

/-- A value that describes a tree by a rule describes one by every rule that follows from it. -/
theorem DescribesTree.imp {strictness : Strictness} {Beside Other : List (String × Json) → Prop}
    (follows : ∀ members, Beside members → Other members) {value : Json}
    (describes : DescribesTree strictness Beside value) : DescribesTree strictness Other value := by
  induction describes with
  | node named lists _ fields beside inductionHypothesis =>
    exact .node named lists inductionHypothesis fields (follows _ beside)
  | unknown lenient unnamed => exact .unknown lenient unnamed

/-- A value describes a tree by two rules together exactly when it does by each of them. -/
theorem describesTree_and {strictness : Strictness} {Beside Other : List (String × Json) → Prop}
    {value : Json} :
    DescribesTree strictness (fun members => Beside members ∧ Other members) value ↔
      DescribesTree strictness Beside value ∧ DescribesTree strictness Other value := by
  constructor
  · exact fun describes => ⟨describes.imp fun _ => And.left, describes.imp fun _ => And.right⟩
  · rintro ⟨describes, describesOther⟩
    induction describes with
    | @node members kind named lists _ fields beside inductionHypothesis =>
      cases describesOther with
      | @node _ other namedOther _ children _ besideOther =>
        obtain rfl := Kind.eq_of_named named namedOther
        exact .node named lists
          (fun field isField items found item inside => inductionHypothesis field isField items found item
            inside (children field isField items found item inside))
          fields ⟨beside, besideOther⟩
      | unknown _ unnamed => exact absurd named (unnamed kind)
    | unknown lenient unnamed => exact .unknown lenient unnamed

/-- An empty value other than null stands under `metadata`, where it is no object, or under
`source_location`. -/
def EmptyStandIn (members : List (String × Json)) : Prop :=
  (∃ metadata ∈ Json.member? members "metadata",
      metadata.isTruthy = false ∧ metadata ≠ .null ∧ ¬ metadata.IsObject) ∨
    ∃ location ∈ Json.member? members "source_location",
      location.isTruthy = false ∧ location ≠ .null

/-- A value that describes a source location counts as true: it has a format at least. -/
theorem DescribesLocation.isTruthy {value : Json} (describes : DescribesLocation value) :
    value.isTruthy = true := by
  obtain ⟨members, rfl, ⟨format, found⟩, -⟩ := describes
  cases members with
  | nil => cases found
  | cons member members => rfl

/-- The rule that only null stands for nothing asks for no empty stand-in, beside all that the rule asks
which lets everything empty stand for nothing. -/
theorem besideFits_notNull {members : List (String × Json)} :
    BesideFits (· ≠ .null) members ↔
      BesideFits (·.isTruthy = true) members ∧ ¬ EmptyStandIn members := by
  have given : ∀ value : Json, value.isTruthy = true → value ≠ .null := by
    rintro value isTrue rfl
    cases isTrue
  constructor
  · intro fits
    refine ⟨⟨fun metadata found isTrue => fits.metadata metadata found (given metadata isTrue),
      fun location found isTrue => fits.location location found (given location isTrue)⟩, ?_⟩
    rintro (⟨metadata, found, -, notNull, noObject⟩ | ⟨location, found, isFalse, notNull⟩)
    · exact noObject (fits.metadata metadata found notNull)
    · have isTrue := (fits.location location found notNull).isTruthy
      rw [isFalse] at isTrue
      cases isTrue
  · rintro ⟨fits, noStandIn⟩
    refine ⟨fun metadata found notNull => ?_, fun location found notNull => ?_⟩
    · by_contra noObject
      cases isTrue : metadata.isTruthy with
      | true => exact noObject (fits.metadata metadata found isTrue)
      | false => exact noStandIn (.inl ⟨metadata, found, isTrue, notNull, noObject⟩)
    · cases isTrue : location.isTruthy with
      | true => exact fits.location location found isTrue
      | false => exact absurd (.inr ⟨location, found, isTrue, notNull⟩) noStandIn

/-! ## Members that no node has -/

/-- The schema version is no field of a node. -/
theorem Kind.fields_ne_schemaVersion (kind : Kind) :
    (∀ field ∈ kind.childField?, field ≠ "schema_version") ∧
      ∀ field ∈ kind.requiredField?, field ≠ "schema_version" := by
  cases kind <;> simp [childField?, requiredField?]

/-- Whether an object describes a tree does not depend on its schema version. -/
theorem DescribesTree.of_members {strictness : Strictness} {Given : Json → Prop}
    {members others : List (String × Json)}
    (same : ∀ key, key ≠ "schema_version" → Json.member? members key = Json.member? others key)
    (describes : DescribesTree strictness (BesideFits Given) (.object members)) :
    DescribesTree strictness (BesideFits Given) (.object others) := by
  have sameKind := same "node_type" (by decide)
  cases describes with
  | @node _ kind named lists children fields beside =>
    have sameChildren := fun field isField => same field (kind.fields_ne_schemaVersion.1 field isField)
    have sameRequired := fun field isField => same field (kind.fields_ne_schemaVersion.2 field isField)
    have sameLevel := same "level" (by decide)
    have sameRow := same "row_type" (by decide)
    have sameCells := same "cells" (by decide)
    have sameMetadata := same "metadata" (by decide)
    have sameLocation := same "source_location" (by decide)
    refine .node (sameKind ▸ named) (fun field isField => ?_) (fun field isField => ?_) ⟨?_, ?_, ?_⟩ ⟨?_, ?_⟩
    · exact sameChildren field isField ▸ lists field isField
    · exact sameChildren field isField ▸ children field isField
    · exact fun field isField => sameRequired field isField ▸ fields.required field isField
    · exact sameLevel ▸ fields.level
    · exact sameRow ▸ sameCells ▸ fields.row
    · exact sameMetadata ▸ beside.metadata
    · exact sameLocation ▸ beside.location
  | unknown lenient unnamed => exact .unknown lenient (sameKind ▸ unnamed)

/-- An object describes a tree exactly when it does without its schema version. -/
theorem describesTree_dropMember {strictness : Strictness} {Given : Json → Prop}
    {members : List (String × Json)} :
    DescribesTree strictness (BesideFits Given) (.object (Json.dropMember members "schema_version")) ↔
      DescribesTree strictness (BesideFits Given) (.object members) :=
  ⟨.of_members fun _ different => Json.member?_dropMember_of_ne members different,
    .of_members fun _ different => (Json.member?_dropMember_of_ne members different).symm⟩

end OutlineWiki
