import Mathlib.Logic.Relation
import OutlineWiki.Proofs.LenientReading

/-!
# Members in any order

A node object is read by looking up the members that it knows: its kind, what any node can carry, and the
fields of its kind. So the order in which a parser writes them has no say in what is read, and no member
under another key has one, be it a field of some other kind. This holds of the error that ends the reading
as well as of the tree: which of several errors is found depends on the fields of the kinds alone.
-/

namespace OutlineWiki

/-- The fields of a kind: the one that holds its children, if it can have any, and those that hold a
value. -/
def Kind.fields (kind : Kind) : List String :=
  kind.childField?.toList ++ kind.valueFields

/-- The field for children is none of the other keys under which a node object is read. -/
theorem Kind.childField_beside {kind : Kind} {field : String} (isField : kind.childField? = some field) :
    field ≠ "node_type" ∧ field ∉ "metadata" :: "source_location" :: kind.valueFields := by
  obtain ⟨notKind, notMetadata, notLocation, notValue⟩ := kind.childField?_ne
  simp only [List.mem_cons, not_or]
  exact ⟨fun same => notKind (same ▸ isField), fun same => notMetadata (same ▸ isField),
    fun same => notLocation (same ▸ isField), fun isValue => notValue field isValue isField⟩

namespace Json

/-! ## Rearranging node objects -/

/-- The keys of the members that an object knows as a node. An object that names no kind has no fields. -/
def nodeKeys (members : List (String × Json)) : List String :=
  "node_type" :: "metadata" :: "source_location" :: (kindOf? members).elim [] Kind.fields

/-- A slot for a value in a list that a member of an object holds: all that stands around it. -/
structure Slot where
  before : List (String × Json)
  field : String
  earlier : List Json
  later : List Json
  after : List (String × Json)

/-- The members of the object with a value in a slot. -/
def Slot.filled (slot : Slot) (value : Json) : List (String × Json) :=
  slot.before ++ (slot.field, .array (slot.earlier ++ value :: slot.later)) :: slot.after

/-- One change to a node object of a value: its members are put in another order, a member that it does not
know is added or removed, or a node object in its list of children is changed in this way. -/
inductive Rearranges : Json → Json → Prop where
  | order {members others : List (String × Json)} (same : members.Perm others) :
      Rearranges (.object members) (.object others)
  | add {before after : List (String × Json)} {key : String} (value : Json)
      (foreign : key ∉ nodeKeys (before ++ after)) :
      Rearranges (.object (before ++ after)) (.object (before ++ (key, value) :: after))
  | remove {before after : List (String × Json)} {key : String} {value : Json}
      (foreign : key ∉ nodeKeys (before ++ (key, value) :: after)) :
      Rearranges (.object (before ++ (key, value) :: after)) (.object (before ++ after))
  | child {slot : Slot} {kind : Kind} {item other : Json}
      (named : kindOf? (slot.filled item) = some kind) (isField : kind.childField? = some slot.field)
      (inner : Rearranges item other) :
      Rearranges (.object (slot.filled item)) (.object (slot.filled other))

/-- In the node objects of a value no member that is read stands twice. Every change keeps this, while members
that are not read can be added under a key that stands there already. -/
inductive ReadOnce : Json → Prop where
  | object {members : List (String × Json)}
      (once : ∀ key ∈ nodeKeys members, (members.map (·.1)).count key ≤ 1)
      (children : ∀ kind field items, kindOf? members = some kind → kind.childField? = some field →
        (field, .array items) ∈ members → ∀ item ∈ items, ReadOnce item) : ReadOnce (.object members)
  | other {value : Json} (noObject : ∀ members, value ≠ .object members) : ReadOnce value

/-- Two values are read as the same tree, or refused with the same error, by either reader. -/
def DecodedAlike (value other : Json) : Prop :=
  ∀ strictness, Node.decode strictness other = Node.decode strictness value

variable {members others before after : List (String × Json)} {key : String}

/-! ## Finding members after a change -/

/-- A member whose key stands but once is found in every order of the members. -/
theorem member?_of_perm (once : (members.map (·.1)).count key ≤ 1) (same : members.Perm others) :
    member? others key = member? members key := by
  have found : ∀ list : List (String × Json),
      member? list key = (list.filter fun member => member.1 == key).head?.map (·.2) := fun list => by
    rw [member?, List.head?_filter]
  have short : (members.filter fun member => member.1 == key).length ≤ 1 := by
    rw [List.count, List.countP_map] at once
    rwa [← List.countP_eq_length_filter]
  have filtered := same.filter fun member => member.1 == key
  rw [found, found]
  cases shape : members.filter fun member => member.1 == key with
  | nil =>
    rw [shape] at filtered
    rw [List.nil_perm.mp filtered]
  | cons member rest =>
    rw [shape] at filtered short
    obtain rfl : rest = [] := by simpa using short
    rw [List.singleton_perm.mp filtered]

/-- A member is found past one under another key. -/
theorem member?_insert_of_ne {other : String} (different : key ≠ other) (value : Json) :
    member? (before ++ (key, value) :: after) other = member? (before ++ after) other := by
  rw [member?_append, member?_append, member?_cons_of_ne different]

/-- A key of a node is that of its kind, that of something any node can carry, or a field. -/
theorem mem_nodeKeys {kind : Kind} (named : kindOf? members = some kind) :
    key ∈ nodeKeys members ↔
      key = "node_type" ∨ key = "metadata" ∨ key = "source_location" ∨ kind.childField? = some key ∨
        key ∈ kind.valueFields := by
  simp [nodeKeys, named, Kind.fields]

/-- Objects whose members name the same kind are of the same kind. -/
theorem kindOf?_congr (same : member? others "node_type" = member? members "node_type") :
    kindOf? others = kindOf? members := by
  rw [kindOf?, kindOf?, same]

/-- Objects of the same kind know the same keys. -/
theorem nodeKeys_congr (same : kindOf? others = kindOf? members) : nodeKeys others = nodeKeys members := by
  rw [nodeKeys, nodeKeys, same]

/-- A member that an object does not know leaves its kind. -/
theorem kindOf?_insert (foreign : key ≠ "node_type") (value : Json) :
    kindOf? (before ++ (key, value) :: after) = kindOf? (before ++ after) :=
  kindOf?_congr (member?_insert_of_ne foreign value)

end Json

namespace Node

variable {strictness : Strictness} {members others : List (String × Json)}

/-! ## Reading rearranged objects -/

/-- The children of an object are read from the member that holds them. -/
theorem childrenOf_congr {kind : Kind}
    (same : ∀ field ∈ kind.childField?, Json.member? others field = Json.member? members field) :
    childrenOf strictness kind others = childrenOf strictness kind members := by
  unfold childrenOf
  cases isField : kind.childField? with
  | none => rfl
  | some field =>
    have sameField := same field isField
    simp only
    cases found : Json.member? members field with
    | none => rw [childrenUnder, childrenUnder, sameField, found]
    | some value =>
      rw [found] at sameField
      cases value with
      | array items => rw [childrenUnder_array kind found, childrenUnder_array kind sameField]
      | _ => simp only [childrenUnder, sameField, found]

/-- Objects are read alike when they name the same kind, hold the same values beside the field for
children, and their children are read alike. -/
theorem decode_object_congr
    (named : Json.member? others "node_type" = Json.member? members "node_type")
    (alike : ∀ kind, kindOf? members = some kind →
      (∀ key ∈ "metadata" :: "source_location" :: kind.valueFields,
        Json.member? others key = Json.member? members key) ∧
      childrenOf strictness kind others = childrenOf strictness kind members) :
    decode strictness (.object others) = decode strictness (.object members) := by
  cases isKind : kindOf? members with
  | none =>
    rw [decode, decode, ofMembers, ofMembers, Json.kindOf?_congr named, isKind, named]
  | some kind =>
    obtain ⟨beside, children⟩ := alike kind isKind
    have attributes : Attributes.ofMembers kind others = Attributes.ofMembers kind members :=
      Attributes.ofMembers_congr (beside _ (by simp)) (beside _ (by simp))
    have parts : ∀ children attributes,
        ofParts kind others children attributes = ofParts kind members children attributes :=
      ofParts_congr fun field isField => beside field (by simp [isField])
    have otherKind := (Json.kindOf?_congr named).trans isKind
    rw [decode_named (kindOf?_eq_some.mp isKind), decode_named (kindOf?_eq_some.mp otherKind), children,
      attributes]
    simp only [parts]

/-- An object is read from the members that it knows. -/
theorem decode_nodeKeys_congr
    (same : ∀ key ∈ Json.nodeKeys members, Json.member? others key = Json.member? members key) :
    decode strictness (.object others) = decode strictness (.object members) := by
  refine decode_object_congr (same "node_type" (by simp [Json.nodeKeys])) fun kind named => ⟨?_, ?_⟩
  · intro key inside
    refine same key ((Json.mem_nodeKeys named).mpr ?_)
    simp only [List.mem_cons] at inside
    tauto
  · exact childrenOf_congr fun field isField => same field ((Json.mem_nodeKeys named).mpr (by simp_all))

/-- A list is read alike when one of its items is replaced by one that is read alike. -/
theorem decodeAll_replaced {earlier later : List Json} {item other : Json}
    (same : decode strictness other = decode strictness item) :
    decodeAll strictness (earlier ++ other :: later) = decodeAll strictness (earlier ++ item :: later) := by
  induction earlier with
  | nil => rw [List.nil_append, List.nil_append, decodeAll, decodeAll, same]
  | cons first earlier inductionHypothesis =>
    rw [List.cons_append, List.cons_append, decodeAll, decodeAll, inductionHypothesis]

end Node

namespace Json

/-! ## What a change keeps -/

/-- Where no key of an object stands twice, no member that is read does. -/
theorem readOnce_of_keysOnce {value : Json} (distinct : value.Everywhere KeysOnce) : value.ReadOnce := by
  induction value using inductionItems with
  | other value noObject => exact .other noObject
  | object members inductionHypothesis =>
    refine .object (fun key _ => List.nodup_iff_count_le_one.mp distinct.1 key) ?_
    intro kind field items _ _ inside item isItem
    have inMember := everywhereMembers_iff.mp distinct.2 _ inside
    exact inductionHypothesis field items inside item isItem
      (everywhereItems_iff.mp inMember.2 item isItem)

/-- What an object in which no member that is read stands twice is made of. -/
theorem readOnce_object_iff :
    ReadOnce (.object members) ↔ (∀ key ∈ nodeKeys members, (members.map (·.1)).count key ≤ 1) ∧
      ∀ kind field items, kindOf? members = some kind → kind.childField? = some field →
        (field, .array items) ∈ members → ∀ item ∈ items, ReadOnce item := by
  constructor
  · intro once
    cases once with
    | other noObject => exact absurd rfl (noObject members)
    | object once children => exact ⟨once, children⟩
  · exact fun parts => .object parts.1 parts.2

/-- An object of the same kind is as good when it has, under the keys that are read, no other members and
none more often. -/
theorem ReadOnce.ofMembers (once : ReadOnce (.object members)) (named : kindOf? others = kindOf? members)
    (noMore : ∀ key ∈ nodeKeys members, (others.map (·.1)).count key ≤ (members.map (·.1)).count key)
    (noOther : ∀ key ∈ nodeKeys members, ∀ value, (key, value) ∈ others → (key, value) ∈ members) :
    ReadOnce (.object others) := by
  obtain ⟨once, children⟩ := readOnce_object_iff.mp once
  refine .object (fun key isRead => ?_) fun kind field items isKind isField inside => ?_
  · rw [nodeKeys_congr named] at isRead
    exact (noMore key isRead).trans (once key isRead)
  · rw [named] at isKind
    have isRead := (mem_nodeKeys isKind).mpr (.inr (.inr (.inr (.inl isField))))
    exact children kind field items isKind isField (noOther field isRead _ inside)

/-- Where no member that is read stands twice, each is found in every order of the members. -/
theorem ReadOnce.member?_perm (once : ReadOnce (.object members)) (same : members.Perm others)
    (isRead : key ∈ nodeKeys members) : member? others key = member? members key :=
  member?_of_perm ((readOnce_object_iff.mp once).1 key isRead) same

/-- In another order of the members none of them stands twice. -/
theorem ReadOnce.perm (once : ReadOnce (.object members)) (same : members.Perm others) :
    ReadOnce (.object others) := by
  refine once.ofMembers (kindOf?_congr (once.member?_perm same (by simp [nodeKeys]))) ?_ ?_
  · exact fun key _ => ((same.map (·.1)).count_eq key).ge
  · exact fun key _ value inside => same.mem_iff.mpr inside

/-- Another order of the members is read alike. -/
theorem ReadOnce.decodedAlike_perm (once : ReadOnce (.object members)) (same : members.Perm others) :
    DecodedAlike (.object members) (.object others) :=
  fun _ => Node.decode_nodeKeys_congr fun _ isRead => once.member?_perm same isRead

/-- A member under a key that an object does not know stands apart from those that are read. -/
theorem ne_of_foreign (foreign : key ∉ nodeKeys members) {other : String} (isRead : other ∈ nodeKeys members) :
    key ≠ other :=
  fun same => foreign (same ▸ isRead)

/-- A member that an object does not know adds none that is read. -/
theorem readOnce_insert_iff (foreign : key ∉ nodeKeys (before ++ after)) (value : Json) :
    ReadOnce (.object (before ++ (key, value) :: after)) ↔ ReadOnce (.object (before ++ after)) := by
  have named : kindOf? (before ++ (key, value) :: after) = kindOf? (before ++ after) :=
    kindOf?_insert (ne_of_foreign foreign (by simp [nodeKeys])) value
  have sameCount : ∀ other ∈ nodeKeys (before ++ after),
      ((before ++ (key, value) :: after).map (·.1)).count other = ((before ++ after).map (·.1)).count other := by
    intro other isRead
    simp [List.count_append, List.count_cons_of_ne (ne_of_foreign foreign isRead)]
  have sameMembers : ∀ other ∈ nodeKeys (before ++ after), ∀ found,
      (other, found) ∈ before ++ (key, value) :: after ↔ (other, found) ∈ before ++ after := by
    intro other isRead found
    simp [(ne_of_foreign foreign isRead).symm]
  constructor <;> intro once
  · refine once.ofMembers named.symm ?_ ?_ <;> rw [nodeKeys_congr named]
    · exact fun other isRead => (sameCount other isRead).ge
    · exact fun other isRead found => (sameMembers other isRead found).mpr
  · refine once.ofMembers named ?_ ?_
    · exact fun other isRead => (sameCount other isRead).le
    · exact fun other isRead found => (sameMembers other isRead found).mp

/-- An object is read alike with a member that it does not know. -/
theorem decodedAlike_insert (foreign : key ∉ nodeKeys (before ++ after)) (value : Json) :
    DecodedAlike (.object (before ++ after)) (.object (before ++ (key, value) :: after)) :=
  fun _ => Node.decode_nodeKeys_congr fun _ isRead => member?_insert_of_ne (ne_of_foreign foreign isRead) value

/-- A member that an object does not know is one that the object without it does not know. -/
theorem foreign_without {value : Json} (foreign : key ∉ nodeKeys (before ++ (key, value) :: after)) :
    key ∉ nodeKeys (before ++ after) := by
  have notKind : key ≠ "node_type" := ne_of_foreign foreign (by simp [nodeKeys])
  rwa [nodeKeys_congr (kindOf?_insert notKind value)] at foreign

section Child

variable {slot : Slot} {kind : Kind} {item other : Json}

/-- No child has a member that is read and stands twice, where no object around it has. -/
theorem ReadOnce.child (once : ReadOnce (.object (slot.filled item)))
    (named : kindOf? (slot.filled item) = some kind) (isField : kind.childField? = some slot.field) :
    item.ReadOnce :=
  (readOnce_object_iff.mp once).2 kind slot.field (slot.earlier ++ item :: slot.later) named isField
    (by simp [Slot.filled]) item (by simp)

/-- Replacing a child leaves all other members of the object around it. -/
theorem member?_filled_of_ne (different : slot.field ≠ key) :
    member? (slot.filled other) key = member? (slot.filled item) key := by
  rw [Slot.filled, Slot.filled, member?_insert_of_ne different, member?_insert_of_ne different]

/-- Replacing a child leaves the kind of the object around it. -/
theorem kindOf?_filled (isField : kind.childField? = some slot.field) :
    kindOf? (slot.filled other) = kindOf? (slot.filled item) :=
  kindOf?_congr (member?_filled_of_ne (Kind.childField_beside isField).1)

/-- A child in which no member that is read stands twice can be replaced by another such child. -/
theorem ReadOnce.filled (once : ReadOnce (.object (slot.filled item)))
    (isField : kind.childField? = some slot.field) (otherOnce : other.ReadOnce) :
    ReadOnce (.object (slot.filled other)) := by
  obtain ⟨once, children⟩ := readOnce_object_iff.mp once
  have sameKind : kindOf? (slot.filled other) = kindOf? (slot.filled item) := kindOf?_filled isField
  refine .object (fun key isRead => ?_) fun named field items isNamed isName inside one isItem => ?_
  · rw [nodeKeys_congr sameKind] at isRead
    simpa [Slot.filled] using once key isRead
  · rw [sameKind] at isNamed
    have old := fun items => children named field items isNamed isName
    rw [Slot.filled, List.mem_append, List.mem_cons] at inside
    rcases inside with inBefore | isReplaced | inAfter
    · exact old items (by simp [Slot.filled, inBefore]) one isItem
    · obtain ⟨rfl, rfl⟩ : field = slot.field ∧ items = slot.earlier ++ other :: slot.later := by
        simpa using isReplaced
      have beside := old (slot.earlier ++ item :: slot.later) (by simp [Slot.filled]) one
      rcases List.mem_append.mp isItem with inEarlier | isLater
      · exact beside (by simp [inEarlier])
      · rcases List.mem_cons.mp isLater with rfl | inLater
        · exact otherOnce
        · exact beside (by simp [inLater])
    · exact old items (by simp [Slot.filled, inAfter]) one isItem

/-- What is found under the field of a slot is a member before it, or the list with the value in it. -/
theorem member?_filled (slot : Slot) (value : Json) :
    member? (slot.filled value) slot.field =
      (member? slot.before slot.field).or (some (.array (slot.earlier ++ value :: slot.later))) := by
  rw [Slot.filled, member?_append, member?_cons_self]

/-- An object is read alike with a child that is read alike. -/
theorem DecodedAlike.filled (same : DecodedAlike item other) (named : kindOf? (slot.filled item) = some kind)
    (isField : kind.childField? = some slot.field) :
    DecodedAlike (.object (slot.filled item)) (.object (slot.filled other)) := by
  intro strictness
  obtain ⟨notKind, beside⟩ := Kind.childField_beside isField
  refine Node.decode_object_congr (member?_filled_of_ne notKind) fun found isFound => ?_
  obtain rfl : kind = found := Option.some.inj (named.symm.trans isFound)
  refine ⟨fun key inside => member?_filled_of_ne fun isKey => beside (isKey ▸ inside), ?_⟩
  have found := member?_filled slot
  cases first : member? slot.before slot.field with
  | some value =>
    -- An earlier member under the field hides the list.
    refine Node.childrenOf_congr fun field isThis => ?_
    obtain rfl : slot.field = field := Option.some.inj (isField.symm.trans isThis)
    rw [found, found, first, Option.some_or, Option.some_or]
  | none =>
    simp only [first, Option.none_or] at found
    rw [Node.childrenOf, Node.childrenOf, isField]
    calc
      childrenUnder kind _ _ slot.field
      _ = Node.decodeAll strictness (slot.earlier ++ other :: slot.later) :=
        Node.childrenUnder_array kind (found other)
      _ = Node.decodeAll strictness (slot.earlier ++ item :: slot.later) :=
        Node.decodeAll_replaced (same strictness)
      _ = childrenUnder kind _ _ slot.field := (Node.childrenUnder_array kind (found item)).symm

end Child

/-! ## What a run of changes keeps -/

/-- After one change no member that is read stands twice. -/
theorem Rearranges.readOnce {value other : Json} (step : value.Rearranges other) (once : value.ReadOnce) :
    other.ReadOnce := by
  induction step with
  | order same => exact once.perm same
  | add value foreign => exact (readOnce_insert_iff foreign value).mpr once
  | @remove _ _ _ value foreign => exact (readOnce_insert_iff (foreign_without foreign) value).mp once
  | child named isField _ inductionHypothesis =>
    exact once.filled isField (inductionHypothesis (once.child named isField))

/-- After one change a value is read alike. -/
theorem Rearranges.decodedAlike {value other : Json} (step : value.Rearranges other) (once : value.ReadOnce) :
    value.DecodedAlike other := by
  induction step with
  | order same => exact once.decodedAlike_perm same
  | add value foreign => exact decodedAlike_insert foreign value
  | @remove _ _ _ value foreign =>
    exact fun strictness => (decodedAlike_insert (foreign_without foreign) value strictness).symm
  | child named isField _ inductionHypothesis =>
    exact (inductionHypothesis (once.child named isField)).filled named isField

/-- After any number of changes no member that is read stands twice, and a value is read alike. -/
theorem keeps_rearranged {value other : Json} (arises : Relation.ReflTransGen Rearranges value other)
    (once : value.ReadOnce) : other.ReadOnce ∧ value.DecodedAlike other := by
  induction arises with
  | refl => exact ⟨once, fun _ => rfl⟩
  | tail _ step inductionHypothesis =>
    obtain ⟨between, alike⟩ := inductionHypothesis
    exact ⟨step.readOnce between, fun strictness =>
      (step.decodedAlike between strictness).trans (alike strictness)⟩

end Json

/-- Neither the order of the members of node objects nor members that these do not know have a say in what
is read: where no key of an object stands twice, a value that arises by such changes is read as the same
tree, or refused with the same error, by a strict reader as well as by a lenient one. -/
theorem order_and_foreign_members_ignored {value other : Json} (distinct : value.Everywhere Json.KeysOnce)
    (arises : Relation.ReflTransGen Json.Rearranges value other) (strictness : Strictness) :
    Node.ofJson strictness other = Node.ofJson strictness value := by
  have read := (Json.keeps_rearranged arises (Json.readOnce_of_keysOnce distinct)).2 strictness
  rw [Node.ofJson, Node.ofJson, read]

/-- A document with faults in its metadata and in two fields of its heading, before and after its members
and those of the heading are put in reverse order, the table's field that it holds is left out, and an
address is added to the heading: the heading's content is refused both times. -/
theorem faultyHeading_read_alike :
    let heading : List (String × Json) :=
      [("node_type", .string "Heading"), ("level", .int 9), ("content", .string "x")]
    let document (heading : Json) : List (String × Json) :=
      [("metadata", .int 1), ("node_type", .string "Document"), ("children", .array [heading])]
    let before : Json := .object (("rows", .int 5) :: document (.object heading))
    let after : Json := .object (document (.object (("url", .string "u") :: heading.reverse))).reverse
    before.Everywhere Json.KeysOnce ∧ Relation.ReflTransGen Json.Rearranges before after ∧
      Node.ofJson .strict after = Node.ofJson .strict before ∧
      Node.ofJson .lenient after = Node.ofJson .lenient before ∧
      Node.ofJson .strict before = .error (.childrenNotAList .heading "content" (.string "x")) := by
  intro heading document before after
  have distinct : before.Everywhere Json.KeysOnce := by
    simp [before, document, heading, Json.Everywhere, Json.EverywhereItems, Json.EverywhereMembers,
      Json.KeysOnce]
  let slot : Json.Slot :=
    { before := [("metadata", .int 1), ("node_type", .string "Document")], field := "children",
      earlier := [], later := [], after := [] }
  have leftOut : Json.Rearranges before (.object (slot.filled (.object heading))) :=
    @Json.Rearranges.remove [] _ "rows" (.int 5) (by decide)
  have reversed : Json.Rearranges (.object heading) (.object heading.reverse) :=
    .order (List.reverse_perm heading).symm
  have added : Json.Rearranges (.object heading.reverse) (.object (("url", .string "u") :: heading.reverse)) :=
    @Json.Rearranges.add [] heading.reverse "url" (.string "u") (by decide)
  have inReverse : Json.Rearranges
      (.object (slot.filled (.object (("url", .string "u") :: heading.reverse)))) after :=
    .order (List.reverse_perm _).symm
  have arises : Relation.ReflTransGen Json.Rearranges before after :=
    (((Relation.ReflTransGen.single leftOut).tail (.child rfl rfl reversed)).tail (.child rfl rfl added)).tail
      inReverse
  exact ⟨distinct, arises, order_and_foreign_members_ignored distinct arises .strict,
    order_and_foreign_members_ignored distinct arises .lenient, rfl⟩

end OutlineWiki
