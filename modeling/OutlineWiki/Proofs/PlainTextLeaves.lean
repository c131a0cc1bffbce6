import OutlineWiki.Proofs.JoinedTexts
import OutlineWiki.Proofs.LayoutsMade
import OutlineWiki.Proofs.TreeObjects

/-!
# Plain text and its leaves

Plain text is joined level by level, and what is empty is left out at every level. The result does not show
the levels: it is one join of the contents that the texts and inline codes of the tree's object hold, taken
depth first. The object says which of its members hold children by its kind alone, apart from the walk that
joins.
-/

namespace OutlineWiki

namespace Json

/-! ## The leaves of an object -/

/-- What stands under `content` where that is a string. -/
def contentTexts (members : List (String × Json)) : List String :=
  match member? members "content" with
  | some (.string content) => [content]
  | _ => []

mutual

/-- What the texts and inline codes among the node objects of a value hold, depth first. Node objects are
the value itself and the objects in the child lists of node objects. -/
def leafTexts : Json → List String
  | .object members =>
    match kindOf? members with
    | some .text | some .code => contentTexts members
    | some kind => leafTextsUnder kind.childField? members
    | none => []
  | _ => []

/-- What the texts and inline codes of a list of values hold. -/
def leafTextsAll : List Json → List String
  | [] => []
  | item :: rest => leafTexts item ++ leafTextsAll rest

/-- What the texts and inline codes in a list of children hold; a value that is no list has none. -/
def leafTextsIn : Json → List String
  | .array items => leafTextsAll items
  | _ => []

/-- What the texts and inline codes in the members with a field's name hold. -/
def leafTextsUnder (field? : Option String) : List (String × Json) → List String
  | [] => []
  | (key, value) :: rest =>
    (if field? = some key then leafTextsIn value else []) ++ leafTextsUnder field? rest

end

/-- The leaves of a list are those of its items, one after the other. -/
theorem leafTextsAll_eq_flatMap (items : List Json) : leafTextsAll items = items.flatMap leafTexts := by
  induction items with
  | nil => rfl
  | cons item rest inductionHypothesis => rw [leafTextsAll, inductionHypothesis, List.flatMap_cons]

/-- The members of two lists have the leaves of the one and then those of the other. -/
theorem leafTextsUnder_append (field? : Option String) (first second : List (String × Json)) :
    leafTextsUnder field? (first ++ second) = leafTextsUnder field? first ++ leafTextsUnder field? second := by
  induction first with
  | nil => rfl
  | cons member rest inductionHypothesis =>
    rw [List.cons_append, leafTextsUnder, leafTextsUnder, inductionHypothesis, List.append_assoc]

end Json

/-- What a node carries beside its fields is in no list of children. -/
theorem Attributes.leafTextsUnder_members (field? : Option String) (attributes : Attributes) :
    Json.leafTextsUnder field? attributes.members = [] := by
  obtain ⟨metadata, location⟩ := attributes
  cases metadata <;> cases location <;>
    simp [Attributes.members, metadataMember, SourceLocation.toJson, Json.leafTextsUnder, Json.leafTextsIn]

namespace Node

/-- The leaves in the lists of children of a node's object are those of the node's children. -/
theorem leafTextsUnder_members (node : Node) :
    Json.leafTextsUnder node.kind.childField? node.members =
      node.children.flatMap fun child => Json.leafTexts child.toJson := by
  have listed (nodes : List Node) : Json.leafTextsIn (.array (toJsonAll nodes)) =
      nodes.flatMap fun child => Json.leafTexts child.toJson := by
    rw [Json.leafTextsIn, Json.leafTextsAll_eq_flatMap, toJsonAll_eq_map, List.flatMap_map]
  have own : Json.leafTextsUnder node.kind.childField? node.fields =
      node.children.flatMap fun child => Json.leafTexts child.toJson := by
    cases node with
    | styled attributes style content =>
      cases style <;>
        simp [kind, Style.kind, Kind.childField?, fields, children, Json.leafTextsUnder, listed]
    | ruleRow => rfl
    | _ => simp [kind, Kind.childField?, fields, children, Json.leafTextsUnder, listed]
  rw [members_eq, nodeMembers, Json.leafTextsUnder, Json.leafTextsUnder_append, own,
    Attributes.leafTextsUnder_members, List.append_nil]
  split <;> rfl

/-- The object of a text or an inline code has one leaf: the string it holds. -/
theorem leafTexts_of_ownText {node : Node} {text : String} (own : node.ownText? = some (.string text)) :
    Json.leafTexts node.toJson = [text] := by
  have named : kindOf? node.members = some node.kind := by rw [members_eq, kindOf?_nodeMembers]
  cases node with
  | text | code =>
    obtain rfl := Option.some.inj own
    rw [toJson, Json.leafTexts, named]
    rfl
  | _ => cases own

/-- The leaves of any other object are those of its children. -/
theorem leafTexts_of_children {node : Node} (other : node.ownText? = none) :
    Json.leafTexts node.toJson = node.children.flatMap fun child => Json.leafTexts child.toJson := by
  have named : kindOf? node.members = some node.kind := by rw [members_eq, kindOf?_nodeMembers]
  rw [← leafTextsUnder_members, toJson, Json.leafTexts, named]
  cases node with
  | text | code => cases other
  | styled attributes style content => cases style <;> rfl
  | _ => rfl

/-! ## One join -/

/-- Trees whose plain texts are joins of their leaves have one join of all their leaves. -/
theorem intercalate_leaves (joiner : String) {nodes : List Node}
    (each : ∀ node ∈ nodes,
      node.plainString joiner = joiner.intercalate ((Json.leafTexts node.toJson).filter (· != ""))) :
    joiner.intercalate ((nodes.map (plainString joiner)).filter (· != "")) =
      joiner.intercalate ((nodes.flatMap fun node => Json.leafTexts node.toJson).filter (· != "")) := by
  let leaves := nodes.map fun node => (Json.leafTexts node.toJson).filter (· != "")
  have filled : ∀ group ∈ leaves, ∀ text ∈ group, text ≠ "" := by simp [leaves]
  rw [List.map_congr_left each, List.filter_flatMap, List.flatMap_def, ← Text.intercalate_filled joiner filled,
    List.map_map]
  rfl

/-- The plain text of a tree whose texts are strings is one join of its leaves that are not empty. -/
theorem plainString_eq_leaves (joiner : String) {node : Node} (strings : node.Everywhere (·.hasStringText = true)) :
    node.plainString joiner = joiner.intercalate ((Json.leafTexts node.toJson).filter (· != "")) := by
  induction node using inductionChildren with
  | step node inductionHypothesis =>
    obtain ⟨root, inChildren⟩ := everywhere_iff.mp strings
    cases own : node.ownText? with
    | some content =>
      rw [plainString_of_ownText root own]
      rw [hasStringText, own] at root
      cases content with
      | string text =>
        rw [leafTexts_of_ownText own, Json.shown]
        by_cases empty : text = ""
        · rw [empty]
          rfl
        · rw [List.filter_cons_of_pos (by simpa using empty), List.filter_nil, String.intercalate_singleton]
      | _ => cases root
    | none =>
      rw [plainString_of_children joiner strings own, leafTexts_of_children own]
      exact intercalate_leaves joiner fun child inside =>
        inductionHypothesis child inside (inChildren child inside)

end Node

/-- Plain text is one join of leaves. Of a tree, or of a list of trees, whose texts and inline codes hold
strings, it joins what the texts and inline codes among the node objects hold, in depth-first order and as far
as it is not empty, at whatever depth and with however many empty subtrees between; with nothing to put between
them it is all of them one after the other. -/
theorem plainText_joins_leaves :
    (∀ (joiner : String) (node : Node), node.Everywhere (·.hasStringText = true) →
      node.plainText joiner =
        .ok (.string (joiner.intercalate ((Json.leafTexts node.toJson).filter (· != ""))))) ∧
    (∀ (joiner : String) (nodes : List Node), (∀ node ∈ nodes, node.Everywhere (·.hasStringText = true)) →
      Node.joinedText joiner nodes =
        .ok (joiner.intercalate ((nodes.flatMap fun node => Json.leafTexts node.toJson).filter (· != "")))) ∧
    (∀ node : Node, node.Everywhere (·.hasStringText = true) →
      node.plainText "" = .ok (.string (String.join (Json.leafTexts node.toJson)))) ∧
    ∀ nodes : List Node, (∀ node ∈ nodes, node.Everywhere (·.hasStringText = true)) →
      Node.joinedText "" nodes = .ok (String.join (nodes.flatMap fun node => Json.leafTexts node.toJson)) := by
  have tree (joiner : String) {node : Node} (strings : node.Everywhere (·.hasStringText = true)) :
      node.plainText joiner =
        .ok (.string (joiner.intercalate ((Json.leafTexts node.toJson).filter (· != "")))) := by
    rw [Node.plainText_strings joiner strings, Node.plainString_eq_leaves joiner strings]
  have trees (joiner : String) {nodes : List Node}
      (strings : ∀ node ∈ nodes, node.Everywhere (·.hasStringText = true)) :
      Node.joinedText joiner nodes =
        .ok (joiner.intercalate ((nodes.flatMap fun node => Json.leafTexts node.toJson).filter (· != ""))) := by
    rw [Node.joinedText_strings fun node inside => Node.plainText_strings joiner (strings node inside),
      Node.intercalate_leaves joiner fun node inside => Node.plainString_eq_leaves joiner (strings node inside)]
  refine ⟨fun joiner node => tree joiner, fun joiner nodes => trees joiner, fun node strings => ?_,
    fun nodes strings => ?_⟩
  · rw [tree "" strings, Text.intercalate_empty, Text.join_filter_filled]
  · rw [trees "" strings, Text.intercalate_empty, Text.join_filter_filled]

/-- Leaves at several depths, with empty texts, nodes without text, a rule and a code block between them, and
beside the first of them metadata that looks like a text. -/
def scatteredLeaves : Node :=
  .document {}
    [.heading {} (.int 1)
        [.text { metadata := [("node_type", .string "Text"), ("content", .string "beside")] } (.string "a"),
          .styled {} .strong [.text {} (.string ""), .link {} (.string "u") []]],
      .codeBlock {} (.string "code") .null,
      .list {} (.bool true) (.array [.object [("node_type", .string "Text")]]) [.listItem {} []],
      .table {} 0 [.ruleRow {} 1, .tableRow {} 2 [.tableCell {} [.code {} (.string "b")]]],
      .blockQuote {} [.document {} [.paragraph {} [.text {} (.string "c")]]]]

/-- The leaves of a tree are joined as if all stood side by side. -/
theorem scatteredLeaves_joined :
    scatteredLeaves.Everywhere (·.hasStringText = true) ∧
      scatteredLeaves.plainText ", " = .ok (.string "a, b, c") ∧
      Node.joinedText "" [scatteredLeaves, scatteredLeaves] = .ok "abcabc" := by
  have strings : scatteredLeaves.Everywhere (·.hasStringText = true) := Node.everywhere_iff_nodes.mpr (by decide)
  have leaves : Json.leafTexts scatteredLeaves.toJson = ["a", "", "b", "c"] := by decide +kernel
  refine ⟨strings, ?_, ?_⟩
  · rw [plainText_joins_leaves.1 ", " scatteredLeaves strings, leaves]
    rfl
  · rw [plainText_joins_leaves.2.2.2 [scatteredLeaves, scatteredLeaves] (by simpa using strings)]
    simp only [List.flatMap_cons, List.flatMap_nil, leaves]
    rfl

end OutlineWiki
