import OutlineWiki.Document.Kind
import OutlineWiki.Proofs.TableLines

/-!
# Fresh keys

The keys of a numbered tree are consecutive numbers in the order of the text. No two are equal, so its
tables and its rows are all different objects.
-/

namespace OutlineWiki

namespace Node

/-- The key of a table or of a row. -/
def ownKey? : Node → Option Nat
  | .table _ key _ | .tableRow _ key _ | .ruleRow _ key => some key
  | _ => none

/-- The keys in a tree, in the order of the text. -/
def keys (node : Node) : List Nat :=
  node.nodes.filterMap ownKey?

/-- The keys in a tree are its root's, if it has one, and those in its children. -/
theorem keys_eq (node : Node) : node.keys = node.ownKey?.toList ++ node.children.flatMap keys :=
  filterMap_nodes ownKey? node

/-- The keys in a part of a tree are keys of the tree, in the same order. -/
theorem keys_sublist {inner node : Node} (within : Within inner node) : inner.keys.Sublist node.keys :=
  (nodes_sublist within).filterMap ownKey?

/-- Numbering gives the first key to the root, if it has a key, and the next ones to the children. -/
theorem numberFrom_parts (next : Nat) (node : Node) :
    (numberFrom next node).1.ownKey? = node.ownKey?.map (fun _ => next) ∧
      (numberFrom next node).1.children =
        (numberAllFrom (next + node.ownKey?.toList.length) node.children).1 ∧
      (numberFrom next node).2 = (numberAllFrom (next + node.ownKey?.toList.length) node.children).2 := by
  cases node <;> simp [numberFrom, numberAllFrom, ownKey?, children]

/-- The keys in a tree that is numbered from a number on are the numbers from there up to the first free
one. -/
theorem keys_numberFrom (next : Nat) (node : Node) :
    ∃ count, (numberFrom next node).1.keys = List.range' next count ∧
      (numberFrom next node).2 = next + count := by
  induction node using inductionChildren generalizing next with
  | step node inductionHypothesis =>
    have all : ∀ (nodes : List Node) (first : Nat), (∀ child ∈ nodes, child ∈ node.children) →
        ∃ count, (numberAllFrom first nodes).1.flatMap keys = List.range' first count ∧
          (numberAllFrom first nodes).2 = first + count := by
      intro nodes
      induction nodes with
      | nil => exact fun first _ => ⟨0, rfl, rfl⟩
      | cons child rest restHypothesis =>
        intro first inside
        obtain ⟨count, childKeys, childFree⟩ :=
          inductionHypothesis child (inside child List.mem_cons_self) first
        obtain ⟨more, restKeys, restFree⟩ := restHypothesis (numberFrom first child).2
          fun other isOther => inside other (List.mem_cons_of_mem child isOther)
        rw [childFree] at restKeys restFree
        refine ⟨count + more, ?_, ?_⟩
        · simp only [numberAllFrom, List.flatMap_cons, childKeys, childFree, restKeys]
          rw [List.range'_append_1]
        · simp only [numberAllFrom, childFree, restFree]
          omega
    obtain ⟨own, children, free⟩ := numberFrom_parts next node
    obtain ⟨count, childKeys, childFree⟩ :=
      all node.children (next + node.ownKey?.toList.length) fun _ inside => inside
    refine ⟨node.ownKey?.toList.length + count, ?_, ?_⟩
    · rw [keys_eq, own, children, childKeys]
      cases node.ownKey? with
      | none => simp
      | some key => simp [List.range'_succ, Nat.add_comm 1 count]
    · rw [free, childFree]
      omega

/-- No two keys in a numbered tree are equal. -/
theorem nodup_keys_numbered (node : Node) : node.numbered.keys.Nodup := by
  obtain ⟨count, keys, -⟩ := keys_numberFrom 0 node
  rw [numbered, keys]
  exact List.nodup_range'

/-- Where no two keys are equal, tables are identified by their keys. -/
theorem keysIdentify_of_nodup_keys {node : Node} (once : node.keys.Nodup) : node.KeysIdentify := by
  refine keysIdentify_of_nodup (once.sublist ?_)
  have weaker : ∀ nodes : List Node, (nodes.filterMap tableKey?).Sublist (nodes.filterMap ownKey?) := by
    intro nodes
    induction nodes with
    | nil => exact .refl _
    | cons node rest inductionHypothesis =>
      cases node with
      | table => exact inductionHypothesis.cons_cons _
      | tableRow | ruleRow => exact inductionHypothesis.cons _
      | _ => exact inductionHypothesis
  exact weaker node.nodes

/-- Where no two keys are equal, the rows of a table are different objects. -/
theorem differentRows_of_nodup_keys {node : Node} (once : node.keys.Nodup) {attributes : Attributes}
    {key : Nat} {rows : List Node} (within : Within (.table attributes key rows) node)
    (areRows : ∀ row ∈ rows, row.rowKey?.isSome) : TableLayout.DifferentRows rows := by
  have inTable : (rows.flatMap keys).Nodup := by
    have tableOnce := once.sublist (keys_sublist within)
    rw [keys_eq] at tableOnce
    exact tableOnce.of_append_right
  have own : ∀ {rows : List Node}, (∀ row ∈ rows, row.rowKey?.isSome) →
      ∃ found : List Nat, rows.map rowKey? = found.map some ∧ found.Sublist (rows.flatMap keys) := by
    intro rows
    induction rows with
    | nil => exact fun _ => ⟨[], rfl, .refl _⟩
    | cons row rest inductionHypothesis =>
      intro areRows
      obtain ⟨found, isFound, inRest⟩ := inductionHypothesis fun other inside =>
        areRows other (List.mem_cons_of_mem row inside)
      obtain ⟨rowKey, isKey⟩ := Option.isSome_iff_exists.mp (areRows row List.mem_cons_self)
      have first : [rowKey].Sublist row.keys := by
        rw [keys_eq]
        cases row with
        | tableRow | ruleRow =>
          obtain rfl := Option.some.inj isKey
          exact List.sublist_append_left _ _
        | _ => cases isKey
      exact ⟨rowKey :: found, by rw [List.map_cons, List.map_cons, isKey, isFound], first.append inRest⟩
  obtain ⟨found, isFound, inRows⟩ := own areRows
  rw [TableLayout.DifferentRows, isFound]
  exact (inTable.sublist inRows).map fun _ _ same => Option.some.inj same

end Node

end OutlineWiki
