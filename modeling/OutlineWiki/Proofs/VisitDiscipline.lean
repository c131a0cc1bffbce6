import OutlineWiki.Proofs.BufferedVisits

/-!
# What a visit leaves behind

A visit of a node that comes to its end has only appended to the buffer, and leaves the table being written,
the list level and the numbers of the open lists as they were. One number can differ: that of the innermost
list, when the visit let an item take it. It did so where the node reaches the item without passing through a
list, or where it reaches a row for which a cell of the table being written was measured and reaches one.
-/

namespace OutlineWiki

namespace Markup

variable {options : Options} {node : Node} {desk after : Desk}

/-- What is known after a visit: the list level is the same, and so are the numbers of the open lists, of
which items may have taken the innermost if they may. -/
def Footing.since (state : State) (mayTake : Prop) : Footing := fun level numbers =>
  level = state.listLevel ∧ (numbers = state.numbers ∨ mayTake ∧ numbers = numbersAfterItem state.numbers)

/-- Items that may take a number do not disturb what is known. -/
theorem Footing.letsTake_since (state : State) {mayTake : Prop} (may : mayTake) :
    (Footing.since state mayTake).LetsTake := by
  rintro level numbers ⟨same, rfl | ⟨-, rfl⟩⟩
  · exact ⟨same, .inr ⟨may, rfl⟩⟩
  · exact ⟨same, .inr ⟨may, numbersAfterItem_numbersAfterItem _⟩⟩

/-- A number that was taken is now one, or there was none to take. -/
theorem numbersAfterItem_cases (numbers : List Json) :
    numbersAfterItem numbers = numbers ∨
      ∃ number outer, numbers = number :: outer ∧ numbersAfterItem numbers = .int 1 :: outer := by
  cases numbers with
  | nil => exact .inl rfl
  | cons number outer =>
    cases number with
    | null => exact .inl rfl
    | _ => exact .inr ⟨_, outer, rfl, rfl⟩

end Markup

open Markup

/-- A visit of a node, of whatever kind and from whatever state, that comes to its end has only appended to
the buffer and leaves the table being written and the list level as they were. The numbers of the open lists
are the same, but that the innermost may have become one; this only where an item is reached from the node
without passing through a list, or where a row is so reached outside of any table below the node and an item
is so reached from a cell of the table being written. -/
theorem visit_leaves_desk (options : Options) (node : Node) (desk after : Desk)
    (visited : (node.visit options).run desk = .ok () after) :
    desk.output <+: after.output ∧ after.current = desk.current ∧
      after.state.listLevel = desk.state.listLevel ∧
      (after.state.numbers = desk.state.numbers ∨
        (∃ number outer, desk.state.numbers = number :: outer ∧ after.state.numbers = .int 1 :: outer) ∧
          (node.ReachesItem ∨ node.ReachesRow ∧ ∃ table ∈ desk.current, table.MeasuresItem)) := by
  obtain ⟨state, output, current⟩ := desk
  have enacted := appends_visit options node current state output
  have writes : WriteAlike options node node := (linkedNodes_self node).writes
  have kept := writes (CurrentTable.aroundLinked options current) (Footing.letsTake_since state) state state
    (.refl state) ⟨rfl, .inl rfl⟩
  rw [visited] at enacted
  revert enacted kept
  generalize (node.writer (tableWriter .remembering) options
    (current.map (CurrentTable.surroundings · options))).run state = ended
  intro enacted kept
  cases enacted with
  | @ok pieces last =>
    cases kept with
    | ok _ _ known =>
      obtain ⟨level, numbers⟩ := known
      refine ⟨List.prefix_append _ _, rfl, level, ?_⟩
      rcases numbers with same | ⟨may, taken⟩
      · exact .inl same
      · have reached := may.imp_right And.symm
        rcases numbersAfterItem_cases state.numbers with none | ⟨number, outer, isNumber, now⟩
        · exact .inl (taken.trans none)
        · exact .inr ⟨⟨number, outer, isNumber, taken.trans now⟩, reached⟩

/-- A row with an empty cell. -/
def emptyRow : Node :=
  .tableRow {} 1 [.tableCell {} []]

/-- A desk in an ordered list that starts with five, at a table of the row with an empty cell and of a row with
an item in its cell. -/
def deskAtTable : Desk where
  state := { listLevel := 1, numbers := [.int 5] }
  current := some { key := 0, layout := (TableLayout.ofRows
    [emptyRow, .tableRow {} 2 [.tableCell {} [.listItem {} []]]]).toOption.getD default }

/-- What a visit leaves of the numbers of the open lists, as they are shown. -/
def numbersLeft (options : Options) (node : Node) (desk : Desk) : Option (List String) :=
  match (node.visit options).run desk with
  | .ok _ after => some (after.state.numbers.map Json.shown)
  | .error .. => none

/-- A visit that leaves numbers has come to its end. -/
theorem of_numbersLeft {options : Options} {node : Node} {desk : Desk} {numbers : List String}
    (left : numbersLeft options node desk = some numbers) :
    ∃ after, (node.visit options).run desk = .ok () after ∧ after.state.numbers.map Json.shown = numbers := by
  unfold numbersLeft at left
  cases visited : (node.visit options).run desk with
  | ok value after =>
    rw [visited] at left
    exact ⟨after, rfl, Option.some.inj left⟩
  | error failure after =>
    rw [visited] at left
    cases left

/-- The row with an empty cell has only appended to the buffer, and leaves the table being written as it was. -/
theorem visit_leaves_desk_at_row :
    ∃ after, (emptyRow.visit {}).run deskAtTable = .ok () after ∧ deskAtTable.output <+: after.output ∧
      after.current = deskAtTable.current := by
  obtain ⟨after, visited, -⟩ : ∃ after, (emptyRow.visit {}).run deskAtTable = .ok () after ∧
      after.state.numbers.map Json.shown = ["1"] := of_numbersLeft (by decide +kernel)
  have kept := visit_leaves_desk {} emptyRow deskAtTable after visited
  exact ⟨after, visited, kept.1, kept.2.1⟩

/-- The row with an empty cell reaches no item, but its visit takes the number of the list around it. -/
theorem row_takes_number :
    ¬ emptyRow.ReachesItem ∧
      ∃ after, (emptyRow.visit {}).run deskAtTable = .ok () after ∧
        after.state.numbers ≠ deskAtTable.state.numbers := by
  constructor
  · rintro ⟨item, isItem, reached⟩
    cases reached with
    | self => cases isItem
    | child _ isCell reached =>
      simp only [emptyRow, Node.children, List.mem_singleton] at isCell
      subst isCell
      cases reached with
      | self => cases isItem
      | child _ none _ => cases none
  · obtain ⟨after, visited, one⟩ : ∃ after, (emptyRow.visit {}).run deskAtTable = .ok () after ∧
        after.state.numbers.map Json.shown = ["1"] := of_numbersLeft (by decide +kernel)
    refine ⟨after, visited, fun same => ?_⟩
    rw [same] at one
    exact absurd one (by decide +kernel)

end OutlineWiki
