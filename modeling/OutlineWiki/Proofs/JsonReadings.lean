import OutlineWiki.Proofs.JsonValues

/-!
# Values that were read

The reader keeps the last of several members with one key, so in an object that was read no key stands
twice, at any depth. A value without doubles that was read is therefore one that its text determines.
-/

namespace OutlineWiki.Json

/-- The keys of an object after a member was set are its old keys and perhaps the new one. -/
theorem nodup_setMember {members : List (String × Json)} (once : (members.map (·.1)).Nodup)
    (key : String) (value : Json) : ((setMember members key value).map (·.1)).Nodup := by
  by_cases new : key ∈ members.map (·.1)
  · have sameKeys : (setMember members key value).map (·.1) = members.map (·.1) := by
      clear once
      induction members with
      | nil => simp at new
      | cons member rest inductionHypothesis =>
        by_cases same : member.1 = key
        · simp [setMember, same]
        · have inRest : key ∈ rest.map (·.1) := by
            rcases List.mem_cons.mp new with found | found
            · exact absurd found.symm same
            · exact found
          simp [setMember, same, inductionHypothesis inRest]
    rw [sameKeys]
    exact once
  · rw [setMember_of_not_mem value new, List.map_append, List.nodup_append]
    refine ⟨once, by simp, ?_⟩
    rintro old isOld last isLast rfl
    exact new (by simpa [List.mem_singleton.mp isLast] using isOld)

/-- The members of an object after one was set are old ones or the new one. -/
theorem mem_setMember {members : List (String × Json)} {key : String} {value : Json}
    {member : String × Json} (inside : member ∈ setMember members key value) :
    member ∈ members ∨ member = (key, value) := by
  induction members with
  | nil => simpa [setMember] using inside
  | cons first rest inductionHypothesis =>
    simp only [setMember] at inside
    split at inside
    · rcases List.mem_cons.mp inside with new | old
      · exact .inr new
      · exact .inl (List.mem_cons_of_mem first old)
    · rcases List.mem_cons.mp inside with same | later
      · exact .inl (by simp [same])
      · rcases inductionHypothesis later with old | new
        · exact .inl (List.mem_cons_of_mem first old)
        · exact .inr new

/-- An object that is put together has each key once, also inside its values if they have. -/
theorem keysOnce_objectOf {members : List (String × Json)}
    (each : ∀ member ∈ members, member.2.Everywhere KeysOnce) :
    (objectOf members).Everywhere KeysOnce := by
  have gathered : ∀ (rest kept : List (String × Json)), (kept.map (·.1)).Nodup →
      (∀ member ∈ kept, member.2.Everywhere KeysOnce) →
      (∀ member ∈ rest, member.2.Everywhere KeysOnce) →
      (Json.object (rest.foldl (fun kept member => setMember kept member.1 member.2) kept)).Everywhere
        KeysOnce := by
    intro rest
    induction rest with
    | nil => exact fun kept once keptOnce _ => ⟨once, everywhereMembers_iff.mpr keptOnce⟩
    | cons member rest inductionHypothesis =>
      intro kept once keptOnce restOnce
      refine inductionHypothesis _ (nodup_setMember once member.1 member.2) ?_
        fun later inside => restOnce later (List.mem_cons_of_mem member inside)
      intro set inside
      rcases mem_setMember inside with old | rfl
      · exact keptOnce set old
      · exact restOnce member List.mem_cons_self
  exact gathered members [] (by simp) (by simp) each

/-- The values that the words stand for have no members. -/
theorem keysOnce_readWord? {text : List Char} {found : Json × List Char}
    (isWord : readWord? text = some found) : found.1.Everywhere KeysOnce := by
  obtain ⟨word, isFound, rfl⟩ := Option.map_eq_some_iff.mp isWord
  have inWords : word ∈ words := List.mem_of_find?_eq_some isFound
  simp only [words, List.mem_cons, List.not_mem_nil, or_false] at inWords
  rcases inWords with rfl | rfl | rfl | rfl | rfl | rfl <;> trivial

/-- A number has no members. -/
theorem keysOnce_readNumber {text rest : List Char} {value : Json}
    (isRead : readNumber text = .ok (value, rest)) : value.Everywhere KeysOnce := by
  simp only [readNumber] at isRead
  split at isRead
  · cases isRead
  · simp only [Reading.exceeded?_unlimited, Except.ok.injEq, Prod.mk.injEq] at isRead
    rw [← isRead.1]
    unfold numberOf
    split <;> trivial

/-- What is read by a bounded reader has each key once, in values, in items and in members. -/
def ReadsKeysOnce (bound : Nat) : Prop :=
  (∀ text value rest, readValue bound text = .ok (value, rest) → value.Everywhere KeysOnce) ∧
  (∀ text items rest, readItems bound text = .ok (items, rest) →
    ∀ item ∈ items, item.Everywhere KeysOnce) ∧
  ∀ text members rest, readMembers bound text = .ok (members, rest) →
    ∀ member ∈ members, member.2.Everywhere KeysOnce

/-- A value that is read has each key once if what is read for its parts has. -/
theorem keysOnce_readValue {bound : Nat} (less : ReadsKeysOnce bound) {text rest : List Char}
    {value : Json} (isRead : readValue (bound + 1) text = .ok (value, rest)) :
    value.Everywhere KeysOnce := by
  simp only [readValue] at isRead
  split at isRead
  · obtain ⟨read, _, isRead⟩ := bind_eq_ok.mp isRead
    obtain ⟨rfl, -⟩ := Prod.mk.inj (pure_eq_ok.mp isRead)
    trivial
  · split at isRead
    · obtain ⟨rfl, -⟩ := Prod.mk.inj (Except.ok.inj isRead)
      exact ⟨trivial, trivial⟩
    · obtain ⟨read, items_read, isRead⟩ := bind_eq_ok.mp isRead
      obtain ⟨rfl, -⟩ := Prod.mk.inj (pure_eq_ok.mp isRead)
      exact ⟨trivial, everywhereItems_iff.mpr (less.2.1 _ read.1 read.2 items_read)⟩
  · split at isRead
    · obtain ⟨rfl, -⟩ := Prod.mk.inj (Except.ok.inj isRead)
      exact ⟨List.nodup_nil, trivial⟩
    · obtain ⟨read, members_read, isRead⟩ := bind_eq_ok.mp isRead
      obtain ⟨rfl, -⟩ := Prod.mk.inj (pure_eq_ok.mp isRead)
      exact keysOnce_objectOf (less.2.2 _ read.1 read.2 members_read)
  · split at isRead
    case h_1 found isWord =>
      obtain rfl := Except.ok.inj isRead
      exact keysOnce_readWord? isWord
    case h_2 => exact keysOnce_readNumber isRead

/-- Items that are read have each key once if what is read with a smaller bound has. -/
theorem keysOnce_readItems {bound : Nat} (less : ReadsKeysOnce bound) {text rest : List Char}
    {items : List Json} (isRead : readItems (bound + 1) text = .ok (items, rest)) :
    ∀ item ∈ items, item.Everywhere KeysOnce := by
  simp only [readItems] at isRead
  obtain ⟨⟨item, afterItem⟩, item_read, isRead⟩ := bind_eq_ok.mp isRead
  have itemOnce := less.1 _ item afterItem item_read
  simp only at isRead
  split at isRead
  · obtain ⟨rfl, -⟩ := Prod.mk.inj (pure_eq_ok.mp isRead)
    simpa using itemOnce
  · obtain ⟨read, items_read, isRead⟩ := bind_eq_ok.mp isRead
    obtain ⟨rfl, -⟩ := Prod.mk.inj (pure_eq_ok.mp isRead)
    intro inside member
    rcases List.mem_cons.mp member with rfl | later
    · exact itemOnce
    · exact less.2.1 _ read.1 read.2 items_read inside later
  · cases isRead

/-- Members that are read have each key once in their values if what is read with a smaller bound
has. -/
theorem keysOnce_readMembers {bound : Nat} (less : ReadsKeysOnce bound) {text rest : List Char}
    {members : List (String × Json)} (isRead : readMembers (bound + 1) text = .ok (members, rest)) :
    ∀ member ∈ members, member.2.Everywhere KeysOnce := by
  simp only [readMembers] at isRead
  split at isRead
  · obtain ⟨⟨key, afterKey⟩, _, isRead⟩ := bind_eq_ok.mp isRead
    simp only at isRead
    split at isRead
    · obtain ⟨⟨value, afterValue⟩, value_read, isRead⟩ := bind_eq_ok.mp isRead
      have valueOnce := less.1 _ value afterValue value_read
      simp only at isRead
      split at isRead
      · obtain ⟨rfl, -⟩ := Prod.mk.inj (pure_eq_ok.mp isRead)
        simpa using valueOnce
      · obtain ⟨read, members_read, isRead⟩ := bind_eq_ok.mp isRead
        obtain ⟨rfl, -⟩ := Prod.mk.inj (pure_eq_ok.mp isRead)
        intro inside member
        rcases List.mem_cons.mp member with rfl | later
        · exact valueOnce
        · exact less.2.2 _ read.1 read.2 members_read inside later
      · cases isRead
    · cases isRead
  · cases isRead

/-- Whatever is read has each key once. -/
theorem readsKeysOnce (bound : Nat) : ReadsKeysOnce bound := by
  induction bound with
  | zero =>
    refine ⟨?_, ?_, ?_⟩
    · intro text value rest isRead
      simp [readValue, fail] at isRead
    · intro text items rest isRead
      simp [readItems, fail] at isRead
    · intro text members rest isRead
      simp [readMembers, fail] at isRead
  | succ bound inductionHypothesis =>
    exact ⟨fun _ _ _ => keysOnce_readValue inductionHypothesis,
      fun _ _ _ => keysOnce_readItems inductionHypothesis,
      fun _ _ _ => keysOnce_readMembers inductionHypothesis⟩

/-- The value of a text has each key once in each of its objects. -/
theorem keysOnce_of_parse {text : String} {value : Json} (isRead : parse text = .ok value) :
    value.Everywhere KeysOnce := by
  have all_read := mapError_eq_ok.mp isRead
  unfold readAll at all_read
  split at all_read
  · cases all_read
  · obtain ⟨read, value_read, all_read⟩ := bind_eq_ok.mp all_read
    simp only at all_read
    split at all_read
    · obtain rfl := pure_eq_ok.mp all_read
      exact (readsKeysOnce _).1 _ read.1 read.2 value_read
    · cases all_read

end OutlineWiki.Json
