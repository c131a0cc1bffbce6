/-!
# Steps that succeed

What is known of the parts of a computation that gave a result. Reading a text and reading a tree are
chains of steps that stop at the first error, so a result tells that each step gave one.
-/

namespace OutlineWiki

variable {Error Other Value Result : Type}

/-- Two steps give a result when the first gives a value and the second makes the result of it. -/
theorem bind_eq_ok {first : Except Error Value} {next : Value → Except Error Result}
    {result : Result} :
    first >>= next = .ok result ↔ ∃ value, first = .ok value ∧ next value = .ok result := by
  cases first <;> simp [bind, Except.bind]

/-- A step whose value is changed gives a result when it gives a value that is changed to it. -/
theorem map_eq_ok {first : Except Error Value} {change : Value → Result} {result : Result} :
    first.map change = .ok result ↔ ∃ value, first = .ok value ∧ change value = result := by
  cases first <;> simp [Except.map]

/-- A value is kept when errors are told another way. -/
@[simp] theorem mapError_ok (tell : Error → Other) (value : Value) :
    (Except.ok value : Except Error Value).mapError tell = .ok value :=
  rfl

/-- An error is told another way. -/
@[simp] theorem mapError_error (tell : Error → Other) (error : Error) :
    (Except.error error : Except Error Value).mapError tell = .error (tell error) :=
  rfl

/-- Telling another error changes no result. -/
theorem mapError_eq_ok {first : Except Error Value} {tell : Error → Other} {value : Value} :
    first.mapError tell = .ok value ↔ first = .ok value := by
  cases first <;> simp

/-- An error that is told is another one told so. -/
theorem mapError_eq_error {first : Except Error Value} {tell : Error → Other} {error : Other} :
    first.mapError tell = .error error ↔ ∃ cause, first = .error cause ∧ tell cause = error := by
  cases first <;> simp

/-- A step that returns its value gives that value. -/
theorem pure_eq_ok {value result : Value} :
    (pure value : Except Error Value) = .ok result ↔ value = result := by
  simp [pure, Except.pure]

/-! ## A step for each item -/

variable {Item : Type} {step : Item → Except Error Value}

/-- Steps that give a value for each item give those values. -/
theorem mapM_eq_ok {items : List Item} {values : List Value} (each : items.map step = values.map .ok) :
    items.mapM step = .ok values := by
  induction items generalizing values with
  | nil =>
    obtain rfl := List.map_eq_nil_iff.mp each.symm
    rfl
  | cons item rest inductionHypothesis =>
    cases values with
    | nil => cases each
    | cons value others =>
      obtain ⟨first, later⟩ := List.cons.inj each
      rw [List.mapM_cons, first, inductionHypothesis later]
      rfl

/-- When each item has a value, all of them have. -/
theorem mapM_ok {items : List Item} (each : ∀ item ∈ items, ∃ value, step item = .ok value) :
    ∃ values, items.mapM step = .ok values := by
  induction items with
  | nil => exact ⟨[], rfl⟩
  | cons item rest inductionHypothesis =>
    obtain ⟨value, first⟩ := each item List.mem_cons_self
    obtain ⟨values, others⟩ := inductionHypothesis fun later inside =>
      each later (List.mem_cons_of_mem item inside)
    rw [List.mapM_cons, first, others]
    exact ⟨value :: values, rfl⟩

/-- When all of them give values, these are the values that the items have. -/
theorem map_of_mapM {items : List Item} {values : List Value} (all : items.mapM step = .ok values) :
    items.map step = values.map .ok := by
  induction items generalizing values with
  | nil =>
    obtain rfl := pure_eq_ok.mp all
    rfl
  | cons item rest inductionHypothesis =>
    rw [List.mapM_cons] at all
    obtain ⟨value, first, all⟩ := bind_eq_ok.mp all
    obtain ⟨others, later, all⟩ := bind_eq_ok.mp all
    obtain rfl := pure_eq_ok.mp all
    rw [List.map_cons, List.map_cons, first, inductionHypothesis later]

/-- When all of them give values, each item has one. -/
theorem ok_of_mapM {items : List Item} {values : List Value} (all : items.mapM step = .ok values) :
    ∀ item ∈ items, ∃ value, step item = .ok value := by
  intro item inside
  have given := List.mem_map_of_mem (f := step) inside
  rw [map_of_mapM all] at given
  obtain ⟨value, -, isValue⟩ := List.mem_map.mp given
  exact ⟨value, isValue.symm⟩

/-- The first step that fails is the failure of all. -/
theorem mapM_eq_error {before after : List Item} {item : Item} {error : Error}
    (earlier : ∀ other ∈ before, ∃ value, step other = .ok value) (fails : step item = .error error) :
    (before ++ item :: after).mapM step = .error error := by
  obtain ⟨values, given⟩ := mapM_ok earlier
  rw [List.mapM_append, given, List.mapM_cons, fails]
  rfl

end OutlineWiki
