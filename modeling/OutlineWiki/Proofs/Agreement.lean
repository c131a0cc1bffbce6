import OutlineWiki.Renderer

/-!
# Steps that agree

Two renderings of a tree can differ in what they remember and still write the same. Two steps agree
from one condition to another when they give the same value or the same failure from states that
differ in nothing but their widths and notices, and the state of the first meets the one condition
before and the other after. Conditions and agreement say nothing about notices, which no step reads.
The first step can be one with a check of its own, which may fail where the second does not.
-/

namespace OutlineWiki.Markup

/-- What is known of the list level, the numbers of the open lists and the memory of widths. -/
abbrev Condition := Nat → List Json → WidthCache → Prop

/-- A state meets a condition. -/
def State.Meets (state : State) (condition : Condition) : Prop :=
  condition state.listLevel state.numbers state.widths

/-- Two states differ in nothing but their widths and notices. -/
structure State.Alike (first second : State) : Prop where
  listLevel : first.listLevel = second.listLevel
  numbers : first.numbers = second.numbers

/-- A state is like itself. -/
theorem State.Alike.refl (state : State) : state.Alike state :=
  ⟨rfl, rfl⟩

/-- A condition together with a fact that no state changes. -/
def Condition.knowing (condition : Condition) (fact : Prop) : Condition :=
  fun level numbers widths => condition level numbers widths ∧ fact

/-- Two steps give the same from states that are alike, and the first goes from one condition to
another. The first may be allowed to fail on its own. -/
def AgreeOr (mayFail : Prop) {α : Type} (before after : Condition) (left right : Render α) : Prop :=
  ∀ first second : State, first.Alike second → first.Meets before →
    (∃ value first' second', left.run first = .ok value first' ∧
      right.run second = .ok value second' ∧ first'.Alike second' ∧ first'.Meets after) ∨
    ∃ failure first', left.run first = .error failure first' ∧
      (mayFail ∨ ∃ second', right.run second = .error failure second')

/-- Two steps give the same, also when they fail. -/
abbrev Agree {α : Type} : Condition → Condition → Render α → Render α → Prop :=
  AgreeOr False

variable {mayFail : Prop} {α β : Type} {before between after : Condition}

/-- Steps that give the same give the same value or fail for the same reason. -/
theorem AgreeOr.outcome {left right : Render α} (same : Agree before after left right) {first second : State}
    (alike : first.Alike second) (meets : first.Meets before) :
    (∃ value first' second', left.run first = .ok value first' ∧
      right.run second = .ok value second' ∧ first'.Alike second' ∧ first'.Meets after) ∨
    ∃ failure first' second', left.run first = .error failure first' ∧
      right.run second = .error failure second' := by
  rcases same first second alike meets with given | ⟨failure, first', leftRun, own | ⟨second', rightRun⟩⟩
  · exact .inl given
  · exact own.elim
  · exact .inr ⟨failure, first', second', leftRun, rightRun⟩

/-- A step that agrees with one that only gives a value gives it. -/
theorem AgreeOr.gives {step : Render α} {value : α} (same : Agree before after step (Pure.pure value))
    {state : State} (meets : state.Meets before) : ∃ last, step.run state = .ok value last ∧ last.Meets after := by
  rcases same.outcome (.refl state) meets with ⟨_, last, _, run, pureRun, -, met⟩ | ⟨_, _, _, _, pureRun⟩
  · obtain ⟨rfl, -⟩ := EStateM.Result.ok.inj pureRun
    exact ⟨last, run, met⟩
  · cases pureRun

namespace AgreeOr

/-- Steps that only give a value agree when it is the same. -/
theorem pure (value : α) : AgreeOr mayFail before before (Pure.pure value) (Pure.pure value) := by
  intro first second alike meets
  exact .inl ⟨value, first, second, rfl, rfl, alike, meets⟩

/-- Steps that only fail agree when they fail for the same reason. -/
theorem throw (failure : Failure) :
    AgreeOr mayFail before after (MonadExcept.throw failure : Render α) (MonadExcept.throw failure) := by
  intro first second _ _
  exact .inr ⟨failure, first, rfl, .inr ⟨second, rfl⟩⟩

/-- Steps that are settled without a look at the state agree. -/
theorem settle (outcome : Except Failure α) :
    AgreeOr mayFail before before (Markup.settle outcome) (Markup.settle outcome) := by
  cases outcome with
  | ok value => exact pure value
  | error failure => exact throw failure

/-- What agrees step by step agrees as a whole. -/
theorem bind {left right : Render α} {leftNext rightNext : α → Render β}
    (step : AgreeOr mayFail before between left right)
    (next : ∀ value, AgreeOr mayFail between after (leftNext value) (rightNext value)) :
    AgreeOr mayFail before after (left >>= leftNext) (right >>= rightNext) := by
  intro first second alike meets
  simp only [EStateM.run_bind]
  rcases step first second alike meets with
    ⟨value, first', second', leftRun, rightRun, alike', meets'⟩ | ⟨failure, first', leftRun, failed⟩
  · simp only [leftRun, rightRun]
    exact next value first' second' alike' meets'
  · simp only [leftRun]
    refine .inr ⟨failure, first', rfl, failed.imp_right ?_⟩
    rintro ⟨second', rightRun⟩
    exact ⟨second', by rw [rightRun]⟩

/-- A step that agrees with giving a value can be followed by what is done with that value. -/
theorem bind_pure {left : Render α} {value : α} {leftNext : α → Render β} {right : Render β}
    (step : Agree before between left (Pure.pure value))
    (next : Agree between after (leftNext value) right) : Agree before after (left >>= leftNext) right := by
  intro first second alike meets
  rcases step.outcome alike meets with
    ⟨_, first', _, leftRun, rightRun, alike', meets'⟩ | ⟨_, _, _, _, rightRun⟩
  · obtain ⟨rfl, rfl⟩ := EStateM.Result.ok.inj rightRun
    rw [EStateM.run_bind, leftRun]
    exact next first' second alike' meets'
  · cases rightRun

/-- Changing the value of steps that agree leaves them in agreement. -/
theorem map {left right : Render α} (change : α → β) (step : AgreeOr mayFail before after left right) :
    AgreeOr mayFail before after (change <$> left) (change <$> right) := by
  rw [map_eq_pure_bind, map_eq_pure_bind]
  exact step.bind fun value => pure (change value)

/-- A condition can be met from a stronger one before, and be weakened after. -/
theorem weaken {before' after' : Condition} {left right : Render α}
    (step : AgreeOr mayFail before after left right)
    (stronger : ∀ level numbers widths, before' level numbers widths → before level numbers widths)
    (weaker : ∀ level numbers widths, after level numbers widths → after' level numbers widths) :
    AgreeOr mayFail before' after' left right := by
  intro first second alike meets
  rcases step first second alike (stronger _ _ _ meets) with
    ⟨value, first', second', leftRun, rightRun, alike', meets'⟩ | failed
  · exact .inl ⟨value, first', second', leftRun, rightRun, alike', weaker _ _ _ meets'⟩
  · exact .inr failed

/-- Steps that only give a value agree from a condition to a weaker one. -/
theorem give (value : α)
    (stays : ∀ level numbers widths, before level numbers widths → after level numbers widths) :
    AgreeOr mayFail before after (Pure.pure value) (Pure.pure value) :=
  (pure value).weaken (fun _ _ _ meets => meets) stays

/-- Steps that agree do so while a fact is known. -/
theorem keeping {left right : Render α} (step : AgreeOr mayFail before after left right) (fact : Prop) :
    AgreeOr mayFail (before.knowing fact) (after.knowing fact) left right := by
  rintro first second alike ⟨meets, isFact⟩
  rcases step first second alike meets with
    ⟨value, first', second', leftRun, rightRun, alike', meets'⟩ | failed
  · exact .inl ⟨value, first', second', leftRun, rightRun, alike', meets', isFact⟩
  · exact .inr failed

/-- Steps that agree tell what follows from a value of the first. -/
theorem telling {left right : Render α} {fact : Prop} (step : AgreeOr mayFail before after left right)
    (tells : ∀ first : State, ∀ value last, first.Meets before → left.run first = .ok value last → fact) :
    AgreeOr mayFail before (after.knowing fact) left right := by
  intro first second alike meets
  rcases step first second alike meets with
    ⟨value, first', second', leftRun, rightRun, alike', meets'⟩ | failed
  · exact .inl ⟨value, first', second', leftRun, rightRun, alike', meets', tells _ _ _ meets leftRun⟩
  · exact .inr failed

/-- Steps agree from a condition when they agree from each state that meets it. -/
theorem of_states {left right : Render α}
    (each : ∀ level numbers widths, before level numbers widths →
      AgreeOr mayFail
        (fun level' numbers' widths' => level' = level ∧ numbers' = numbers ∧ widths' = widths) after left
        right) :
    AgreeOr mayFail before after left right := by
  intro first second alike meets
  exact each _ _ _ meets first second alike ⟨rfl, rfl, rfl⟩

/-- Changes of the state agree when they keep states alike. -/
theorem modify {leftChange rightChange : State → State}
    (alike : ∀ first second : State, first.Alike second → (leftChange first).Alike (rightChange second))
    (meets : ∀ first : State, first.Meets before → (leftChange first).Meets after) :
    AgreeOr mayFail before after (modifyThe State leftChange : Render Unit)
      (modifyThe State rightChange) := by
  intro first second same known
  exact .inl ⟨(), leftChange first, rightChange second, rfl, rfl, alike first second same,
    meets first known⟩

/-- Notices do not matter. -/
theorem note_left {notice : Notice} {left right : Render α}
    (rest : AgreeOr mayFail before after left right) :
    AgreeOr mayFail before after (do note notice; left) right := by
  intro first second alike meets
  exact rest { first with notices := first.notices ++ [notice] } second ⟨alike.1, alike.2⟩ meets

/-- Notices do not matter, whichever they are. -/
theorem note {notice other : Notice} :
    AgreeOr mayFail before before (Markup.note notice) (Markup.note other) := by
  intro first second alike meets
  exact .inl ⟨(), _, _, rfl, rfl, ⟨alike.1, alike.2⟩, meets⟩

end AgreeOr

/-! ## Writers that agree -/

/-- Writers of two lists agree one after the other, from one condition to another. -/
inductive AgreeAllOr (mayFail : Prop) (leftAround rightAround : Option Surroundings) :
    Condition → Condition → List Writer → List Writer → Prop where
  | nil {before after : Condition} :
    (∀ level numbers widths, before level numbers widths → after level numbers widths) →
      AgreeAllOr mayFail leftAround rightAround before after [] []
  | cons {before between after : Condition} {left right : Writer} {lefts rights : List Writer} :
    AgreeOr mayFail before between (left leftAround) (right rightAround) →
    AgreeAllOr mayFail leftAround rightAround between after lefts rights →
      AgreeAllOr mayFail leftAround rightAround before after (left :: lefts) (right :: rights)

/-- Writers of two lists agree one after the other, also when they fail. -/
abbrev AgreeAll (leftAround rightAround : Option Surroundings) :
    Condition → Condition → List Writer → List Writer → Prop :=
  AgreeAllOr False leftAround rightAround

variable {leftAround rightAround : Option Surroundings} {lefts rights : List Writer}

/-- A condition can be met from a stronger one before, and be weakened after. -/
theorem AgreeAllOr.weaken {before' after' : Condition}
    (each : AgreeAllOr mayFail leftAround rightAround before after lefts rights)
    (stronger : ∀ level numbers widths, before' level numbers widths → before level numbers widths)
    (weaker : ∀ level numbers widths, after level numbers widths → after' level numbers widths) :
    AgreeAllOr mayFail leftAround rightAround before' after' lefts rights := by
  induction each generalizing before' with
  | nil stays =>
    exact .nil fun level numbers widths meets => weaker _ _ _ (stays _ _ _ (stronger _ _ _ meets))
  | cons first _ inductionHypothesis =>
    exact .cons (first.weaken stronger fun _ _ _ meets => meets)
      (inductionHypothesis (fun _ _ _ meets => meets) weaker)

/-- Writers that agree do so while a fact is known. -/
theorem AgreeAllOr.keeping (each : AgreeAllOr mayFail leftAround rightAround before after lefts rights)
    (fact : Prop) :
    AgreeAllOr mayFail leftAround rightAround (before.knowing fact) (after.knowing fact) lefts rights := by
  induction each with
  | nil stays => exact .nil fun _ _ _ meets => ⟨stays _ _ _ meets.1, meets.2⟩
  | cons first _ inductionHypothesis => exact .cons (first.keeping fact) inductionHypothesis

/-- Writers that agree one after the other agree in sequence. -/
theorem AgreeAllOr.inSequence (each : AgreeAllOr mayFail leftAround rightAround before after lefts rights) :
    AgreeOr mayFail before after (inSequence lefts leftAround) (inSequence rights rightAround) := by
  induction each with
  | nil stays => exact .give [] stays
  | cons first _ inductionHypothesis =>
    exact first.bind fun pieces => inductionHypothesis.bind fun more => .pure (pieces ++ more)

/-- Writers that agree one after the other make the same captured text. -/
theorem AgreeAllOr.capture (each : AgreeAllOr mayFail leftAround rightAround before after lefts rights) :
    AgreeOr mayFail before after (capture lefts leftAround) (capture rights rightAround) :=
  each.inSequence.bind fun pieces => .settle (joinPieces pieces)

/-- A writer alone is a list of one. -/
theorem AgreeAllOr.single {left right : Writer}
    (same : AgreeOr mayFail before after (left leftAround) (right rightAround)) :
    AgreeAllOr mayFail leftAround rightAround before after [left] [right] :=
  .cons same (.nil fun _ _ _ meets => meets)

/-- Writers that agree make the same block. -/
theorem AgreeOr.block {left right : Writer}
    (same : AgreeOr mayFail before after (left leftAround) (right rightAround)) :
    AgreeOr mayFail before after (Markup.block left leftAround) (Markup.block right rightAround) :=
  (AgreeAllOr.single same).capture.bind fun text => .pure (Text.stripNewlinesEnd text)

/-- Writers that agree one after the other make the same blocks. -/
theorem AgreeAllOr.blocks (each : AgreeAllOr mayFail leftAround rightAround before after lefts rights) :
    AgreeOr mayFail before after (blocks lefts leftAround) (blocks rights rightAround) := by
  induction each with
  | nil stays => exact .give [] stays
  | cons first _ inductionHypothesis =>
    exact first.block.bind fun text => inductionHypothesis.bind fun texts => .pure (text :: texts)

end OutlineWiki.Markup
