import Mathlib.Data.List.Basic
import OutlineWiki.Table.Layout
import OutlineWiki.Table.MeasureLog

/-!
# A memory of widths and what was asked of it

A memory of widths answers as if every question were answered anew. What it holds at a time is settled by
the questions since the last reset or the last question about another table: the columns that these ask
about are remembered, and no other column is. So the measure has to answer a question exactly when it is
the first of its kind among them and no cookie sets the width.
-/

namespace OutlineWiki

/-- Whether a step is a question about a table. -/
def WidthStep.isAbout (table : Nat) : WidthStep → Bool
  | .ask other _ => other == table
  | .reset => false

/-- The questions about a table since the last reset or the last question about another table, the latest
first, when some steps have been taken. -/
def latestQuestions (table : Nat) (before : List WidthStep) : List WidthStep :=
  before.reverse.takeWhile (·.isAbout table)

/-- One more step is one more question about its table, and ends the questions about any other. -/
theorem latestQuestions_concat (table : Nat) (before : List WidthStep) (step : WidthStep) :
    latestQuestions table (before ++ [step]) =
      if step.isAbout table then step :: latestQuestions table before else [] := by
  simp [latestQuestions, List.takeWhile_cons]

namespace MeasureLog

variable (cookie? : Nat → Nat → Except Failure (Option Nat)) (measure : Nat → Nat → Nat)

/-- The width of a column without any memory: its cookie's if it has one, else the measured one. -/
def plainWidth (table column : Nat) : Except Failure Nat :=
  (cookie? table column).map fun width? => width?.getD (measure table column)

/-- What a step is answered without any memory. -/
def plainAnswer : WidthStep → Except Failure (Option Nat)
  | .ask table column => (plainWidth cookie? measure table column).map some
  | .reset => .ok none

/-- The question that a step puts to the measure after other steps. It is about a column without a cookie
that was not asked about since the last reset or the last question about another table. -/
def questionAfter (before : List WidthStep) : WidthStep → Option (Nat × Nat)
  | .reset => none
  | .ask table column =>
    match cookie? table column with
    | .ok none => if .ask table column ∈ latestQuestions table before then none else some (table, column)
    | .ok (some _) | .error _ => none

/-- The questions that steps put to the measure, in their order. -/
def questionsOf (steps : List WidthStep) : List (Nat × Nat) :=
  (List.range steps.length).filterMap fun index =>
    steps[index]?.bind (questionAfter cookie? (steps.take index))

/-- One more step puts its question after those of the others. -/
theorem questionsOf_concat (before : List WidthStep) (step : WidthStep) :
    questionsOf cookie? (before ++ [step]) =
      questionsOf cookie? before ++ (questionAfter cookie? before step).toList := by
  have earlier : (List.range before.length).filterMap (fun index =>
      (before ++ [step])[index]?.bind (questionAfter cookie? ((before ++ [step]).take index))) =
        questionsOf cookie? before := by
    refine List.filterMap_congr fun index inside => ?_
    have early := List.mem_range.mp inside
    rw [List.getElem?_append_left early, List.take_append_of_le_length (Nat.le_of_lt early)]
  rw [questionsOf, List.length_append, List.length_singleton, List.range_succ, List.filterMap_append, earlier]
  congr 1
  cases asked : questionAfter cookie? before step <;> simp [asked]

/-- What a memory holds and what its log says when some steps have been taken: of a table it remembers the
columns asked about since the last reset or question about another table, if their widths can be told, and
the log has the questions that the steps put to the measure. -/
structure Recalls (before : List WidthStep) (log : MeasureLog) : Prop where
  stored : ∀ table column, (log.cache.turnTo table).stored? column =
    if .ask table column ∈ latestQuestions table before then (plainWidth cookie? measure table column).toOption
    else none
  calls : log.calls = questionsOf cookie? before

variable {cookie? measure}

/-- Before the first step nothing is remembered and nothing was measured. -/
theorem recalls_nothing : Recalls cookie? measure [] {} :=
  ⟨fun _ _ => rfl, rfl⟩

/-- A reset forgets the widths and puts no question. -/
theorem Recalls.reset {before : List WidthStep} {log : MeasureLog}
    (recalls : Recalls cookie? measure before log) :
    Recalls cookie? measure (before ++ [.reset]) { log with cache := {} } := by
  refine ⟨fun table column => ?_, ?_⟩
  · rw [latestQuestions_concat]
    rfl
  · rw [questionsOf_concat]
    exact recalls.calls.trans (List.append_nil _).symm

/-- How a question is answered: by the memory turned to the table, or else by the cookie, or by the measure
with its question put on the log. -/
theorem run_width (table column : Nat) (log : MeasureLog) :
    (width cookie? measure table column).run log =
      match (log.cache.turnTo table).stored? column, cookie? table column with
      | some width, _ => .ok width { log with cache := log.cache.turnTo table }
      | none, .ok (some width) => .ok width { log with cache := (log.cache.turnTo table).store column width }
      | none, .ok none =>
        .ok (measure table column)
          { cache := (log.cache.turnTo table).store column (measure table column)
            calls := log.calls ++ [(table, column)] }
      | none, .error failure => .error failure { log with cache := log.cache.turnTo table } := by
  have looked : (getThe WidthCache : Action WidthCache).run log = .ok log.cache log := rfl
  unfold width WidthCache.width
  simp only [EStateM.run_bind, looked]
  cases log.cache.droppedBy? table <;> cases (log.cache.turnTo table).stored? column <;>
    rcases cookie? table column with _ | _ | _ <;> rfl

/-- What is known after a question: the memory is about its table, and of that table it remembers what it
did before and the width that was asked for. -/
theorem recalls_of_about {before : List WidthStep} {table column : Nat} {log : MeasureLog}
    (about : log.cache.table = some table)
    (stored : ∀ other, log.cache.stored? other =
      if .ask table other ∈ .ask table column :: latestQuestions table before then
        (plainWidth cookie? measure table other).toOption
      else none)
    (calls : log.calls = questionsOf cookie? (before ++ [.ask table column])) :
    Recalls cookie? measure (before ++ [.ask table column]) log := by
  refine ⟨fun asked other => ?_, calls⟩
  rw [latestQuestions_concat]
  by_cases same : table = asked
  · subst same
    have turned : log.cache.turnTo table = log.cache := if_pos about
    rw [turned, stored]
    simp [WidthStep.isAbout]
  · have turned : log.cache.turnTo asked = { table := some asked, widths := [] } :=
      if_neg (by simpa [about] using same)
    rw [turned]
    simp [WidthStep.isAbout, same, WidthCache.stored?]

/-- A question about another column is the latest one only if it was before. -/
theorem mem_latest_of_ne {table column other : Nat} (different : other ≠ column) (latest : List WidthStep) :
    .ask table other ∈ .ask table column :: latest ↔ .ask table other ∈ latest := by
  simp [different]

/-- A width that can be told is remembered once it is stored. -/
theorem Recalls.storing {before : List WidthStep} {log : MeasureLog}
    (recalls : Recalls cookie? measure before log) {table column width : Nat} {calls : List (Nat × Nat)}
    (plain : plainWidth cookie? measure table column = .ok width)
    (counted : calls = log.calls ++ (questionAfter cookie? before (.ask table column)).toList) :
    Recalls cookie? measure (before ++ [.ask table column])
      { cache := (log.cache.turnTo table).store column width, calls } := by
  refine recalls_of_about (by simp) (fun other => ?_) ?_
  · by_cases same : other = column
    · subst same
      simp [plain, Except.toOption]
    · rw [WidthCache.stored?_store_of_ne _ _ same, recalls.stored, if_congr (mem_latest_of_ne same _) rfl rfl]
  · rw [questionsOf_concat, ← recalls.calls]
    exact counted

/-- Nothing has to be stored for a column of which the memory holds all there is to tell. -/
theorem Recalls.turning {before : List WidthStep} {log : MeasureLog}
    (recalls : Recalls cookie? measure before log) {table column : Nat}
    (held : (log.cache.turnTo table).stored? column = (plainWidth cookie? measure table column).toOption)
    (silent : questionAfter cookie? before (.ask table column) = none) :
    Recalls cookie? measure (before ++ [.ask table column]) { log with cache := log.cache.turnTo table } := by
  refine recalls_of_about (by simp) (fun other => ?_) ?_
  · by_cases same : other = column
    · subst same
      simp [held]
    · rw [recalls.stored, if_congr (mem_latest_of_ne same _) rfl rfl]
  · rw [questionsOf_concat, silent]
    exact recalls.calls.trans (List.append_nil _).symm

/-- A question is answered as without a memory, and what the memory holds afterwards is settled by the
questions with this one among them. -/
theorem Recalls.ask {before : List WidthStep} {log : MeasureLog} (recalls : Recalls cookie? measure before log)
    (table column : Nat) :
    ∃ after, Recalls cookie? measure (before ++ [.ask table column]) after ∧
      (width cookie? measure table column).run log =
        match plainWidth cookie? measure table column with
        | .ok width => .ok width after
        | .error failure => .error failure after := by
  have known := recalls.stored table column
  rw [run_width]
  cases held : (log.cache.turnTo table).stored? column with
  | some width =>
    rw [held] at known
    by_cases asked : .ask table column ∈ latestQuestions table before
    · rw [if_pos asked] at known
      have silent : questionAfter cookie? before (.ask table column) = none := by
        simp only [questionAfter, asked, if_true]
        split <;> rfl
      cases plain : plainWidth cookie? measure table column with
      | error failure =>
        rw [plain] at known
        cases known
      | ok found =>
        rw [plain] at known
        obtain rfl := Option.some.inj known
        exact ⟨_, recalls.turning (by rw [held, plain]; rfl) silent, rfl⟩
    · rw [if_neg asked] at known
      cases known
  | none =>
    rcases told : cookie? table column with failure | _ | width
    · have plain : plainWidth cookie? measure table column = .error failure := by rw [plainWidth, told]; rfl
      rw [plain]
      exact ⟨_, recalls.turning (by rw [held, plain]; rfl) (by simp [questionAfter, told]), rfl⟩
    · have plain : plainWidth cookie? measure table column = .ok (measure table column) := by
        rw [plainWidth, told]
        rfl
      have first : .ask table column ∉ latestQuestions table before := by
        intro asked
        rw [held, if_pos asked, plain] at known
        cases known
      rw [plain]
      exact ⟨_, recalls.storing plain (by simp [questionAfter, told, first]), rfl⟩
    · have plain : plainWidth cookie? measure table column = .ok width := by rw [plainWidth, told]; rfl
      rw [plain]
      exact ⟨_, recalls.storing plain (by simp [questionAfter, told]), rfl⟩

/-- Steps taken one after the other are answered as without a memory, and after each the log has the
questions that the steps so far put to the measure. -/
theorem takeAll_of_recalls {before : List WidthStep} {log : MeasureLog}
    (recalls : Recalls cookie? measure before log) (steps : List WidthStep) :
    (takeAll cookie? measure log steps).map (fun entry => (entry.1, entry.2.calls)) =
      steps.mapIdx fun index step =>
        (plainAnswer cookie? measure step, questionsOf cookie? (before ++ steps.take (index + 1))) := by
  induction steps generalizing before log with
  | nil => rfl
  | cons step rest inductionHypothesis =>
    have taken : ∃ after, Recalls cookie? measure (before ++ [step]) after ∧
        takeAll cookie? measure log (step :: rest) =
          (plainAnswer cookie? measure step, after) :: takeAll cookie? measure after rest := by
      cases step with
      | reset => exact ⟨_, recalls.reset, rfl⟩
      | ask table column =>
        obtain ⟨after, known, run⟩ := recalls.ask table column
        refine ⟨after, known, ?_⟩
        have asked : (take cookie? measure (.ask table column)).run log =
            (some <$> width cookie? measure table column : Action (Option Nat)).run log := rfl
        rw [takeAll, asked, map_eq_pure_bind, EStateM.run_bind, run, plainAnswer]
        cases plainWidth cookie? measure table column <;> rfl
    obtain ⟨after, known, run⟩ := taken
    rw [run, List.map_cons, inductionHypothesis known, List.mapIdx_cons, known.calls]
    simp

end MeasureLog

/-- A memory of widths agrees with none and measures as little as it can. Whatever tables there are and
whatever their columns measure, each question in any sequence of questions and resets is answered by the
column's cookie, or else by its measure, as if nothing were remembered; and the measure has answered
exactly the questions about columns without a cookie that were the first for their column since the last
reset or the last question about another table. Tables are told apart by their keys, whatever they hold. -/
theorem widths_answered_as_measured (tables : Nat → List Node) (measure : Nat → Nat → Nat)
    (steps : List WidthStep) :
    (MeasureLog.takeAll (fun table => columnCookie (tables table)) measure {} steps).map
        (fun entry => (entry.1, entry.2.calls)) =
      steps.mapIdx fun index step =>
        (MeasureLog.plainAnswer (fun table => columnCookie (tables table)) measure step,
          MeasureLog.questionsOf (fun table => columnCookie (tables table)) (steps.take (index + 1))) :=
  MeasureLog.takeAll_of_recalls MeasureLog.recalls_nothing steps

/-- Two tables that hold the same are measured apart, and each again once the memory was about the other or
was reset. -/
example : MeasureLog.questionsOf (fun _ => columnCookie [])
    [.ask 0 2, .ask 0 2, .ask 0 1, .ask 1 2, .ask 0 2, .reset, .ask 0 2] =
      [(0, 2), (0, 1), (1, 2), (0, 2), (0, 2)] := by
  decide

end OutlineWiki
