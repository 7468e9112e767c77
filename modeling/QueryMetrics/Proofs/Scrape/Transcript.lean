import QueryMetrics.Proofs.Scrape.Cycle

/-!
# What tasks ask

Whether a task asked the database is no part of its result. Here a database is watched: every call
is written down together with its reply, and otherwise the watched database does what it did
(`Exporter.run_task_watched`). What a task exchanges with the database is then read off the run of
the task with the watched one.

`Exporter.taskRun_cases` says what a task exchanges and what it comes to: a task asks nothing, or
the request of its definition once.
-/

namespace QueryMetrics

open QueryMetrics.Action

variable {δ α : Type}

/-! ### Watched databases -/

/-- A call of a database with its reply. -/
inductive Exchange where
  | ping (reply : Except Failure Unit)
  | reconnect (reply : Except Failure Unit)
  | query (statement : String) (timeout : Binary64) (reply : Except Failure (List Row))

/-- The state of a database with what was exchanged with it. -/
structure Watched (δ : Type) where
  inner : δ
  exchanges : List Exchange := []

/-- The call, written down with its reply. -/
def watching (entry : Except Failure α → Exchange)
    (action : Action (Clocked δ) ConnectionEvent α) :
    Action (Clocked (Watched δ)) ConnectionEvent α := fun state =>
  let ran := run action ⟨state.clock, state.inner.inner⟩
  ⟨ran.result,
   ⟨ran.state.clock, ran.state.inner, state.inner.exchanges ++ [entry ran.result]⟩, ran.events⟩

/-- The database, every call of which is written down. -/
def Database.watched (db : Database δ) : Database (Watched δ) where
  ping := watching .ping db.ping
  reconnect := watching .reconnect db.reconnect
  query statement timeout := watching (.query statement timeout) (db.query statement timeout)
  dbtype state := db.dbtype state.inner

namespace Exporter

/-- The exporter before anything is written down. -/
def watched (s : Clocked (Exporter δ)) : Clocked (Exporter (Watched δ)) :=
  ⟨s.clock, { s.inner with database := { inner := s.inner.database } }⟩

/-- The exporter without what is written down. -/
def unwatched (s : Clocked (Exporter (Watched δ))) : Clocked (Exporter δ) :=
  ⟨s.clock, { s.inner with database := s.inner.database.inner }⟩

/-- **Watching changes nothing.** A task with a watched database does what it does without. -/
theorem run_task_watched (db : Database δ) (tick : Option Binary64) (d : Definition)
    (s : Clocked (Exporter (Watched δ))) :
    run (task db tick d) (unwatched s) =
      ⟨(run (task db.watched tick d) s).result, unwatched (run (task db.watched tick d) s).state,
       (run (task db.watched tick d) s).events⟩ := by
  -- problems and what is due are asked of the definition and the ledger, which are not watched
  obtain ⟨hproblems, h⟩ | ⟨hproblems, hdue, h⟩ | ⟨hproblems, hdue, timeout, htimeout, h⟩ :=
    task_cases db.watched tick d s
  · rw [h]
    exact run_task_of_problems hproblems
  · rw [h]
    exact run_task_of_not_due hproblems hdue
  · rw [h, run_task_of_due (s := unwatched s) hproblems hdue,
      run_runDue db tick d (unwatched s) htimeout]
    rfl

/-! ### Runs of tasks -/

/-- What a task exchanges with the database. -/
def exchanges (db : Database δ) (tick : Option Binary64) (d : Definition)
    (s : Clocked (Exporter δ)) : List Exchange :=
  (run (task db.watched tick d) (watched s)).state.inner.database.exchanges

end Exporter

/-- A task that has run: what it exchanged with the database and what it came to. -/
structure TaskRun where
  definition : Definition
  tick : Option Binary64
  exchanges : List Exchange
  result : Except Failure (List Sample)

/-- The end of the task. -/
def TaskRun.outcome (r : TaskRun) : Outcome := ⟨r.definition, r.result⟩

namespace Exporter

/-- The run of a task. -/
def taskRun (db : Database δ) (tick : Option Binary64) (d : Definition)
    (s : Clocked (Exporter δ)) : TaskRun :=
  ⟨d, tick, exchanges db tick d s, (run (task db tick d) s).result⟩

/-- The runs of tasks that run one after another. -/
def taskRuns (db : Database δ) (tick : Option Binary64) :
    List Definition → Clocked (Exporter δ) → List TaskRun
  | [], _ => []
  | d :: rest, s => taskRun db tick d s :: taskRuns db tick rest (run (task db tick d) s).state

/-- The runs end with the outcomes. -/
theorem map_outcome_taskRuns (db : Database δ) (tick : Option Binary64) (ds : List Definition)
    (s : Clocked (Exporter δ)) :
    (taskRuns db tick ds s).map TaskRun.outcome = outcomes db tick ds s := by
  induction ds generalizing s with
  | nil => rfl
  | cons d rest ih => rw [taskRuns, List.map_cons, ih, outcomes, taskRun, TaskRun.outcome]

theorem map_definition_taskRuns (db : Database δ) (tick : Option Binary64) (ds : List Definition)
    (s : Clocked (Exporter δ)) : (taskRuns db tick ds s).map TaskRun.definition = ds := by
  calc (taskRuns db tick ds s).map TaskRun.definition
      = ((taskRuns db tick ds s).map TaskRun.outcome).map Outcome.definition := by
        rw [List.map_map]
        rfl
    _ = ds := by rw [map_outcome_taskRuns, map_definition_outcomes]

theorem taskRuns_append (db : Database δ) (tick : Option Binary64) (first second : List Definition)
    (s : Clocked (Exporter δ)) :
    taskRuns db tick (first ++ second) s =
      taskRuns db tick first s ++ taskRuns db tick second (afterTasks db tick first s) := by
  induction first generalizing s with
  | nil => rfl
  | cons d rest ih =>
    rw [List.cons_append, taskRuns, ih, taskRuns, List.cons_append]
    rfl

/-- A run among others is the run of its definition after the tasks before. -/
theorem exists_of_taskRuns_eq_append {db : Database δ} {tick : Option Binary64}
    {ds : List Definition} {s : Clocked (Exporter δ)} {before after : List TaskRun} {r : TaskRun}
    (h : taskRuns db tick ds s = before ++ r :: after) :
    ∃ first rest, ds = first ++ r.definition :: rest ∧ before = taskRuns db tick first s ∧
      r = taskRun db tick r.definition (afterTasks db tick first s) := by
  -- the tasks before the run are as many as the runs before it
  induction ds generalizing s before with
  | nil => simp [taskRuns] at h
  | cons d ds ih =>
    rw [taskRuns] at h
    cases before with
    | nil =>
      obtain ⟨hr, -⟩ := List.cons_eq_cons.mp h
      refine ⟨[], ds, ?_, rfl, ?_⟩
      · rw [← hr]
        rfl
      · rw [← hr]
        rfl
    | cons b before =>
      obtain ⟨hb, htail⟩ := List.cons_eq_cons.mp h
      obtain ⟨first, rest, hds, hbefore, hr⟩ := ih htail
      refine ⟨d :: first, rest, by rw [hds, List.cons_append], ?_, hr⟩
      rw [taskRuns, hb, hbefore]

/-- Every run is the run of its definition from some state with the same settings. -/
theorem exists_of_mem_taskRuns {db : Database δ} {tick : Option Binary64} {ds : List Definition}
    {s : Clocked (Exporter δ)} {r : TaskRun} (h : r ∈ taskRuns db tick ds s) :
    ∃ turn : Clocked (Exporter δ), turn.inner.settings = s.inner.settings ∧
      r = taskRun db tick r.definition turn := by
  obtain ⟨before, after, hsplit⟩ := List.append_of_mem h
  obtain ⟨first, rest, -, -, hr⟩ := exists_of_taskRuns_eq_append hsplit
  exact ⟨_, (undisturbed_afterTasks db tick first s).settings, hr⟩

/-- **What a task exchanges and comes to.** With problems it fails and asks nothing. Without, it
asks nothing and gives what is remembered if the definition is not due, and else it asks the request
of its definition once, answers the reply, and takes down a scheduled success. -/
theorem taskRun_cases (db : Database δ) (tick : Option Binary64) (d : Definition)
    (s : Clocked (Exporter δ)) :
    (d.problems ≠ [] ∧ taskRun db tick d s = ⟨d, tick, [], .error (.unusable d.problems)⟩ ∧
      (run (task db tick d) s).state = s) ∨
    (d.problems = [] ∧ s.inner.ledger.isDue d tick = .ok false ∧
      taskRun db tick d s = ⟨d, tick, [], .ok (s.inner.ledger.samplesOf d.identity)⟩ ∧
      (run (task db tick d) s).state = s) ∨
    (d.problems = [] ∧ s.inner.ledger.isDue d tick = .ok true ∧
      ∃ timeout reply, d.timeout s.inner.settings.queryTimeout = .ok timeout ∧
        taskRun db tick d s = ⟨d, tick, [.query d.request timeout reply],
          d.answer s.inner.settings.ns reply⟩ ∧
        (run (task db tick d) s).state.inner.ledger =
          s.inner.ledger.afterRun d tick (d.answer s.inner.settings.ns reply)) := by
  obtain ⟨hproblems, h⟩ | ⟨hproblems, hdue, h⟩ | ⟨hproblems, hdue, timeout, htimeout, h⟩ :=
    task_cases db tick d s
  · refine .inl ⟨hproblems, ?_, by rw [h]⟩
    rw [taskRun, exchanges, run_task_of_problems hproblems, h]
    rfl
  · refine .inr (.inl ⟨hproblems, hdue, ?_, by rw [h]⟩)
    rw [taskRun, exchanges, run_task_of_not_due (s := watched s) hproblems hdue, h]
    rfl
  · refine .inr (.inr ⟨hproblems, hdue, timeout, _, htimeout, ?_, by rw [h]⟩)
    rw [taskRun, exchanges, run_task_of_due (s := watched s) hproblems hdue,
      run_runDue db.watched tick d (watched s) htimeout, h]
    rfl

end Exporter

end QueryMetrics
