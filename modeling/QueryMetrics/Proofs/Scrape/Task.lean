import QueryMetrics.Proofs.Definition.Problems
import QueryMetrics.Scrape.Cycle

/-!
# What the task of a definition does

A task looks at the problems of its definition, then whether the definition is due, then runs the
query. Here every action of `Exporter.task` is taken through once, and the rest of the theory goes
on from what is said here:

* `Definition.answer` is the end of a task whose query was answered, and `Ledger.afterRun` what is
  remembered of it.
* `Exporter.run_runDue` and `Exporter.run_task` say what a task does to any state.
* `Exporter.Undisturbed` names what no task changes, and `Ledger.SameFor` when two ledgers hold the
  same about an identity. A task touches what is remembered under its own identity only.
-/

namespace QueryMetrics

open QueryMetrics.Action

/-! ### The end of a task -/

/-- What a definition makes of the reply to its query. -/
def Definition.answer (d : Definition) (ns : String) (reply : Except Failure (List Row)) :
    Except Failure (List Sample) :=
  match reply with
  | .error failure => .error failure
  | .ok rows =>
    if (rows.flatMap (d.samples ns)).isEmpty ∧ !d.ignoreZeroResult then
      .error (.zeroResult d.context)
    else .ok (rows.flatMap (d.samples ns))

/-- What is reported about the rows of a reply. -/
def Definition.replyEvents (d : Definition) (ns : String) (reply : Except Failure (List Row)) :
    List ExporterEvent :=
  match reply with
  | .error _ => []
  | .ok rows => (rows.flatMap (d.notices ns)).map .row

/-- A definition that succeeds gives all samples of its rows, in the order of the rows. -/
theorem Definition.answer_eq_ok {d : Definition} {ns : String} {reply : Except Failure (List Row)}
    {samples : List Sample} (h : d.answer ns reply = .ok samples) :
    ∃ rows, reply = .ok rows ∧ samples = rows.flatMap (d.samples ns) := by
  unfold answer at h
  split at h
  · cases h
  · split at h
    · cases h
    · cases h
      exact ⟨_, rfl, rfl⟩

namespace Ledger

/-- What is remembered after a task that ran its query: a scheduled success. -/
def afterRun (ledger : Ledger) (d : Definition) (tick : Option Binary64)
    (result : Except Failure (List Sample)) : Ledger :=
  match tick, result with
  | some tick, .ok samples => ledger.remember d.identity tick samples
  | _, _ => ledger

@[simp] theorem afterRun_none (ledger : Ledger) (d : Definition)
    (result : Except Failure (List Sample)) : ledger.afterRun d none result = ledger := rfl

@[simp] theorem afterRun_error (ledger : Ledger) (d : Definition) (tick : Option Binary64)
    (failure : Failure) : ledger.afterRun d tick (.error failure) = ledger := by
  cases tick <;> rfl

@[simp] theorem afterRun_some_ok (ledger : Ledger) (d : Definition) (tick : Binary64)
    (samples : List Sample) :
    ledger.afterRun d (some tick) (.ok samples) = ledger.remember d.identity tick samples := rfl

/-! ### What is remembered about an identity -/

/-- Both ledgers remember the same about an identity. -/
structure SameFor (identity : String) (first second : Ledger) : Prop where
  lastRun : first.lastRun.find? identity = second.lastRun.find? identity
  lastSamples : first.lastSamples.find? identity = second.lastSamples.find? identity

theorem SameFor.refl (identity : String) (ledger : Ledger) : ledger.SameFor identity ledger :=
  ⟨rfl, rfl⟩

theorem SameFor.symm {identity : String} {first second : Ledger}
    (h : first.SameFor identity second) : second.SameFor identity first :=
  ⟨h.lastRun.symm, h.lastSamples.symm⟩

theorem SameFor.trans {identity : String} {first second third : Ledger}
    (h : first.SameFor identity second) (h' : second.SameFor identity third) :
    first.SameFor identity third :=
  ⟨h.lastRun.trans h'.lastRun, h.lastSamples.trans h'.lastSamples⟩

/-- Whether a definition is due depends on what is remembered about its identity only. -/
theorem SameFor.isDue_eq {d : Definition} {first second : Ledger}
    (h : first.SameFor d.identity second) (tick : Option Binary64) :
    first.isDue d tick = second.isDue d tick := by
  cases tick with
  | none => rfl
  | some tick => simp only [isDue, hasElapsed, h.lastRun]

theorem SameFor.samplesOf_eq {identity : String} {first second : Ledger}
    (h : first.SameFor identity second) : first.samplesOf identity = second.samplesOf identity := by
  rw [samplesOf, samplesOf, h.lastSamples]

/-- What is remembered of a run depends on nothing else about its identity. -/
theorem sameFor_afterRun {d : Definition} {first second : Ledger}
    (h : first.SameFor d.identity second) (tick : Option Binary64)
    (result : Except Failure (List Sample)) :
    (first.afterRun d tick result).SameFor d.identity (second.afterRun d tick result) := by
  cases tick with
  | none => exact h
  | some tick =>
    cases result with
    | error failure => exact h
    | ok samples =>
      constructor
      · simp only [afterRun_some_ok, remember, Entries.find?_put_self]
      · simp only [afterRun_some_ok, remember, Entries.find?_put_self]

/-- Remembering a run touches no other identity. -/
theorem sameFor_afterRun_of_ne {ledger : Ledger} {d : Definition} {identity : String}
    (h : identity ≠ d.identity) (tick : Option Binary64)
    (result : Except Failure (List Sample)) :
    (ledger.afterRun d tick result).SameFor identity ledger := by
  cases tick with
  | none => exact .refl ..
  | some tick =>
    cases result with
    | error failure => exact .refl ..
    | ok samples => exact ⟨Entries.find?_put_of_ne h .., Entries.find?_put_of_ne h ..⟩

end Ledger

namespace Exporter

variable {δ : Type}

/-! ### Running a task -/

/-- The exporter after something was asked of the database. -/
@[simp] theorem run_ask {α : Type} (action : Action (Clocked δ) ConnectionEvent α)
    (s : Clocked (Exporter δ)) :
    run (ask action) s =
      ⟨(run action ⟨s.clock, s.inner.database⟩).result,
       ⟨(run action ⟨s.clock, s.inner.database⟩).state.clock,
        { s.inner with database := (run action ⟨s.clock, s.inner.database⟩).state.inner }⟩,
       (run action ⟨s.clock, s.inner.database⟩).events.map .connection⟩ := rfl

@[simp] theorem run_part {α : Type} (of : Exporter δ → α) (s : Clocked (Exporter δ)) :
    run (part of) s = ⟨.ok (of s.inner), s, []⟩ := rfl

@[simp] theorem run_now (s : Clocked (Exporter δ)) : run now s = ⟨.ok s.clock, s, []⟩ := rfl

@[simp] theorem run_takeDown (change : Ledger → Ledger) (s : Clocked (Exporter δ)) :
    run (takeDown change) s =
      ⟨.ok (), ⟨s.clock, { s.inner with ledger := change s.inner.ledger }⟩, []⟩ := rfl

/-- A due definition runs its query; what comes of it is its answer to the reply, and a scheduled
success is remembered. -/
theorem run_runDue (db : Database δ) (tick : Option Binary64) (d : Definition)
    {timeout : Binary64} (s : Clocked (Exporter δ))
    (h : d.timeout s.inner.settings.queryTimeout = .ok timeout) :
    run (runDue db tick d) s =
      let asked := run (ask (db.query d.request timeout)) s
      let result := d.answer s.inner.settings.ns asked.result
      ⟨result,
       ⟨asked.state.clock,
        { asked.state.inner with ledger := asked.state.inner.ledger.afterRun d tick result }⟩,
       asked.events ++ d.replyEvents s.inner.settings.ns asked.result⟩ := by
  rw [runDue, querySamples]
  simp only [run_bind, run_part, run_ofExcept, h, mapError_ok, run_ask]
  cases hreply : (run (db.query d.request timeout) ⟨s.clock, s.inner.database⟩).result with
  | error failure => simp [Definition.answer, Definition.replyEvents]
  | ok rows =>
    simp only [run_report, run_pure, Definition.answer, Definition.replyEvents]
    split
    · simp
    · cases tick with
      | none => simp
      | some tick => simp [run_map, Except.map]

variable {db : Database δ} {tick : Option Binary64} {d : Definition} {s : Clocked (Exporter δ)}

/-- A definition with problems is not looked at any further. -/
theorem run_task_of_problems (h : d.problems ≠ []) :
    run (task db tick d) s = ⟨.error (.unusable d.problems), s, []⟩ := by
  rw [task, if_pos h]
  rfl

/-- A definition that is not due gives the samples of its last run, and nothing is asked. -/
theorem run_task_of_not_due (h : d.problems = [])
    (hdue : s.inner.ledger.isDue d tick = .ok false) :
    run (task db tick d) s = ⟨.ok (s.inner.ledger.samplesOf d.identity), s, []⟩ := by
  rw [task, if_neg (not_not_intro h)]
  simp [run_bind, hdue]

/-- A definition that is due is run. -/
theorem run_task_of_due (h : d.problems = []) (hdue : s.inner.ledger.isDue d tick = .ok true) :
    run (task db tick d) s = run (runDue db tick d) s := by
  rw [task, if_neg (not_not_intro h)]
  simp [run_bind, hdue]

/-- Without problems it is known whether a definition is due. -/
theorem exists_isDue (h : d.problems = []) (ledger : Ledger) (tick : Option Binary64) :
    ∃ due, ledger.isDue d tick = .ok due := by
  cases tick with
  | none => exact ⟨true, rfl⟩
  | some tick =>
    obtain ⟨interval, hinterval⟩ := d.exists_minInterval h
    exact ⟨_, by rw [Ledger.isDue, hinterval]; rfl⟩

/-- **What a task does.** With problems it fails at once. Without, it gives the samples of the last
run if the definition is not due, and else it answers the reply to the query. -/
theorem task_cases (db : Database δ) (tick : Option Binary64) (d : Definition)
    (s : Clocked (Exporter δ)) :
    (d.problems ≠ [] ∧ run (task db tick d) s = ⟨.error (.unusable d.problems), s, []⟩) ∨
    (d.problems = [] ∧ s.inner.ledger.isDue d tick = .ok false ∧
      run (task db tick d) s = ⟨.ok (s.inner.ledger.samplesOf d.identity), s, []⟩) ∨
    (d.problems = [] ∧ s.inner.ledger.isDue d tick = .ok true ∧
      ∃ timeout, d.timeout s.inner.settings.queryTimeout = .ok timeout ∧
        let asked := run (ask (db.query d.request timeout)) s
        let result := d.answer s.inner.settings.ns asked.result
        run (task db tick d) s =
          ⟨result,
           ⟨asked.state.clock,
            { asked.state.inner with ledger := s.inner.ledger.afterRun d tick result }⟩,
           asked.events ++ d.replyEvents s.inner.settings.ns asked.result⟩) := by
  by_cases h : d.problems = []
  · obtain ⟨due, hdue⟩ := exists_isDue h s.inner.ledger tick
    cases due with
    | false => exact .inr (.inl ⟨h, hdue, run_task_of_not_due h hdue⟩)
    | true =>
      obtain ⟨timeout, htimeout⟩ := d.exists_timeout h s.inner.settings.queryTimeout
      refine .inr (.inr ⟨h, hdue, timeout, htimeout, ?_⟩)
      rw [run_task_of_due h hdue, run_runDue db tick d s htimeout]
      rfl
  · exact .inl ⟨h, run_task_of_problems h⟩

/-! ### What tasks leave alone -/

/-- Nothing has changed but the database and what is remembered about runs. -/
structure Undisturbed (before after : Exporter δ) : Prop where
  settings : after.settings = before.settings
  files : after.files = before.files
  store : after.store = before.store
  snapshot : after.snapshot = before.snapshot
  ledger : after.ledger = { before.ledger with
    lastRun := after.ledger.lastRun, lastSamples := after.ledger.lastSamples }

theorem Undisturbed.refl (exporter : Exporter δ) : Undisturbed exporter exporter :=
  ⟨rfl, rfl, rfl, rfl, rfl⟩

theorem Undisturbed.trans {first second third : Exporter δ} (h : Undisturbed first second)
    (h' : Undisturbed second third) : Undisturbed first third where
  settings := h'.settings.trans h.settings
  files := h'.files.trans h.files
  store := h'.store.trans h.store
  snapshot := h'.snapshot.trans h.snapshot
  ledger := by rw [h'.ledger, h.ledger]

/-- A task changes the database and what is remembered about runs. -/
theorem undisturbed_task (db : Database δ) (tick : Option Binary64) (d : Definition)
    (s : Clocked (Exporter δ)) :
    Undisturbed s.inner (run (task db tick d) s).state.inner := by
  obtain ⟨-, h⟩ | ⟨-, -, h⟩ | ⟨-, -, timeout, -, h⟩ := task_cases db tick d s
  · rw [h]
    exact .refl _
  · rw [h]
    exact .refl _
  · rw [h]
    refine ⟨rfl, rfl, rfl, rfl, ?_⟩
    cases tick with
    | none => rfl
    | some tick =>
      dsimp only
      cases d.answer _ _ <;> rfl

/-- A task touches what is remembered under its own identity only. -/
theorem sameFor_task_of_ne (db : Database δ) (tick : Option Binary64) {d : Definition}
    (s : Clocked (Exporter δ)) {identity : String} (hne : identity ≠ d.identity) :
    (run (task db tick d) s).state.inner.ledger.SameFor identity s.inner.ledger := by
  obtain ⟨-, h⟩ | ⟨-, -, h⟩ | ⟨-, -, timeout, -, h⟩ := task_cases db tick d s
  · rw [h]
    exact .refl ..
  · rw [h]
    exact .refl ..
  · rw [h]
    exact Ledger.sameFor_afterRun_of_ne hne tick _

end Exporter

end QueryMetrics
