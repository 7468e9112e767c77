import Mathlib.Data.List.Nodup
import QueryMetrics.Proofs.Scrape.History
import QueryMetrics.Scripted.Database

/-!
# Least intervals

A scheduled cycle leaves a definition out until its least interval has passed since its latest
success. `Definition.IsDueAfter` states the rule by the latest success alone, and
`Exporter.taskRun_of_holds` says that a task follows it, whatever has happened before.

In a cycle whose definitions have different identities, every definition has one turn, which neither
sees nor touches what is remembered about the others (`Exporter.exists_turn`). Together with the
history of an exporter, this gives the rule for every cycle of every run.
-/

namespace QueryMetrics

open QueryMetrics.Action

/-! ### The rule -/

/-- The definition is to be run, given the latest success under its identity: without a tick,
without a least interval, without a success, or when the interval has passed. -/
def Definition.IsDueAfter (d : Definition) (tick : Option Binary64) (last : Option Success) :
    Prop :=
  tick = none ∨ d.scrapeInterval = "" ∨ last = none ∨
    ∃ now interval success, tick = some now ∧ d.minInterval = .ok (some interval) ∧
      last = some success ∧ interval ≤ now - success.tick

/-- A ledger that holds the latest success tells whether a definition is due. -/
theorem Ledger.Holds.isDue_iff {ledger : Ledger} {d : Definition} {last : Option Success}
    (h : ledger.Holds d.identity last) (hd : d.problems = []) (tick : Option Binary64) :
    ledger.isDue d tick = .ok true ↔ d.IsDueAfter tick last := by
  rw [Definition.IsDueAfter]
  cases tick with
  | none => simp [Ledger.isDue]
  | some now =>
    obtain ⟨interval?, hinterval⟩ := d.exists_minInterval hd
    cases interval? with
    | none =>
      have hempty : d.scrapeInterval = "" := Definition.minInterval_eq_none_iff.mp hinterval
      simp [Ledger.isDue, hinterval, hempty, Except.map]
    | some interval =>
      have hne : d.scrapeInterval ≠ "" := by
        intro he
        rw [Definition.minInterval_eq_none_iff.mpr he] at hinterval
        cases hinterval
      cases last with
      | none => simp [Ledger.isDue, hinterval, Except.map, Ledger.hasElapsed, h.lastRun]
      | some success =>
        simp [Ledger.isDue, hinterval, Except.map, Ledger.hasElapsed, h.lastRun, hne]

namespace Exporter

variable {δ : Type}

/-- **The gate.** A definition without problems is run if it is due by the latest success under its
identity; otherwise nothing is asked, and there was a success whose samples are given again. -/
theorem taskRun_of_holds (db : Database δ) (tick : Option Binary64) {d : Definition}
    (hd : d.problems = []) {s : Clocked (Exporter δ)} {last : Option Success}
    (h : s.inner.ledger.Holds d.identity last) :
    (d.IsDueAfter tick last ∧
      ∃ timeout reply, d.timeout s.inner.settings.queryTimeout = .ok timeout ∧
        taskRun db tick d s = ⟨d, tick, [.query d.request timeout reply],
          d.answer s.inner.settings.ns reply⟩) ∨
    (¬ d.IsDueAfter tick last ∧
      ∃ success, last = some success ∧
        taskRun db tick d s = ⟨d, tick, [], .ok success.samples⟩) := by
  have hiff := h.isDue_iff hd tick
  obtain ⟨hproblems, -⟩ | ⟨-, hdue, hrun, -⟩ | ⟨-, hdue, timeout, reply, htimeout, hrun, -⟩ :=
    taskRun_cases db tick d s
  · exact absurd hd hproblems
  · have hnot : ¬ d.IsDueAfter tick last := by
      rw [← hiff, hdue]
      nofun
    cases last with
    | none => exact absurd (.inr (.inr (.inl rfl))) hnot
    | some success =>
      refine .inr ⟨hnot, success, rfl, ?_⟩
      rw [hrun, Ledger.samplesOf, h.lastSamples]
      rfl
  · exact .inl ⟨hiff.mp hdue, timeout, reply, htimeout, hrun⟩

/-! ### The turn of a definition -/

variable (db : Database δ) (order : TaskOrder) (tick : Option Binary64) (s : Clocked (Exporter δ))

/-- The runs of a definition in a cycle. -/
def runsOf (d : Definition) : List TaskRun :=
  (cycleRuns db order tick s).filter fun r => r.definition = d

variable {db order tick s}

private theorem filter_definition_taskRuns {d : Definition} {ds : List Definition} (h : d ∉ ds)
    (s : Clocked (Exporter δ)) :
    (taskRuns db tick ds s).filter (fun r => r.definition = d) = [] := by
  refine List.filter_eq_nil_iff.mpr fun r hr => ?_
  have hmem : r.definition ∈ (taskRuns db tick ds s).map TaskRun.definition :=
    List.mem_map_of_mem hr
  rw [map_definition_taskRuns] at hmem
  rw [decide_eq_true_eq]
  rintro rfl
  exact h hmem

/-- **The turn of a definition.** When identities differ, every active definition has one turn in a
cycle. Its task begins with what was remembered about the identity before the cycle, and what the
task leaves about it is what the cycle leaves. -/
theorem exists_turn (tick : Option Binary64) (hup : (pinged db s).result = .ok true)
    (hrefresh : (refreshed db s).result = .ok ()) (horder : order.Lawful)
    (hdistinct : ((published s).map Definition.identity).Nodup) {d : Definition}
    (hd : d ∈ published s) :
    ∃ turn : Clocked (Exporter δ),
      runsOf db order tick s d = [taskRun db tick d turn] ∧
      outcomesOf db order tick s d = [(taskRun db tick d turn).outcome] ∧
      turn.inner.ledger.SameFor d.identity s.inner.ledger ∧
      (run (scrape db order tick) s).state.inner.ledger.SameFor d.identity
        (run (task db tick d) turn).state.inner.ledger := by
  have hstarted : started db order s = order.running (published s) :=
    started_of_refreshed hup hrefresh
  have hmem : d ∈ started db order s := hstarted ▸ (horder.running _).mem_iff.mpr hd
  have hnodup : ((started db order s).map Definition.identity).Nodup :=
    hstarted ▸ ((horder.running _).map _).nodup_iff.mpr hdistinct
  -- the tasks before the definition's own, and those behind it
  obtain ⟨first, rest, hsplit⟩ := List.append_of_mem hmem
  rw [hsplit, List.map_append, List.map_cons] at hnodup
  have hfirst : d.identity ∉ first.map Definition.identity :=
    fun h => List.disjoint_of_nodup_append hnodup h List.mem_cons_self
  have hrest : d.identity ∉ rest.map Definition.identity :=
    (List.nodup_cons.mp (List.nodup_append.mp hnodup).2.1).1
  set turn := afterTasks db tick first (prepared db s)
  have hruns : runsOf db order tick s d = [taskRun db tick d turn] := by
    rw [runsOf, cycleRuns, hsplit, taskRuns_append, taskRuns, List.filter_append,
      List.filter_cons_of_pos (by simp [taskRun]),
      filter_definition_taskRuns fun h => hfirst (List.mem_map_of_mem h),
      filter_definition_taskRuns fun h => hrest (List.mem_map_of_mem h)]
    rfl
  refine ⟨turn, hruns, ?_, ?_, ?_⟩
  · have hperm : (outcomesOf db order tick s d).Perm
        ((runsOf db order tick s d).map TaskRun.outcome) := by
      rw [outcomesOf, collected, runsOf, cycleRuns, ← map_outcome_taskRuns]
      refine ((horder.collecting _).filter _).trans ?_
      rw [List.filter_map]
      exact .refl _
    rw [hruns] at hperm
    exact List.perm_singleton.mp hperm
  · exact (sameFor_afterTasks db tick hfirst _).trans (sameFor_prepared db s hd)
  · have hend := (sameRuns_scrape db order tick s).sameFor d.identity
    rw [hsplit, afterTasks_append, afterTasks] at hend
    exact hend.trans (sameFor_afterTasks db tick hrest _)

/-- A task that runs on demand or fails leaves the ledger as it is. -/
theorem ledger_task_of_kept {d : Definition} {s : Clocked (Exporter δ)}
    (h : tick = none ∨ ∃ failure, (run (task db tick d) s).result = .error failure) :
    (run (task db tick d) s).state.inner.ledger = s.inner.ledger := by
  obtain ⟨-, hrun⟩ | ⟨-, -, hrun⟩ | ⟨-, -, timeout, -, hrun⟩ := task_cases db tick d s
  · rw [hrun]
  · rw [hrun]
  · rw [hrun] at h ⊢
    dsimp only at h ⊢
    obtain rfl | ⟨failure, hfailure⟩ := h
    · rfl
    · rw [hfailure, Ledger.afterRun_error]

/-- Tasks that run on demand leave the ledger as it is. -/
theorem ledger_afterTasks_none (ds : List Definition) (s : Clocked (Exporter δ)) :
    (afterTasks db none ds s).inner.ledger = s.inner.ledger := by
  induction ds generalizing s with
  | nil => rfl
  | cons d rest ih => exact (ih _).trans (ledger_task_of_kept (.inl rfl))

/-- A cycle on demand forgets the runs of definitions that are gone, and that is all. -/
theorem sameRuns_scrape_none (db : Database δ) (order : TaskOrder) (s : Clocked (Exporter δ)) :
    (run (scrape db order none) s).state.inner.ledger.SameRuns
      (s.inner.ledger.forgetAllBut (loaded? db s)) := by
  refine (sameRuns_scrape db order none s).trans ?_
  rw [ledger_afterTasks_none, ledger_prepared]
  cases loaded? db s <;> exact ⟨rfl, rfl⟩

/-- **Least intervals over whole runs.** A new exporter has gone through any cycles, and one more
cycle, whose active definitions have different identities, is up and completes. Then every active
definition has one turn in it, and the turn of one without problems asks its request once if the
definition is due by its latest success in the whole run, and else asks nothing and gives the
samples of that success. Cycles on demand and failing runs leave what is remembered as it is, and
what is remembered after the cycle are again the latest successes. -/
theorem scrape_heeds_interval (db : Database δ) {new : Clocked (Exporter δ)}
    (hnew : new.inner.ledger = {}) (past : List Cycle) (c : Cycle) {families : List Family}
    (hup : (pinged db (c.enter (afterCycles db past new))).result = .ok true)
    (hfamilies : (run (scrape db c.order c.tick) (c.enter (afterCycles db past new))).result =
      .ok families)
    (horder : c.order.Lawful)
    (hdistinct : ((published (c.enter (afterCycles db past new))).map Definition.identity).Nodup) :
    let s := c.enter (afterCycles db past new)
    let after := afterCycles db (past ++ [c]) new
    (∀ d ∈ published s, ∃ r, runsOf db c.order c.tick s d = [r] ∧
      outcomesOf db c.order c.tick s d = [r.outcome] ∧
      (d.problems = [] →
        let last := lastSuccess? d.identity (history db past new)
        (r.exchanges ≠ [] ↔ d.IsDueAfter c.tick last) ∧
        (r.exchanges ≠ [] → ∃ timeout reply, r.exchanges = [.query d.request timeout reply]) ∧
        (r.exchanges = [] → ∃ success, last = some success ∧ r.result = .ok success.samples ∧
          contribution db c.order c.tick s d = success.samples)) ∧
      ((c.tick = none ∨ ∃ failure, r.result = .error failure) →
        after.inner.ledger.SameFor d.identity s.inner.ledger)) ∧
    (∃ grouping,
      Grouping.ofSamples ((collected db c.order c.tick s).flatMap Outcome.samples) =
        .ok grouping ∧
      families = grouping.families ++
        after.inner.ledger.ownFamilies s.inner.settings.ns (db.dbtype after.inner.database)) ∧
    (c.tick = none →
      after.inner.ledger.SameRuns (s.inner.ledger.forgetAllBut (loaded? db s))) ∧
    after.inner.ledger.Recalls (history db (past ++ [c]) new) := by
  intro s after
  have hrefresh : (refreshed db s).result = .ok () := refreshed_of_result hup hfamilies
  have hafter : after = (run (scrape db c.order c.tick) s).state :=
    afterCycles_concat db past c new
  have hbefore : s.inner.ledger.Recalls (history db past new) := recalls_history db hnew past
  refine ⟨fun d hd => ?_, ?_, ?_, ?_⟩
  · obtain ⟨turn, hruns, houtcomes, hbegin, hend⟩ :=
      exists_turn c.tick hup hrefresh horder hdistinct hd
    refine ⟨taskRun db c.tick d turn, hruns, houtcomes, fun hproblems => ?_, fun hkept => ?_⟩
    · -- the turn begins with what the cycles before have left about the identity
      have hholds := (hbefore d.identity).congr hbegin
      obtain ⟨hdue, timeout, reply, -, hrun⟩ | ⟨hdue, success, hlast, hrun⟩ :=
        taskRun_of_holds db c.tick hproblems hholds
      · rw [hrun]
        exact ⟨⟨fun _ => hdue, fun _ => by simp⟩, fun _ => ⟨timeout, reply, rfl⟩, nofun⟩
      · rw [contribution, houtcomes, hrun]
        refine ⟨⟨fun h => absurd rfl h, fun h => absurd h hdue⟩, fun h => absurd rfl h, fun _ => ?_⟩
        exact ⟨success, hlast, rfl, List.flatMap_singleton ..⟩
    · rw [ledger_task_of_kept hkept] at hend
      rw [hafter]
      exact hend.trans hbegin
  · rw [hafter]
    exact exists_grouping_of_result hup hrefresh hfamilies
  · intro htick
    rw [hafter, htick]
    exact sameRuns_scrape_none db c.order s
  · exact recalls_history db hnew (past ++ [c])

/-- A definition with a least interval of one minute. -/
def minutely : Definition :=
  { context := "process", helps := [("count", "")], request := "select 1", scrapeInterval := "1m" }

/-- A new exporter whose only definition has a least interval. -/
def minutelyExporter : Exporter Scripted.DatabaseState where
  database := { rows := [("select 1", [[("count", "1")]])] }
  store := { sources := [], defaults := none, definitions := [minutely] }

/-- A scheduled cycle that begins at its tick. -/
def cycleAt (tick : Binary64) : Cycle := ⟨[], tick, some tick, .inTurn⟩

/-- Half a minute after a success, the definition asks nothing and gives its samples again. -/
theorem scrape_heeds_interval_minutely :
    let s := (cycleAt 130).enter
      (afterCycles Scripted.database [cycleAt 100] ⟨0, minutelyExporter⟩)
    minutelyExporter.ledger = {} ∧ (pinged Scripted.database s).result = .ok true ∧
    (∃ families, (run (scrape Scripted.database .inTurn (some 130)) s).result = .ok families) ∧
    TaskOrder.inTurn.Lawful ∧ ((published s).map Definition.identity).Nodup ∧
    ∃ r, runsOf Scripted.database .inTurn (some 130) s minutely = [r] ∧ r.exchanges = [] ∧
      ∃ success : Success, success.tick = 100 ∧ r.result = .ok success.samples := by
  intro s
  have hup : (pinged Scripted.database s).result = .ok true := by decide +kernel
  obtain ⟨families, hfamilies⟩ :
      ∃ families, (run (scrape Scripted.database .inTurn (some 130)) s).result = .ok families := by
    have hdone : (run (scrape Scripted.database .inTurn (some 130)) s).result.isOk = true := by
      decide +kernel
    cases h : (run (scrape Scripted.database .inTurn (some 130)) s).result with
    | ok families => exact ⟨families, rfl⟩
    | error failure => simp [h, Except.isOk, Except.toBool] at hdone
  have hdistinct : ((published s).map Definition.identity).Nodup := by decide +kernel
  have hlast : (lastSuccess? minutely.identity
      (history Scripted.database [cycleAt 100] ⟨0, minutelyExporter⟩)).map Success.tick =
      some 100 := by
    decide +kernel
  have hinterval : minutely.minInterval = .ok (some 60) := by decide +kernel
  obtain ⟨hturns, -⟩ := scrape_heeds_interval Scripted.database rfl [cycleAt 100] (cycleAt 130) hup
    hfamilies TaskOrder.lawful_inTurn hdistinct
  obtain ⟨r, hruns, -, hgate, -⟩ := hturns minutely (by decide +kernel)
  obtain ⟨hasked, -, hskipped⟩ := hgate (by decide +kernel)
  have hnot : r.exchanges = [] := by
    by_contra hne
    obtain htick | hempty | hnone | ⟨now, interval, success, hnow, hd, hsuccess, hle⟩ :=
      hasked.mp hne
    · cases htick
    · exact absurd hempty (by decide)
    · simp [hnone] at hlast
    · obtain rfl := Option.some.inj hnow
      -- the interval is a minute, and only half of it has passed
      obtain rfl := Option.some.inj (Except.ok.inj (hinterval.symm.trans hd))
      rw [hsuccess] at hlast
      obtain htick : success.tick = 100 := Option.some.inj hlast
      rw [htick] at hle
      exact absurd hle (by decide +kernel)
  obtain ⟨success, hsuccess, hresult, -⟩ := hskipped hnot
  rw [hsuccess] at hlast
  exact ⟨rfl, hup, ⟨families, hfamilies⟩, TaskOrder.lawful_inTurn, hdistinct, r, hruns, hnot,
    success, Option.some.inj hlast, hresult⟩

end Exporter

end QueryMetrics
