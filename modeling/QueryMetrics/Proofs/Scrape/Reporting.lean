import QueryMetrics.Proofs.Scrape.Transcript

/-!
# What a cycle reports about its tasks

Much of what an exporter does is logged. A **scrape error** is a record which says that the task of
a definition has failed; it names the context of the definition.

Only the report at the end of a cycle writes scrape errors: pings, refreshes, tasks and groupings
log other things (`Exporter.ReportsNoFailure`). So a cycle either fails before its report and leaves
the counts of errors alone, or it completes and logs one scrape error for every outcome that is
reported (`Exporter.scrape_ends`).

The report leaves out tasks without usable rows whose definitions ignore this. Such tasks do not
fail in the first place: unless the database itself claims that a query gave no usable rows, every
failed task is reported (`Exporter.reported?_taskRun`).
-/

namespace QueryMetrics

open QueryMetrics.Action

/-! ### Scrape errors -/

/-- The record says that the task of a definition has failed. -/
def Log.Record.isScrapeError (record : Log.Record) : Bool :=
  record.message == "Error scraping metric"

/-- The context that a record names. -/
def Log.Record.context? (record : Log.Record) : Option String :=
  match Entries.find? "context" record.fields with
  | some (.text context) => some context
  | _ => none

/-- How many scrape errors name a context. -/
def scrapeErrors (context : String) (records : List Log.Record) : Nat :=
  records.countP fun record => record.isScrapeError && record.context? == some context

/-- The event is the report about a failed task. -/
def ExporterEvent.isTaskFailure : ExporterEvent → Bool
  | definitionFailed .. => true
  | _ => false

/-- Only reports about failed tasks are logged as scrape errors. -/
theorem ExporterEvent.isScrapeError_record (event : ExporterEvent) :
    event.record.isScrapeError = event.isTaskFailure := by
  cases event with
  | row notice => cases notice with
    | column fault => cases fault <;> rfl
    | bucket fault => cases fault <;> rfl
  | family fault => cases fault <;> rfl
  | store event => cases event <;> rfl
  | connection event => cases event <;> rfl
  | sessionClosed failure => rfl
  | reconnectFailed failure => rfl
  | pingFailed failure => rfl
  | definitionFailed context columns failure => rfl
  | registered scheduled => rfl

theorem scrapeErrors_append (context : String) (first second : List Log.Record) :
    scrapeErrors context (first ++ second) =
      scrapeErrors context first + scrapeErrors context second :=
  List.countP_append

/-- The scrape errors of a log are the reports about failed tasks. -/
theorem filter_isScrapeError (events : List ExporterEvent) :
    (events.map ExporterEvent.record).filter (·.isScrapeError) =
      (events.filter ExporterEvent.isTaskFailure).map ExporterEvent.record := by
  rw [List.filter_map]
  congr 1
  exact List.filter_congr fun event _ => event.isScrapeError_record

/-! ### Outcomes -/

namespace Outcome

/-- The failure of a task. -/
def failure? (outcome : Outcome) : Option Failure :=
  match outcome.result with
  | .ok _ => none
  | .error failure => some failure

/-- The record of a failed task. -/
def failureRecord? (outcome : Outcome) : Option Log.Record :=
  outcome.failure?.map fun failure =>
    (ExporterEvent.definitionFailed outcome.definition.context outcome.definition.helps.keys
      failure).record

/-- Only failed tasks without usable rows may be left out of the report. -/
theorem reported?_eq_failure? {outcome : Outcome}
    (h : ∀ context, outcome.result = .error (.zeroResult context) →
      outcome.definition.ignoreZeroResult = false) :
    outcome.reported? = outcome.failure? := by
  unfold reported? failure?
  cases hresult : outcome.result with
  | ok samples => rfl
  | error failure =>
    cases failure with
    | zeroResult context => simp [h context hresult]
    | _ => rfl

/-- The report has one scrape error for every error of a context that is counted. -/
theorem scrapeErrors_report (context : String) (outcomes : List Outcome) :
    scrapeErrors context ((outcomes.filterMap event?).map ExporterEvent.record) =
      (reportedContexts outcomes).count context := by
  induction outcomes with
  | nil => rfl
  | cons outcome rest ih =>
    cases hreported : outcome.reported? with
    | none =>
      have hevent : outcome.event? = none := by rw [event?, hreported]; rfl
      have hcontexts : reportedContexts (outcome :: rest) = reportedContexts rest := by
        simp [reportedContexts, hreported]
      rw [List.filterMap_cons_none hevent, hcontexts, ih]
    | some failure =>
      have hevent : outcome.event? = some (.definitionFailed outcome.definition.context
          outcome.definition.helps.keys failure) := by rw [event?, hreported]; rfl
      have hcontexts : reportedContexts (outcome :: rest) =
          outcome.definition.context :: reportedContexts rest := by
        simp [reportedContexts, hreported]
      rw [List.filterMap_cons_some hevent, hcontexts, List.map_cons, List.count_cons, ← ih,
        scrapeErrors, scrapeErrors, List.countP_cons]
      rfl

/-- A report is about failed tasks only. -/
theorem filter_report (outcomes : List Outcome) :
    (outcomes.filterMap event?).filter ExporterEvent.isTaskFailure =
      outcomes.filterMap event? := by
  rw [List.filter_eq_self]
  intro event hevent
  obtain ⟨outcome, -, houtcome⟩ := List.mem_filterMap.mp hevent
  obtain ⟨failure, -, rfl⟩ := Option.map_eq_some_iff.mp houtcome
  rfl

/-- There are errors to count exactly if there is something to report. -/
theorem reportedContexts_eq_nil_iff (outcomes : List Outcome) :
    reportedContexts outcomes = [] ↔ outcomes.filterMap event? = [] := by
  simp [reportedContexts, event?]

end Outcome

/-- The database itself claims that a query gave no usable rows. -/
def Exchange.claimsZeroResult : Exchange → Bool
  | query _ _ (.error (.zeroResult _)) => true
  | _ => false

namespace Exporter

variable {δ α β : Type}

/-! ### Failures that are left out -/

/-- A task fails without usable rows only if its definition does not ignore this, unless the
database has claimed so. -/
theorem reported?_taskRun {db : Database δ} {tick : Option Binary64} {d : Definition}
    {s : Clocked (Exporter δ)}
    (h : ∀ exchange ∈ (taskRun db tick d s).exchanges, exchange.claimsZeroResult = false) :
    (taskRun db tick d s).outcome.reported? = (taskRun db tick d s).outcome.failure? := by
  refine Outcome.reported?_eq_failure? fun context hresult => ?_
  obtain ⟨-, hrun, -⟩ | ⟨-, -, hrun, -⟩ | ⟨-, -, timeout, reply, -, hrun, -⟩ :=
    taskRun_cases db tick d s
  · rw [hrun] at hresult
    cases hresult
  · rw [hrun] at hresult
    cases hresult
  · rw [hrun] at hresult h ⊢
    cases reply with
    | error failure =>
      -- what the database replied is the result, and that was no claim
      obtain rfl := Except.error.inj hresult
      cases h _ List.mem_cons_self
    | ok rows =>
      cases hignore : d.ignoreZeroResult with
      | false => exact hignore
      | true => simp [TaskRun.outcome, Definition.answer, hignore] at hresult

/-! ### Actions that report no failed task -/

/-- The action reports no failed task. -/
def ReportsNoFailure (action : ExporterAction δ α) : Prop :=
  ∀ s, (run action s).events.filter ExporterEvent.isTaskFailure = []

/-- Events of one other kind are no reports about failed tasks. -/
theorem filter_isTaskFailure_map {ε : Type} {lift : ε → ExporterEvent}
    (h : ∀ event, (lift event).isTaskFailure = false) (events : List ε) :
    (events.map lift).filter ExporterEvent.isTaskFailure = [] := by
  simp [List.filter_eq_nil_iff, h]

theorem reportsNoFailure_ask (action : Action (Clocked δ) ConnectionEvent α) :
    ReportsNoFailure (ask action) :=
  fun _ => filter_isTaskFailure_map (fun _ => rfl) _

theorem reportsNoFailure_pure (a : α) : ReportsNoFailure (pure a : ExporterAction δ α) :=
  fun _ => rfl

theorem reportsNoFailure_report {event : ExporterEvent} (h : event.isTaskFailure = false) :
    ReportsNoFailure (report [event] : ExporterAction δ Unit) := by
  intro s
  simp [h]

theorem ReportsNoFailure.bind {action : ExporterAction δ α} {next : α → ExporterAction δ β}
    (h : ReportsNoFailure action) (h' : ∀ a, ReportsNoFailure (next a)) :
    ReportsNoFailure (action >>= next) := by
  intro s
  cases hr : (run action s).result with
  | error failure =>
    rw [run_bind_error hr]
    exact h s
  | ok a =>
    rw [run_bind_ok hr]
    dsimp only
    rw [List.filter_append, h s, h' a]
    rfl

theorem ReportsNoFailure.catching {caught : Failure → Bool}
    {handler : Failure → ExporterAction δ α} {action : ExporterAction δ α}
    (h : ReportsNoFailure action) (h' : ∀ failure, ReportsNoFailure (handler failure)) :
    ReportsNoFailure (action.catching caught handler) := by
  intro s
  cases hr : (run action s).result with
  | ok a =>
    rw [run_catching_ok hr]
    exact h s
  | error failure =>
    cases hc : caught failure with
    | false =>
      rw [run_catching_uncaught hr hc]
      exact h s
    | true =>
      rw [run_catching_caught hr hc]
      dsimp only
      rw [List.filter_append, h s, h' failure]
      rfl

theorem reportsNoFailure_ping (db : Database δ) : ReportsNoFailure (ping db) := by
  have hreconnect : ReportsNoFailure (reconnect db) :=
    (reportsNoFailure_ask _).catching fun _ => reportsNoFailure_report rfl
  have hagain : ReportsNoFailure (pingAgain db) :=
    ((reportsNoFailure_ask _).bind fun _ => reportsNoFailure_pure _).catching fun _ =>
      (reportsNoFailure_report rfl).bind fun _ => reportsNoFailure_pure _
  refine ((reportsNoFailure_ask _).bind fun _ => reportsNoFailure_pure _).catching
    fun failure => ?_
  rw [recover]
  split
  · exact (reportsNoFailure_report rfl).bind fun _ => hreconnect.bind fun _ => hagain
  · exact hagain

theorem reportsNoFailure_refresh : ReportsNoFailure (refresh : ExporterAction δ Unit) := by
  intro s
  rw [run_refresh]
  exact filter_isTaskFailure_map (fun _ => rfl) _

/-- A task does not report its own failure. -/
theorem reportsNoFailure_task (db : Database δ) (tick : Option Binary64) (d : Definition) :
    ReportsNoFailure (task db tick d) := by
  intro s
  obtain ⟨-, h⟩ | ⟨-, -, h⟩ | ⟨-, -, timeout, -, h⟩ := task_cases db tick d s
  · rw [h]
    rfl
  · rw [h]
    rfl
  · rw [h]
    dsimp only
    rw [List.filter_append, reportsNoFailure_ask, List.nil_append]
    unfold Definition.replyEvents
    split
    · rfl
    · exact filter_isTaskFailure_map (fun _ => rfl) _

theorem filter_taskEvents (db : Database δ) (tick : Option Binary64) (ds : List Definition)
    (s : Clocked (Exporter δ)) :
    (taskEvents db tick ds s).filter ExporterEvent.isTaskFailure = [] := by
  induction ds generalizing s with
  | nil => rfl
  | cons d rest ih => rw [taskEvents, List.filter_append, ih, reportsNoFailure_task]; rfl

/-! ### Cycles -/

variable {db : Database δ} {s : Clocked (Exporter δ)} (order : TaskOrder) (tick : Option Binary64)

/-- A cycle without the database completes with the exporter's own families only, and reports
nothing. -/
private theorem scrape_ends_of_down (h : (pinged db s).result = .ok false) :
    let ran := run (scrape db order tick) s
    ran.result = .ok (ran.state.inner.ledger.ownFamilies s.inner.settings.ns
        (db.dbtype ran.state.inner.database)) ∧
      ran.state.inner.ledger = (pinged db s).state.inner.ledger.conclude
        ((pinged db s).state.clock - s.clock) false [] ∧
      ran.events.filter ExporterEvent.isTaskFailure = [] := by
  have hsettings : (pinged db s).state.inner.settings = s.inner.settings := by
    rw [inner_pinged]
    rfl
  rw [run_scrape_of_down h]
  refine ⟨?_, rfl, ?_⟩
  · simp [run_conclude, hsettings]
  · dsimp only
    rw [List.filter_append, pinged, reportsNoFailure_ping]
    rfl

/-- A refreshed cycle in terms of its stages. -/
theorem run_scrape_of_refreshed (h : (pinged db s).result = .ok true)
    (hrefresh : (refreshed db s).result = .ok ()) :
    run (scrape db order tick) s =
      let ended := afterTasks db tick (started db order s) (prepared db s)
      let events := (pinged db s).events ++ ((refreshed db s).events ++
        taskEvents db tick (started db order s) (prepared db s))
      match Grouping.ofSamples ((collected db order tick s).flatMap Outcome.samples) with
      | .error mismatch => ⟨.error (.labels mismatch), ended, events⟩
      | .ok grouping =>
        let concluded := run (conclude db s.clock true (collected db order tick s)) ended
        ⟨concluded.result.map (grouping.families ++ ·), concluded.state,
         events ++ grouping.notices.map .family ++ concluded.events⟩ := by
  have hstarted : started db order s =
      order.running (refreshed db s).state.inner.store.definitions := by
    rw [started, h, hrefresh]
  rw [collected, hstarted, prepared_of_up h]
  exact run_scrape_of_up h hrefresh

/-- A refreshed cycle fails if its samples cannot be grouped. Otherwise it completes and reports
its outcomes. -/
private theorem scrape_ends_of_refreshed (h : (pinged db s).result = .ok true)
    (hrefresh : (refreshed db s).result = .ok ()) :
    let ran := run (scrape db order tick) s
    let ended := afterTasks db tick (started db order s) (prepared db s)
    (∃ failure, ran.result = .error failure ∧ ran.state.inner.ledger = ended.inner.ledger) ∨
      ∃ exposed, ran.result = .ok (exposed ++
          ran.state.inner.ledger.ownFamilies s.inner.settings.ns
            (db.dbtype ran.state.inner.database)) ∧
        ran.state.inner.ledger = ended.inner.ledger.conclude (ended.clock - s.clock) true
          (collected db order tick s) ∧
        ran.events.filter ExporterEvent.isTaskFailure =
          (collected db order tick s).filterMap Outcome.event? := by
  intro ran ended
  have hrun : ran = _ := run_scrape_of_refreshed order tick h hrefresh
  cases hgrouping : Grouping.ofSamples ((collected db order tick s).flatMap Outcome.samples) with
  | error mismatch =>
    simp only [hgrouping] at hrun
    exact .inl ⟨.labels mismatch, by rw [hrun], by rw [hrun]⟩
  | ok grouping =>
    simp only [hgrouping] at hrun
    refine .inr ⟨grouping.families, result_scrape_of_grouping h hrefresh hgrouping, ?_, ?_⟩
    · rw [hrun]
      rfl
    · -- of everything that is logged, only the report at the end is about failed tasks
      rw [hrun]
      simp only [run_conclude, List.filter_append, filter_taskEvents]
      rw [pinged, reportsNoFailure_ping, refreshed, reportsNoFailure_refresh,
        filter_isTaskFailure_map fun _ => rfl]
      exact Outcome.filter_report _

/-- **How a cycle ends.** It fails, and then the ledger is as after its tasks; or it completes with
the exporter's own families at the end, and its scrape errors are the reports about the outcomes
that it concludes with. -/
theorem scrape_ends (db : Database δ) (order : TaskOrder) (tick : Option Binary64)
    (s : Clocked (Exporter δ)) :
    let ran := run (scrape db order tick) s
    let before := (afterTasks db tick (started db order s) (prepared db s)).inner.ledger
    (∃ failure, ran.result = .error failure ∧ ran.state.inner.ledger = before) ∨
      ∃ exposed up outcomes duration,
        (pinged db s).result = .ok up ∧
        (up = false → exposed = [] ∧ outcomes = []) ∧
        (up = true → (refreshed db s).result = .ok () ∧ outcomes = collected db order tick s) ∧
        ran.result = .ok (exposed ++ ran.state.inner.ledger.ownFamilies s.inner.settings.ns
          (db.dbtype ran.state.inner.database)) ∧
        ran.state.inner.ledger = before.conclude duration up outcomes ∧
        ran.events.filter ExporterEvent.isTaskFailure = outcomes.filterMap Outcome.event? := by
  intro ran before
  cases hping : (pinged db s).result with
  | error failure =>
    refine .inl ⟨failure, ?_, ?_⟩
    · rw [show ran = _ from run_scrape_of_ping_error hping]
    · rw [show ran = _ from run_scrape_of_ping_error hping]
      simp [before, started, prepared, hping, afterTasks]
  | ok up =>
    cases up with
    | false =>
      obtain ⟨hresult, hledger, hevents⟩ :=
        scrape_ends_of_down order tick hping
      have hbefore : before = (pinged db s).state.inner.ledger := by
        simp [before, started, prepared, hping, afterTasks]
      rw [← hbefore] at hledger
      exact .inr ⟨[], false, [], _, rfl, fun _ => ⟨rfl, rfl⟩, fun h => absurd h Bool.false_ne_true,
        hresult, hledger, hevents⟩
    | true =>
      cases hrefresh : (refreshed db s).result with
      | error failure =>
        refine .inl ⟨failure, ?_, ?_⟩
        · rw [show ran = _ from run_scrape_of_refresh_error hping hrefresh]
        · rw [show ran = _ from run_scrape_of_refresh_error hping hrefresh]
          simp [before, started, prepared, hping, hrefresh, afterTasks]
      | ok _ =>
        obtain hfailed | ⟨exposed, hresult, hledger, hevents⟩ :=
          scrape_ends_of_refreshed order tick hping hrefresh
        · exact .inl hfailed
        · exact .inr ⟨exposed, true, _, _, rfl, fun h => absurd h.symm Bool.false_ne_true,
            fun _ => ⟨rfl, rfl⟩, hresult, hledger, hevents⟩

end Exporter

end QueryMetrics
