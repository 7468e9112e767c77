import QueryMetrics.Proofs.Definition.Problems
import QueryMetrics.Proofs.Metric.Columns
import QueryMetrics.Proofs.Scrape.Abort

/-!
# What validation decides

`Definition.problems` goes through what a definition declares, while the stages behind it go through
what they need: the durations, and the columns with their kinds and buckets, declared or not. The
two agree. A definition without problems is `Definition.Serviceable`: its durations can be read,
and no column is left out for what the definition says about it, only for what stands in the row.

A definition with problems is rejected in every cycle (`Exporter.Rejects`). Its problems are looked
at before anything is, so that it makes no difference whether the definition is due, whether its
identity has samples that are remembered, or whether the cycle is scheduled. Nothing is asked for
it, nothing is exposed for it, and whenever the tasks of a cycle are run, its rejection is reported.
-/

namespace QueryMetrics

open QueryMetrics.Action

/-! ### Definitions without problems -/

namespace Definition

variable {d : Definition} {ns : String} {row : Row} {column help : String}

/-- Later stages can use the definition. -/
structure Serviceable (d : Definition) : Prop where
  /-- The time for the query is known, whatever the default is. -/
  timeout : ∀ default, ∃ seconds, d.timeout default = .ok seconds
  /-- It is known whether there is a least interval, and which. -/
  interval : ∃ interval, d.minInterval = .ok interval
  /-- For no row it is reported that a kind is unknown or that a histogram has no buckets. -/
  notices : ∀ ns row, ∀ notice ∈ (d.harvest ns row).notices,
    notice.record.message ≠ "Unknown metric type" ∧
      notice.record.message ≠ "No metricsbuckets entry for histogram"
  /-- A column is skipped exactly if its value is no number or, for a histogram, the count of the
  row is no count. -/
  columns : ∀ ns row, ∀ entry ∈ d.helps,
    (∃ fault, d.columnOutcome ns row entry.1 entry.2 = .error fault) ↔
      Binary64.ofText? (row.get entry.1) = none ∨
        (d.kindOf entry.1 = Kind.histogram.word ∧ unsigned? (row.get "count") = none)

/-- Without problems, a column is refused only for its value or the count of the row. -/
theorem Refuses.of_row (h : d.problems = []) {fault : ColumnFault}
    (hrefuses : d.Refuses row column help fault) :
    (fault = .valueNotNumber column help (row.get column) ∧
      Binary64.ofText? (row.get column) = none) ∨
    (fault = .countNotWhole column help (row.get "count") ∧
      d.kindOf column = Kind.histogram.word ∧ unsigned? (row.get "count") = none) := by
  obtain ⟨kind, hkind, hbuckets⟩ := exists_kind h column
  have hword := ofWord?_eq_some_iff.mp hkind
  cases hrefuses with
  | valueNotNumber hvalue => exact .inl ⟨rfl, hvalue⟩
  | unknownKind _ hunknown => exact absurd hword (hunknown kind)
  | noBuckets _ hhistogram hnone =>
    have hsome := hbuckets (Option.some.inj (hkind.symm.trans (ofWord?_eq_some_iff.mpr hhistogram)))
    rw [hnone] at hsome
    cases hsome
  | countNotWhole _ hhistogram _ hcount => exact .inr ⟨rfl, hhistogram, hcount⟩

/-- Whatever the definition, a column needs its value, and a histogram the count of the row. -/
theorem exists_fault_of_unreadable
    (h : Binary64.ofText? (row.get column) = none ∨
      (d.kindOf column = Kind.histogram.word ∧ unsigned? (row.get "count") = none))
    (ns help : String) : ∃ fault, d.columnOutcome ns row column help = .error fault := by
  unfold columnOutcome
  cases hvalue : Binary64.ofText? (row.get column) with
  | none => exact ⟨_, rfl⟩
  | some value =>
    obtain hnone | ⟨hhistogram, hcount⟩ := h
    · rw [hvalue] at hnone
      cases hnone
    · rw [ofWord?_eq_some_iff.mpr hhistogram]
      dsimp only
      unfold histogramOutcome
      cases d.buckets.find? column with
      | none => exact ⟨_, rfl⟩
      | some bounds =>
        rw [hcount]
        exact ⟨_, rfl⟩

/-- What is reported about a row of a definition without problems is about values, counts and
buckets. -/
theorem message_of_mem_notices (h : d.problems = []) {notice : RowNotice}
    (hnotice : notice ∈ (d.harvest ns row).notices) :
    notice.record.message ≠ "Unknown metric type" ∧
      notice.record.message ≠ "No metricsbuckets entry for histogram" := by
  rw [harvest_eq] at hnotice
  obtain ⟨entry, -, hmem⟩ := List.mem_flatMap.mp hnotice
  obtain ⟨s, left, hok, -⟩ | ⟨fault, hfault, hrefuses⟩ :=
    columnOutcome_cases d ns row entry.1 entry.2
  · rw [hok] at hmem
    obtain ⟨bucket, -, rfl⟩ := List.mem_map.mp hmem
    cases bucket <;> simp [RowNotice.record, BucketFault.record, leftOutRecord]
  · rw [hfault] at hmem
    obtain rfl := List.mem_singleton.mp hmem
    obtain ⟨rfl, -⟩ | ⟨rfl, -⟩ := hrefuses.of_row h
    · simp [RowNotice.record, ColumnFault.record, leftOutRecord]
    · simp [RowNotice.record, ColumnFault.record, leftOutRecord]

/-- A definition without problems can be used. -/
theorem serviceable_of_problems_eq_nil (h : d.problems = []) : d.Serviceable where
  timeout := d.exists_timeout h
  interval := d.exists_minInterval h
  notices := fun _ _ _ hnotice => message_of_mem_notices h hnotice
  columns := by
    intro ns row entry _
    refine ⟨?_, fun hunreadable => exists_fault_of_unreadable hunreadable ns entry.2⟩
    rintro ⟨fault, hfault⟩
    obtain ⟨s, left, hok, -⟩ | ⟨other, hother, hrefuses⟩ :=
      columnOutcome_cases d ns row entry.1 entry.2
    · rw [hfault] at hok
      cases hok
    · exact (hrefuses.of_row h).imp And.right And.right

end Definition

/-! ### Definitions with problems -/

/-- The report that a definition has problems. -/
def Definition.rejection (d : Definition) : ExporterEvent :=
  .definitionFailed d.context d.helps.keys (.unusable d.problems)

/-- What the task of a definition with problems comes to. -/
def Definition.rejected (d : Definition) : Outcome := ⟨d, .error (.unusable d.problems)⟩

namespace Exporter

variable {δ : Type} {db : Database δ} {order : TaskOrder} {tick : Option Binary64}
  {s : Clocked (Exporter δ)} {d : Definition}

/-- The definition is never used. -/
structure Rejects (db : Database δ) (d : Definition) : Prop where
  /-- Its task asks nothing of the database, whatever the state is and scheduled or not. -/
  queries : ∀ order tick s, ∀ r ∈ cycleRuns db order tick s, r.definition = d → r.exchanges = []
  /-- What a cycle asks, it asks to make contact or for other definitions. -/
  exchanges : ∀ order tick s, cycleExchanges db order tick s = contact db s ++
    ((cycleRuns db order tick s).filter (·.definition ≠ d)).flatMap TaskRun.exchanges
  /-- It contributes no samples, whatever the state is and scheduled or not. -/
  samples : ∀ order tick s, order.Lawful → contribution db order tick s d = []
  /-- Whatever a new exporter has been used for, a cycle that runs its tasks completes and reports
  its outcomes, and those of the definition are one rejection for each time that it is active. -/
  report : ∀ (new : Clocked (Exporter δ)) (past : List (Use δ)) (c : Cycle),
    let s := c.enter (afterUses db past new)
    let ran := run (scrape db c.order c.tick) s
    new.inner.ledger = {} → c.order.Lawful → (pinged db s).result = .ok true →
      (refreshed db s).result = .ok () →
      (∃ families, ran.result = .ok families) ∧
      ran.events.filter ExporterEvent.isTaskFailure =
        (collected db c.order c.tick s).filterMap Outcome.event? ∧
      (outcomesOf db c.order c.tick s d).map Outcome.event? =
        List.replicate ((published s).count d) (some d.rejection)
  /-- A rejection is logged as an error in the configuration of the definition. -/
  record : d.rejection.record = ⟨.error, "Error scraping metric",
    [("context", .text d.context), ("metrics_desc", .array (d.helps.keys.map .text)),
      ("error", .text ("; ".intercalate (d.problems.map Problem.message))),
      ("error_type", .text "DefinitionConfigError")], false⟩

/-- **The step of a task.** Wherever a definition with problems has its turn, nothing is asked for
it, and its task ends with the problems. -/
theorem run_of_problems (h : d.problems ≠ []) {r : TaskRun} (hr : r ∈ cycleRuns db order tick s)
    (hd : r.definition = d) : r.exchanges = [] ∧ r.outcome = d.rejected := by
  obtain ⟨turn, -, hturn⟩ := exists_of_mem_taskRuns hr
  rw [hd] at hturn
  obtain ⟨-, hrun, -⟩ | ⟨hnone, -⟩ | ⟨hnone, -⟩ := taskRun_cases db tick d turn
  · rw [hturn, hrun]
    exact ⟨rfl, rfl⟩
  · exact absurd hnone h
  · exact absurd hnone h

/-- If the tasks of a definition ask nothing, what is asked is asked for others. -/
theorem flatMap_exchanges_eq_filter {runs : List TaskRun}
    (hruns : ∀ r ∈ runs, r.definition = d → r.exchanges = []) :
    runs.flatMap TaskRun.exchanges =
      (runs.filter (·.definition ≠ d)).flatMap TaskRun.exchanges := by
  induction runs with
  | nil => rfl
  | cons r rest ih =>
    have hrest := ih fun r' hr' => hruns r' (List.mem_cons_of_mem r hr')
    by_cases hd : r.definition = d
    · simp [hd, hruns r List.mem_cons_self hd, hrest]
    · simp [hd, hrest]

/-- Every outcome of a definition with problems is its rejection. -/
theorem eq_rejected_of_mem_outcomesOf (h : d.problems ≠ []) (horder : order.Lawful)
    {outcome : Outcome} (houtcome : outcome ∈ outcomesOf db order tick s d) :
    outcome = d.rejected := by
  obtain ⟨hcollected, hd⟩ := List.mem_filter.mp houtcome
  have hmem := (collected_perm_cycleRuns db horder tick s).mem_iff.mp hcollected
  obtain ⟨r, hr, rfl⟩ := List.mem_map.mp hmem
  exact (run_of_problems h hr (of_decide_eq_true hd)).2

/-- A cycle that runs its tasks has one outcome of a definition for each time that it is active. -/
theorem length_outcomesOf (horder : order.Lawful) (hup : (pinged db s).result = .ok true)
    (hrefresh : (refreshed db s).result = .ok ()) (d : Definition) :
    (outcomesOf db order tick s d).length = (published s).count d := by
  have hcount := (definitions_collected db tick s horder).count_eq d
  rw [started_of_refreshed hup hrefresh, (horder.running _).count_eq] at hcount
  rw [← hcount, outcomesOf, ← List.countP_eq_length_filter, List.count, List.countP_map]
  exact List.countP_congr fun outcome _ => by simp

/-- A cycle that runs its tasks, after any uses of a new exporter, completes and reports its
outcomes. -/
theorem reports_of_refreshed {new : Clocked (Exporter δ)} (hnew : new.inner.ledger = {})
    (past : List (Use δ)) (c : Cycle) (horder : c.order.Lawful)
    (hup : (pinged db (c.enter (afterUses db past new))).result = .ok true)
    (hrefresh : (refreshed db (c.enter (afterUses db past new))).result = .ok ()) :
    let s := c.enter (afterUses db past new)
    let ran := run (scrape db c.order c.tick) s
    (∃ families, ran.result = .ok families) ∧
      ran.events.filter ExporterEvent.isTaskFailure =
        (collected db c.order c.tick s).filterMap Outcome.event? := by
  intro s ran
  have hlabelled : s.inner.ledger.FullyLabelled := by
    refine fullyLabelled_afterUses db past ?_
    rw [hnew]
    exact nofun
  obtain ⟨failure, hfailure, -⟩ | ⟨exposed, up, outcomes, duration, hping, -, hall, hresult, -,
    hevents⟩ := scrape_ends db c.order c.tick s
  · -- it can neither fail in its contact nor in its refresh
    obtain ⟨hping, -⟩ | ⟨-, hfailed, -⟩ := aborted_cases db hlabelled horder hfailure
    · rw [hup] at hping
      cases hping
    · rw [hrefresh] at hfailed
      cases hfailed
  · obtain rfl := Except.ok.inj (hup.symm.trans hping)
    obtain ⟨-, rfl⟩ := hall rfl
    exact ⟨⟨_, hresult⟩, hevents⟩

/-- A definition with problems is never used. -/
theorem rejects_of_problems (h : d.problems ≠ []) (db : Database δ) : Rejects db d where
  queries := fun order tick s r hr hd => (run_of_problems h hr hd).1
  exchanges := by
    intro order tick s
    rw [cycleExchanges_eq, ← flatMap_exchanges_eq_filter]
    exact fun r hr hd => (run_of_problems h hr hd).1
  samples := by
    intro order tick s horder
    rw [contribution, List.flatMap_eq_nil_iff]
    intro outcome houtcome
    rw [eq_rejected_of_mem_outcomesOf h horder houtcome]
    rfl
  report := by
    intro new past c s ran hnew horder hup hrefresh
    obtain ⟨hcompletes, hevents⟩ := reports_of_refreshed hnew past c horder hup hrefresh
    refine ⟨hcompletes, hevents, List.eq_replicate_iff.mpr ⟨?_, ?_⟩⟩
    · rw [List.length_map, length_outcomesOf horder hup hrefresh]
    · intro event hevent
      obtain ⟨outcome, houtcome, rfl⟩ := List.mem_map.mp hevent
      rw [eq_rejected_of_mem_outcomesOf h horder houtcome]
      rfl
  record := rfl

/-- **Validation is sound.** Without problems a definition can be used in every later stage: both of
its durations can be read, and of its columns only those are skipped whose texts in the row cannot
be read. With problems it is never used: in no cycle, whatever has happened before, is anything
asked or exposed for it, and each cycle that runs its tasks reports that it is rejected. -/
theorem validation_sound (d : Definition) :
    (d.problems = [] → d.Serviceable) ∧
      (d.problems ≠ [] → ∀ {δ : Type} (db : Database δ), Rejects db d) := by
  refine ⟨Definition.serviceable_of_problems_eq_nil, ?_⟩
  intro h δ db
  exact rejects_of_problems h db

/-- A definition that runs every hour. -/
def hourly : Definition where
  context := "io"
  helps := [("latency", "Latency.")]
  request := "select latency from io"
  scrapeInterval := "1h"

/-- The same with a histogram that has no buckets. -/
def unbucketed : Definition := { hourly with kinds := [("latency", "histogram")] }

/-- An exporter for both, whose database answers. -/
def sharedIdentity : Exporter Scripted.DatabaseState where
  database := { rows := [("select latency from io", [[("latency", "3")]])] }
  store := { sources := [], defaults := none, definitions := [unbucketed, hourly] }

/-- In the second cycle neither is due, and the first has left samples under the identity of both.
The definition with problems contributes none of them and is reported. -/
theorem validation_sound_sharedIdentity :
    let past : List (Use Scripted.DatabaseState) := [.scrape (scheduledWith [] 100)]
    let c := scheduledWith [] 160
    let s := c.enter (afterUses Scripted.database past ⟨0, sharedIdentity⟩)
    hourly.problems = [] ∧ hourly.Serviceable ∧
    unbucketed.problems = [.noBuckets "latency"] ∧ unbucketed.identity = hourly.identity ∧
    s.inner.ledger.samplesOf unbucketed.identity =
      [{ name := "oracledb_io_latency", kind := .gauge, value := 3, help := "Latency." }] ∧
    contribution Scripted.database c.order c.tick s hourly =
      s.inner.ledger.samplesOf unbucketed.identity ∧
    contribution Scripted.database c.order c.tick s unbucketed = [] ∧
    (outcomesOf Scripted.database c.order c.tick s unbucketed).map Outcome.event? =
      [some unbucketed.rejection] := by
  intro past c s
  have hproblems : unbucketed.problems = [.noBuckets "latency"] := by decide +kernel
  have hnone : hourly.problems = [] := by decide +kernel
  have hrejects : Rejects Scripted.database unbucketed :=
    (validation_sound unbucketed).2 (by rw [hproblems]; exact nofun) Scripted.database
  have hup : (pinged Scripted.database s).result = .ok true := by decide +kernel
  have hrefresh : (refreshed Scripted.database s).result = .ok () := by decide +kernel
  have hreport : (outcomesOf Scripted.database c.order c.tick s unbucketed).map Outcome.event? =
      List.replicate ((published s).count unbucketed) (some unbucketed.rejection) :=
    (hrejects.report ⟨0, sharedIdentity⟩ past c rfl TaskOrder.lawful_inTurn hup hrefresh).2.2
  have hactive : (published s).count unbucketed = 1 := by decide +kernel
  rw [hactive] at hreport
  exact ⟨hnone, (validation_sound hourly).1 hnone, hproblems, by decide +kernel, by decide +kernel,
    by decide +kernel, hrejects.samples c.order c.tick s TaskOrder.lawful_inTurn, hreport⟩

end Exporter

end QueryMetrics
