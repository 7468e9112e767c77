import QueryMetrics.Proofs.Agreement
import QueryMetrics.Proofs.Scrape.Collector
import QueryMetrics.Proofs.Scrape.History
import QueryMetrics.Scripted.Database

/-!
# The two modes of collecting

An exporter that is collected from on demand and a scheduled one come from the same cycles to the
same families. They differ in what they remember: scheduled cycles have ticks, and the tick and the
samples of every success are remembered under its identity. Only definitions with a least interval
ever look at this.

* `Exporter.Twins` relates an exporter on demand and a scheduled one that are equal but for what is
  remembered about runs. Its parts agree action by action, up to the task of a definition without a
  least interval (`Exporter.agree_task`).
* `Exporter.agrees_scrape` is the step: a cycle without a tick and one with any tick agree.
* `Exporter.modes_agree` is the run: after any cycles, what a collection on demand gives is what the
  scheduled exporter stores and then gives.
-/

namespace QueryMetrics

open QueryMetrics.Action

/-! ### Ledgers -/

namespace Ledger

variable {first second : Ledger}

/-- Both ledgers hold the same, but for what is remembered about runs. -/
structure SameBesidesRuns (first second : Ledger) : Prop where
  scrapes : first.scrapes = second.scrapes
  errors : first.errors = second.errors
  lastDuration : first.lastDuration = second.lastDuration
  lastError : first.lastError = second.lastError
  up : first.up = second.up

namespace SameBesidesRuns

theorem refl (ledger : Ledger) : ledger.SameBesidesRuns ledger := ⟨rfl, rfl, rfl, rfl, rfl⟩

theorem begin (h : first.SameBesidesRuns second) : first.begin.SameBesidesRuns second.begin :=
  ⟨congrArg (· + 1) h.scrapes, h.errors, h.lastDuration, h.lastError, h.up⟩

theorem countErrors (h : first.SameBesidesRuns second) (contexts : List String) :
    (first.countErrors contexts).SameBesidesRuns (second.countErrors contexts) := by
  induction contexts generalizing first second with
  | nil => exact h
  | cons context rest ih =>
    refine ih ⟨h.scrapes, ?_, h.lastDuration, h.lastError, h.up⟩
    rw [countError, countError, h.errors]

theorem conclude (h : first.SameBesidesRuns second) (duration : Binary64) (up : Bool)
    (outcomes : List Outcome) :
    (first.conclude duration up outcomes).SameBesidesRuns
      (second.conclude duration up outcomes) :=
  have hcounted := h.countErrors (Outcome.reportedContexts outcomes)
  ⟨hcounted.scrapes, hcounted.errors, rfl, rfl, rfl⟩

theorem forgetRemoved (h : first.SameBesidesRuns second) (active : List Definition) :
    (first.forgetRemoved active).SameBesidesRuns (second.forgetRemoved active) :=
  ⟨h.scrapes, h.errors, h.lastDuration, h.lastError, h.up⟩

/-- A success that only one of them remembers is no difference. -/
theorem remember (h : first.SameBesidesRuns second) (identity : String) (tick : Binary64)
    (samples : List Sample) :
    first.SameBesidesRuns (second.remember identity tick samples) :=
  ⟨h.scrapes, h.errors, h.lastDuration, h.lastError, h.up⟩

/-- The exporter's own families tell nothing about runs. -/
theorem ownFamilies_eq (h : first.SameBesidesRuns second) (ns : String) (dbtype : Int) :
    first.ownFamilies ns dbtype = second.ownFamilies ns dbtype := by
  rw [ownFamilies, ownFamilies, h.scrapes, h.errors, h.lastDuration, h.lastError, h.up]

end SameBesidesRuns

end Ledger

/-- A definition without a least interval is always due. -/
theorem Definition.isDue_of_noInterval {d : Definition} (h : d.scrapeInterval = "")
    (ledger : Ledger) (tick : Option Binary64) : ledger.isDue d tick = .ok true := by
  cases tick with
  | none => rfl
  | some tick =>
    rw [Ledger.isDue, minInterval_eq_none_iff.mpr h]
    rfl

namespace Exporter

variable {δ α : Type}

/-! ### Twins -/

/-- An exporter on demand and a scheduled one that are the same at the same time, but for what is
remembered about runs. -/
structure Twins (s t : Clocked (Exporter δ)) : Prop where
  clock : s.clock = t.clock
  settings : s.inner.settings = t.inner.settings
  files : s.inner.files = t.inner.files
  database : s.inner.database = t.inner.database
  store : s.inner.store = t.inner.store
  ledger : s.inner.ledger.SameBesidesRuns t.inner.ledger
  onDemand : s.inner.scheduled = false
  scheduled : t.inner.scheduled = true

/-- Exporters that are new in the two modes are twins. -/
theorem twins_create {settings : ScrapeSettings} {files : FileTree} {store : DefinitionStore}
    {database : δ} {demanded scheduled : Exporter δ} (clock : Binary64)
    (h : create settings files store database false = .ok demanded)
    (h' : create settings files store database true = .ok scheduled) :
    Twins ⟨clock, demanded⟩ ⟨clock, scheduled⟩ := by
  rw [create] at h h'
  split at h
  · cases h
  · rename_i hpositive
    rw [if_neg hpositive] at h'
    cases h
    cases h'
    exact ⟨rfl, rfl, rfl, rfl, rfl, .refl _, rfl, rfl⟩

/-- Twins enter a cycle together. -/
theorem Twins.enter {s t : Clocked (Exporter δ)} (h : Twins s t) (c : Cycle) :
    Twins (c.enter s) (c.enter t) :=
  ⟨rfl, h.settings, rfl, h.database, h.store, h.ledger, h.onDemand, h.scheduled⟩

theorem Twins.withLedger {s t : Clocked (Exporter δ)} (h : Twins s t) {first second : Ledger}
    (hledger : first.SameBesidesRuns second) :
    Twins ⟨s.clock, { s.inner with ledger := first }⟩
      ⟨t.clock, { t.inner with ledger := second }⟩ :=
  ⟨h.clock, h.settings, h.files, h.database, h.store, hledger, h.onDemand, h.scheduled⟩

/-! ### What twins do alike -/

theorem agree_now : Agree Twins (now : ExporterAction δ Binary64) now :=
  agree_gets fun _ _ h => h.clock

theorem agree_part {of : Exporter δ → α}
    (h : ∀ s t : Clocked (Exporter δ), Twins s t → of s.inner = of t.inner) :
    Agree Twins (part of) (part of) :=
  agree_gets h

/-- What twins take down may differ in what is remembered about runs. -/
theorem agree_takeDown {change change' : Ledger → Ledger}
    (h : ∀ first second : Ledger, first.SameBesidesRuns second →
      (change first).SameBesidesRuns (change' second)) :
    Agree Twins (takeDown change : ExporterAction δ Unit) (takeDown change') :=
  agree_modify fun _ _ htwins => htwins.withLedger (h _ _ htwins.ledger)

theorem agree_ask (action : Action (Clocked δ) ConnectionEvent α) :
    Agree Twins (ask action) (ask action) :=
  agree_on _ action (fun _ _ h => by rw [h.clock, h.database])
    fun _ _ _ h => ⟨rfl, h.settings, h.files, rfl, h.store, h.ledger, h.onDemand, h.scheduled⟩

theorem agree_refresh : Agree Twins (refresh : ExporterAction δ Unit) refresh := by
  refine (agree_part fun _ _ h => h.files).bind fun files => ?_
  refine Agree.bind ?_ fun loaded => ?_
  · exact agree_on _ _ (fun _ _ h => h.store) fun _ _ _ h =>
      ⟨h.clock, h.settings, h.files, h.database, rfl, h.ledger, h.onDemand, h.scheduled⟩
  · split
    · refine (agree_part fun _ _ h => h.store).bind fun store => ?_
      exact agree_takeDown fun _ _ h => h.forgetRemoved store.definitions
    · exact agree_pure ()

theorem agree_ping (db : Database δ) : Agree Twins (ping db) (ping db) := by
  have hreconnect : Agree Twins (reconnect db) (reconnect db) :=
    (agree_ask _).catching fun _ => agree_report _
  have hagain : Agree Twins (pingAgain db) (pingAgain db) :=
    ((agree_ask _).bind fun _ => agree_pure true).catching fun _ =>
      (agree_report _).bind fun _ => agree_pure false
  refine ((agree_ask _).bind fun _ => agree_pure true).catching fun failure => ?_
  rw [recover]
  split
  · exact (agree_report _).bind fun _ => hreconnect.bind fun _ => hagain
  · exact hagain

/-! ### Tasks -/

variable (db : Database δ) (order : TaskOrder) (tick : Option Binary64)

theorem agree_querySamples (d : Definition) :
    Agree Twins (querySamples db d) (querySamples db d) := by
  refine (agree_part fun _ _ h => h.settings).bind fun settings => ?_
  refine (agree_ofExcept _).bind fun timeout => ?_
  refine (agree_ask _).bind fun rows => ?_
  exact (agree_report _).bind fun _ => agree_pure _

/-- A run without a tick and one with any tick differ in what is remembered about them. -/
theorem agree_runDue (d : Definition) : Agree Twins (runDue db none d) (runDue db tick d) := by
  refine (agree_querySamples db d).bind fun samples => ?_
  split
  · exact agree_fail _
  · cases tick with
    | none => exact agree_pure samples
    | some tick => exact fun _ _ h => ⟨rfl, h.withLedger (h.ledger.remember ..), rfl⟩

/-- **The step of a task.** Without a least interval, the task of a definition does the same without
a tick as with any tick. -/
theorem agree_task {d : Definition} (h : d.scrapeInterval = "") :
    Agree Twins (task db none d) (task db tick d) := by
  intro s t htwins
  by_cases hproblems : d.problems = []
  · rw [run_task_of_due hproblems (Definition.isDue_of_noInterval h ..),
      run_task_of_due hproblems (Definition.isDue_of_noInterval h ..)]
    exact agree_runDue db tick d s t htwins
  · rw [run_task_of_problems hproblems, run_task_of_problems hproblems]
    exact ⟨rfl, htwins, rfl⟩

theorem agree_runAll {ds : List Definition} (h : ∀ d ∈ ds, d.scrapeInterval = "") :
    Agree Twins (runAll db none ds) (runAll db tick ds) := by
  induction ds with
  | nil => exact agree_pure []
  | cons d rest ih =>
    rw [List.forall_mem_cons] at h
    refine (agree_task db tick h.1).attempt.bind fun result => ?_
    exact (ih h.2).bind fun outcomes => agree_pure _

/-! ### Cycles -/

theorem agree_expose (samples : List Sample) :
    Agree Twins (expose samples : ExporterAction δ (List Family)) (expose samples) :=
  (agree_ofExcept _).bind fun _ => (agree_report _).bind fun _ => agree_pure _

theorem agree_conclude (began : Binary64) (up : Bool) (outcomes : List Outcome) :
    Agree Twins (conclude db began up outcomes) (conclude db began up outcomes) := by
  intro s t h
  rw [run_conclude, run_conclude, h.clock, h.settings, h.database]
  have hledger := h.ledger.conclude (t.clock - began) up outcomes
  dsimp only
  rw [hledger.ownFamilies_eq]
  exact ⟨rfl, ⟨rfl, h.settings, h.files, h.database, h.store, hledger, h.onDemand, h.scheduled⟩,
    rfl⟩

variable {db order} {s t : Clocked (Exporter δ)}

/-- A refresh and the tasks agree if none of the tasks is that of a definition with a least
interval. -/
theorem agrees_gather (h : Twins s t)
    (hplain : (run refresh s).result = .ok () →
      ∀ d ∈ order.running (run refresh s).state.inner.store.definitions, d.scrapeInterval = "") :
    (run (gather db order none) s).Agrees Twins (run (gather db order tick) t) := by
  have hrefresh := agree_refresh s t h
  refine hrefresh.bind fun _ hdone => ?_
  -- from here on the store is the refreshed one, of which the tasks are
  refine (agree_part (fun _ _ h => h.store) _ _ hrefresh.state).bind fun store hstore => ?_
  obtain rfl := Except.ok.inj hstore
  refine (((agree_runAll db tick (hplain hdone)).map order.collecting).bind fun outcomes => ?_) _ _
    hrefresh.state
  exact (agree_expose _).bind fun families => agree_pure _

/-- **The step of a cycle.** A cycle without a tick and one with any tick agree if they run no
definition with a least interval. -/
theorem agrees_scrape (h : Twins s t) (hplain : ∀ d ∈ started db order s, d.scrapeInterval = "") :
    (run (scrape db order none) s).Agrees Twins (run (scrape db order tick) t) := by
  have hping : (pinged db s).Agrees Twins (pinged db t) :=
    agree_ping db _ _ (h.withLedger h.ledger.begin)
  have hactive : (pinged db s).result = .ok true → (refreshed db s).result = .ok () →
      ∀ d ∈ order.running (refreshed db s).state.inner.store.definitions,
        d.scrapeInterval = "" := by
    intro hup hrefresh
    rw [started, hup, hrefresh] at hplain
    exact hplain
  refine (agree_now s t h).bind fun began _ => ?_
  refine Ran.Agrees.bind ⟨rfl, h.withLedger h.ledger.begin, rfl⟩ fun _ _ => ?_
  refine hping.bind fun up hup => ?_
  -- a cycle that is down goes to its report at once, and one that is up after its tasks
  have hreport : ∀ gathered : List Outcome × List Family,
      Agree Twins (do let own ← conclude db began up gathered.1; pure (gathered.2 ++ own))
        (do let own ← conclude db began up gathered.1; pure (gathered.2 ++ own)) :=
    fun gathered => (agree_conclude db began up gathered.1).bind fun own => agree_pure _
  cases up with
  | false => exact hreport ([], []) _ _ hping.state
  | true =>
    have hgathered : (run (gather db order none) (pinged db s).state).Agrees Twins
        (run (gather db order tick) (pinged db t).state) :=
      agrees_gather tick hping.state (hactive hup)
    exact hgathered.bind fun gathered _ => hreport gathered _ _ hgathered.state

/-! ### Collections -/

/-- A collection on demand and a scheduled scrape have come to the same: they have failed in the
same way, or what the one gave is what every collection from the other gives next. Their exporters
are still twins. -/
structure InStep (db : Database δ)
    (demanded : Ran (Clocked (Exporter δ)) ExporterEvent (List Family))
    (stored : Ran (Clocked (Exporter δ)) ExporterEvent Nat) : Prop where
  result :
    match demanded.result with
    | .ok families => stored.result = .ok families.length ∧
        ∀ order, run (collect db order) stored.state = ⟨.ok families, stored.state, []⟩
    | .error failure => stored.result = .error failure
  state : Twins demanded.state stored.state
  events : demanded.events = stored.events

/-- **The step of a collection.** A collection on demand is in step with a scheduled scrape if no
definition with a least interval is run. -/
theorem inStep_collect (h : Twins s t) (hplain : ∀ d ∈ started db order s, d.scrapeInterval = "") :
    InStep db (run (collect db order) s) (run (scrapeIntoSnapshot db order tick) t) := by
  obtain ⟨hresult, htwins, hevents⟩ := agrees_scrape tick h hplain
  rw [run_collect_of_onDemand h.onDemand]
  cases hdemanded : (run (scrape db order none) s).result with
  | error failure =>
    rw [run_scrapeIntoSnapshot_of_error h.scheduled (hresult ▸ hdemanded)]
    refine ⟨?_, htwins, hevents⟩
    rw [hdemanded]
  | ok families =>
    rw [run_scrapeIntoSnapshot_of_ok h.scheduled (hresult ▸ hdemanded)]
    obtain ⟨snapshot, hsnapshot⟩ := Option.isSome_iff_exists.mp htwins.scheduled
    have hstored : (storing families (run (scrape db order tick) t).state).inner.snapshot =
        some (snapshot.replace families (run (scrape db order tick) t).state.clock) := by
      rw [storing, hsnapshot, Option.map_some]
    refine ⟨?_, ?_, hevents⟩
    · rw [hdemanded]
      exact ⟨rfl, fun order => run_collect_of_stored hstored⟩
    · exact ⟨htwins.clock, htwins.settings, htwins.files, htwins.database, htwins.store,
        htwins.ledger, htwins.onDemand, congrArg Option.isSome hstored⟩

variable (db)

/-- The exporter after collections on demand, one in every cycle. -/
def afterCollections : List Cycle → Clocked (Exporter δ) → Clocked (Exporter δ)
  | [], s => s
  | c :: rest, s => afterCollections rest (run (collect db c.order) (c.enter s)).state

/-- The exporter after scheduled scrapes, one in every cycle. Collections in between change nothing
about it. -/
def afterScheduled : List Cycle → Clocked (Exporter δ) → Clocked (Exporter δ)
  | [], t => t
  | c :: rest, t =>
    afterScheduled rest (run (scrapeIntoSnapshot db c.order c.tick) (c.enter t)).state

/-- No collection on demand in these cycles runs a definition with a least interval. -/
def RunsNoInterval : List Cycle → Clocked (Exporter δ) → Prop
  | [], _ => True
  | c :: rest, s =>
    (∀ d ∈ started db c.order (c.enter s), d.scrapeInterval = "") ∧
      RunsNoInterval rest (run (collect db c.order) (c.enter s)).state

instance decidableRunsNoInterval : ∀ (cycles : List Cycle) (s : Clocked (Exporter δ)),
    Decidable (RunsNoInterval db cycles s)
  | [], _ => .isTrue trivial
  | _ :: rest, _ => @instDecidableAnd _ _ _ (decidableRunsNoInterval rest _)

/-- **The two modes agree.** From twins, let the one be collected from on demand and the other be
scraped at any ticks in the same cycles, none of which runs a definition with a least interval. Then
in every cycle both fail in the same way, or both give the same families; and they stay twins. -/
theorem modes_agree (h : Twins s t) (past : List Cycle) (c : Cycle)
    (hplain : RunsNoInterval db (past ++ [c]) s) :
    InStep db (run (collect db c.order) (c.enter (afterCollections db past s)))
      (run (scrapeIntoSnapshot db c.order c.tick) (c.enter (afterScheduled db past t))) := by
  induction past generalizing s t with
  | nil => exact inStep_collect c.tick (h.enter c) hplain.1
  | cons first rest ih =>
    have hstep := inStep_collect first.tick (h.enter first) hplain.1
    exact ih hstep.state hplain.2

/-- A source with one definition of the given request, and an empty file for the defaults. -/
def sizeSource (request : String) : FileTree :=
  [(["defaults.toml"], .file []),
    (["a.toml"], .file (Text.encode ("[[metric]]\ncontext=\"size\"\nrequest=\"" ++ request ++
      "\"\nmetricsdesc=\x7bvalue=\"\"\x7d")))]

/-- A new exporter with this source, for a database that is down for one cycle. -/
def editedSource (scheduled : Bool) : Exporter Scripted.DatabaseState where
  database :=
    { rows := [("old", [[("value", "7")]]), ("new", [[("value", "8")]])]
      pingFailures := let down := some (.database .timedOut "too late"); [none, down, down] }
  store := { sources := ["a.toml"], defaults := some "defaults.toml", definitions := [] }
  snapshot := if scheduled then some {} else none

/-- A cycle in which the query is run, and one in which the database is down. -/
def beforeEdit : List Cycle :=
  [⟨sizeSource "old", 100, some 100, .inTurn⟩, ⟨sizeSource "old", 160, some 160, .inTurn⟩]

/-- A cycle that finds the source edited. -/
def afterEdit : Cycle := ⟨sizeSource "new", 220, some 220, .inTurn⟩

/-- When the source is edited, both exporters count three cycles and give the edited metric; the
scheduled one alone remembers its last run. -/
theorem modes_agree_editedSource :
    let s : Clocked (Exporter Scripted.DatabaseState) := ⟨0, editedSource false⟩
    let t : Clocked (Exporter Scripted.DatabaseState) := ⟨0, editedSource true⟩
    Twins s t ∧ RunsNoInterval Scripted.database (beforeEdit ++ [afterEdit]) s ∧
    InStep Scripted.database
      (run (collect Scripted.database afterEdit.order)
        (afterEdit.enter (afterCollections Scripted.database beforeEdit s)))
      (run (scrapeIntoSnapshot Scripted.database afterEdit.order afterEdit.tick)
        (afterEdit.enter (afterScheduled Scripted.database beforeEdit t))) ∧
    (afterCollections Scripted.database (beforeEdit ++ [afterEdit]) s).inner.ledger =
      { scrapes := 3, up := true } ∧
    (afterScheduled Scripted.database (beforeEdit ++ [afterEdit]) t).inner.ledger =
      { scrapes := 3, up := true, lastRun := [("size|new", 220)]
        lastSamples :=
          [("size|new", [{ name := "oracledb_size_value", kind := .gauge, value := 8 }])] } := by
  intro s t
  have hpositive : ¬ ({} : ScrapeSettings).queryTimeout ≤ 0 := by decide +kernel
  have htwins : Twins s t := twins_create 0 (if_neg hpositive) (if_neg hpositive)
  have hplain : RunsNoInterval Scripted.database (beforeEdit ++ [afterEdit]) s := by
    decide +kernel
  exact ⟨htwins, hplain, modes_agree Scripted.database htwins beforeEdit afterEdit hplain,
    by decide +kernel, by decide +kernel⟩

end Exporter

end QueryMetrics
