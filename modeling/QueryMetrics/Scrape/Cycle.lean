import QueryMetrics.Connection.Query
import QueryMetrics.Definition.Store
import QueryMetrics.Metric.Report
import QueryMetrics.Scrape.OwnMetrics
import QueryMetrics.Snapshot

/-!
# Scrape cycles

A cycle asks every active definition for samples and exposes them.

* **Ping.** The database is pinged first. When the session turns out to be closed, the exporter
  reconnects; after any failed ping the database is pinged once more. A cycle whose last ping
  fails only exposes the exporter's own metrics.
* **Refresh.** Definitions are loaded anew if a source changed. A failure here ends the cycle.
* **Tasks.** Every definition is run on its own: its problems are looked at first, then whether it
  is due, then its query is run. A definition that is not due gives the samples of its last
  successful scheduled run. Whatever happens to one definition, the others go on.
* **Report.** Failed tasks are reported and counted. A query without usable rows is no error for
  a definition that ignores it.

Queries run one at a time, but tasks may run and end in any order; see `TaskOrder`.
-/

namespace QueryMetrics

/-! ### State and events -/

/-- How the exporter scrapes. -/
structure ScrapeSettings where
  /-- The time allowed for queries of definitions that do not say. -/
  queryTimeout : Binary64 := 5
  /-- The first part of all metric names. -/
  ns : String := "oracledb"
  deriving DecidableEq

/-- The exporter with a database of states `δ`. -/
structure Exporter (δ : Type) where
  settings : ScrapeSettings := {}
  files : FileTree := []
  database : δ
  store : DefinitionStore
  ledger : Ledger := {}
  /-- The last scheduled result; exporters that scrape on demand have none. -/
  snapshot : Option (Snapshot Family) := none

/-- An exporter that has not scraped yet, for a store and a database. -/
def Exporter.create {δ : Type} (settings : ScrapeSettings) (files : FileTree)
    (store : DefinitionStore) (database : δ) (scheduled : Bool) :
    Except BadArgument (Exporter δ) :=
  if settings.queryTimeout ≤ 0 then .error .nonpositiveTimeout
  else .ok { settings, files, database, store, snapshot := if scheduled then some {} else none }

/-- What the exporter reports. -/
inductive ExporterEvent where
  | row (notice : RowNotice)
  | family (fault : FamilyFault)
  | store (event : StoreEvent)
  | connection (event : ConnectionEvent)
  | sessionClosed (failure : Failure)
  | reconnectFailed (failure : Failure)
  | pingFailed (failure : Failure)
  | definitionFailed (context : String) (columns : List String) (failure : Failure)
  /-- The exporter is ready to be collected from, scheduled or not. -/
  | registered (scheduled : Bool)
  deriving DecidableEq

/-- The event as a log record. -/
def ExporterEvent.record : ExporterEvent → Log.Record
  | row notice => notice.record
  | family fault => fault.record
  | store event => event.record
  | connection event => event.record
  | sessionClosed failure =>
    ⟨.info, "Database session closed, reconnecting", [("error", .text failure.message)], false⟩
  | reconnectFailed _ => ⟨.error, "Error reconnecting to database", [], true⟩
  | pingFailed _ => ⟨.error, "Error pinging database", [], true⟩
  | definitionFailed context columns failure =>
    ⟨.error, "Error scraping metric",
      [("context", .text context), ("metrics_desc", .array (columns.map .text)),
       ("error", .text failure.message), ("error_type", .text failure.typeName)],
      !failure.isExpected⟩
  | registered scheduled =>
    ⟨.info, "Registered collector",
      [("collector", .text "oracledb"), ("scheduled", .boolean scheduled)], false⟩

/-- An action of an exporter with a database of states `δ`. -/
abbrev ExporterAction (δ : Type) := Action (Clocked (Exporter δ)) ExporterEvent

/-- The end of the task of a definition. -/
structure Outcome where
  definition : Definition
  result : Except Failure (List Sample)

/-- The order in which the tasks of a cycle run, and the order in which their outcomes are
collected. -/
structure TaskOrder where
  running : List Definition → List Definition
  collecting : List Outcome → List Outcome

/-- Tasks run in the order of the definitions, and their outcomes are collected in that order. -/
def TaskOrder.inTurn : TaskOrder := ⟨id, id⟩

namespace Exporter

variable {δ α : Type}

/-! ### Parts of an exporter -/

/-- The clock. -/
def now : ExporterAction δ Binary64 := Action.gets (·.clock)

/-- A part of the exporter. -/
def part (of : Exporter δ → α) : ExporterAction δ α := Action.gets fun state => of state.inner

/-- Changes the exporter. -/
def update (change : Exporter δ → Exporter δ) : ExporterAction δ Unit :=
  Action.modify fun state => { state with inner := change state.inner }

/-- Changes what outlives the cycle. -/
def takeDown (change : Ledger → Ledger) : ExporterAction δ Unit :=
  update fun exporter => { exporter with ledger := change exporter.ledger }

/-- An action of the database. -/
def ask (action : Action (Clocked δ) ConnectionEvent α) : ExporterAction δ α :=
  action.on (fun state => ⟨state.clock, state.inner.database⟩)
    (fun state ran => ⟨ran.clock, { state.inner with database := ran.inner }⟩)
    ExporterEvent.connection

/-- Loads the definitions anew if a source changed, and forgets the runs of definitions that are
gone. -/
def refresh : ExporterAction δ Unit := do
  let files ← part (·.files)
  let loaded ← (DefinitionStore.refresh files).on
    (fun (state : Clocked (Exporter δ)) => state.inner.store)
    (fun state store => { state with inner := { state.inner with store } })
    ExporterEvent.store
  if loaded then
    let store ← part (·.store)
    takeDown (·.forgetRemoved store.definitions)

/-! ### Ping -/

/-- Reconnects; that the database cannot be reached is reported. -/
def reconnect (db : Database δ) : ExporterAction δ Unit :=
  (ask db.reconnect).catching Failure.isDatabase fun failure =>
    Action.report [.reconnectFailed failure]

/-- The second ping; that the database cannot be reached is reported. -/
def pingAgain (db : Database δ) : ExporterAction δ Bool :=
  Action.catching Failure.isDatabase
    (fun failure => do
      Action.report [.pingFailed failure]
      pure false) do
    ask db.ping
    pure true

/-- What follows a failed ping. -/
def recover (db : Database δ) (failure : Failure) : ExporterAction δ Bool := do
  if failure.isSessionClosed then
    Action.report [.sessionClosed failure]
    reconnect db
  pingAgain db

/-- Whether the database answers, after a reconnection if need be. -/
def ping (db : Database δ) : ExporterAction δ Bool :=
  Action.catching Failure.isDatabase (recover db) do
    ask db.ping
    pure true

/-! ### Tasks -/

/-- Runs the query of a definition and turns its rows into samples. -/
def querySamples (db : Database δ) (d : Definition) : ExporterAction δ (List Sample) := do
  let settings ← part (·.settings)
  let timeout ← Action.ofExcept ((d.timeout settings.queryTimeout).mapError .duration)
  let rows ← ask (db.query d.request timeout)
  Action.report ((rows.flatMap (d.notices settings.ns)).map .row)
  pure (rows.flatMap (d.samples settings.ns))

/-- Runs a definition that is due. -/
def runDue (db : Database δ) (tick : Option Binary64) (d : Definition) :
    ExporterAction δ (List Sample) := do
  let samples ← querySamples db d
  if samples.isEmpty ∧ !d.ignoreZeroResult then Action.fail (.zeroResult d.context)
  else
    match tick with
    | some tick => takeDown (·.remember d.identity tick samples)
    | none => pure ()
    pure samples

/-- The samples of a definition: from its query if it is due, otherwise those of its last run. -/
def task (db : Database δ) (tick : Option Binary64) (d : Definition) :
    ExporterAction δ (List Sample) := do
  if d.problems ≠ [] then Action.fail (.unusable d.problems)
  else
    let ledger ← part (·.ledger)
    let due ← Action.ofExcept ((ledger.isDue d tick).mapError .duration)
    if due then runDue db tick d else pure (ledger.samplesOf d.identity)

/-- The outcomes of the tasks of definitions, which run one after another. -/
def runAll (db : Database δ) (tick : Option Binary64) :
    List Definition → ExporterAction δ (List Outcome)
  | [] => pure []
  | d :: rest => do
    let result ← (task db tick d).attempt
    let outcomes ← runAll db tick rest
    pure (⟨d, result⟩ :: outcomes)

end Exporter

/-! ### Outcomes -/

namespace Outcome

/-- The samples of a task; a failed task has none. -/
def samples (outcome : Outcome) : List Sample :=
  match outcome.result with
  | .ok samples => samples
  | .error _ => []

/-- The failure of a task that is to be reported. Definitions may ignore that their query gave
no usable rows. -/
def reported? (outcome : Outcome) : Option Failure :=
  match outcome.result with
  | .ok _ => none
  | .error (.zeroResult context) =>
    if outcome.definition.ignoreZeroResult then none else some (.zeroResult context)
  | .error failure => some failure

/-- The report about a task, if there is one. -/
def event? (outcome : Outcome) : Option ExporterEvent :=
  outcome.reported?.map
    (.definitionFailed outcome.definition.context outcome.definition.helps.keys)

/-- The contexts of the tasks that are reported. -/
def reportedContexts (outcomes : List Outcome) : List String :=
  (outcomes.filter fun outcome => outcome.reported?.isSome).map fun outcome =>
    outcome.definition.context

end Outcome

namespace Exporter

variable {δ : Type}

/-! ### Cycles -/

/-- The families of samples. -/
def expose (samples : List Sample) : ExporterAction δ (List Family) := do
  let grouping ← Action.ofExcept ((Grouping.ofSamples samples).mapError .labels)
  Action.report (grouping.notices.map .family)
  pure grouping.families

/-- Refreshes the definitions and runs all of them. -/
def gather (db : Database δ) (order : TaskOrder) (tick : Option Binary64) :
    ExporterAction δ (List Outcome × List Family) := do
  refresh
  let store ← part (·.store)
  let outcomes ← order.collecting <$> runAll db tick (order.running store.definitions)
  let families ← expose (outcomes.flatMap Outcome.samples)
  pure (outcomes, families)

/-- Reports the outcomes of a cycle and gives the exporter's own families. -/
def conclude (db : Database δ) (started : Binary64) (up : Bool) (outcomes : List Outcome) :
    ExporterAction δ (List Family) := do
  let ended ← now
  Action.report (outcomes.filterMap Outcome.event?)
  let contexts := Outcome.reportedContexts outcomes
  takeDown fun ledger =>
    (ledger.countErrors contexts).finish (ended - started) (!up || !contexts.isEmpty) up
  let exporter ← part id
  pure (exporter.ledger.ownFamilies exporter.settings.ns (db.dbtype exporter.database))

/-- One scrape cycle. Scheduled cycles have a tick, and only they heed the least intervals of
definitions. -/
def scrape (db : Database δ) (order : TaskOrder) (tick : Option Binary64) :
    ExporterAction δ (List Family) := do
  let started ← now
  takeDown (·.begin)
  let up ← ping db
  let (outcomes, families) ← if up then gather db order tick else pure ([], [])
  let own ← conclude db started up outcomes
  pure (families ++ own)

end Exporter

end QueryMetrics
