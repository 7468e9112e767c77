import Mathlib.Data.List.Basic
import QueryMetrics.Proofs.Scrape.History
import QueryMetrics.Proofs.Scrape.Reporting
import QueryMetrics.Scripted.Database

/-!
# The books of an exporter

An exporter counts its cycles and, for each context, the errors of its definitions. The counts
outlive the cycles, while failures belong to one cycle, and a cycle may fail after it was counted
and before its errors are.

The count of errors is compared with the log. `Exporter.completedLog` is what the completed cycles
of a run have logged, and a ledger keeps its books (`Ledger.Counts`) if under each context it has
the number of scrape errors that name this context, or nothing if there are none. Every cycle keeps
the books, however it ends (`Exporter.counts_cycle`), and hence so does every run
(`Exporter.counts_afterCycles`). What a completed cycle exposes about itself is then read off the
ledger.
-/

namespace QueryMetrics

open QueryMetrics.Action

/-! ### Counts -/

namespace Ledger

/-- Under each context the ledger has this count; a context without errors does not appear. -/
structure Counts (ledger : Ledger) (count : String → Nat) : Prop where
  distinct : ledger.errors.keys.Nodup
  errors : ∀ context, ledger.errors.find? context =
    if count context = 0 then none else some (count context)

theorem counts_empty : ({} : Ledger).Counts fun _ => 0 := ⟨List.nodup_nil, fun _ => rfl⟩

/-- One more error of a context is one more on its count. -/
theorem Counts.countError {ledger : Ledger} {count : String → Nat} (h : ledger.Counts count)
    (context : String) :
    (ledger.countError context).Counts fun other => count other + [context].count other := by
  refine ⟨Entries.nodup_keys_put h.distinct .., fun other => ?_⟩
  have hcount : (ledger.errors.find? context).getD 0 = count context := by
    rw [h.errors]
    split <;> simp_all
  rw [Ledger.countError, hcount]
  by_cases hother : other = context
  · subst hother
    rw [Entries.find?_put_self]
    simp
  · rw [Entries.find?_put_of_ne hother, h.errors]
    simp [Ne.symm hother]

theorem Counts.countErrors {ledger : Ledger} {count : String → Nat} (h : ledger.Counts count)
    (contexts : List String) :
    (ledger.countErrors contexts).Counts fun other => count other + contexts.count other := by
  induction contexts generalizing ledger count with
  | nil => exact h
  | cons context rest ih =>
    have hrest := ih (h.countError context)
    have hsum : ∀ other, count other + [context].count other + rest.count other =
        count other + (context :: rest).count other := by
      intro other
      rw [show context :: rest = [context] ++ rest from rfl, List.count_append, Nat.add_assoc]
    simp only [hsum] at hrest
    exact hrest

/-- Other changes of a ledger keep the counts. -/
theorem Counts.congr {first second : Ledger} {count : String → Nat} (h : first.Counts count)
    (herrors : second.errors = first.errors) : second.Counts count :=
  ⟨herrors ▸ h.distinct, herrors ▸ h.errors⟩

/-- The contexts of a ledger are those with errors. -/
theorem Counts.mem_keys_iff {ledger : Ledger} {count : String → Nat} (h : ledger.Counts count)
    {context : String} : context ∈ ledger.errors.keys ↔ 0 < count context := by
  rw [Entries.mem_keys_iff, h.errors]
  split
  · simp_all
  · simp
    omega

/-- Every entry of a ledger has the count of its context. -/
theorem Counts.map_errors {α : Type} {ledger : Ledger} {count : String → Nat}
    (h : ledger.Counts count) (f : String → Nat → α) :
    ledger.errors.map (fun entry => f entry.1 entry.2) =
      ledger.errors.keys.map fun context => f context (count context) := by
  rw [Entries.keys, List.map_map]
  refine List.map_congr_left fun entry hentry => ?_
  have hread := Entries.find?_of_mem h.distinct hentry
  rw [h.errors] at hread
  split at hread
  · cases hread
  · rw [Function.comp_apply, Option.some.inj hread]

theorem forgetAllBut_errors (ledger : Ledger) (fresh : Option (List Definition)) :
    (ledger.forgetAllBut fresh).errors = ledger.errors ∧
      (ledger.forgetAllBut fresh).scrapes = ledger.scrapes := by
  cases fresh <;> exact ⟨rfl, rfl⟩

theorem scrapes_countErrors (ledger : Ledger) (contexts : List String) :
    (ledger.countErrors contexts).scrapes = ledger.scrapes := by
  induction contexts generalizing ledger with
  | nil => rfl
  | cons context rest ih => exact ih (ledger.countError context)

end Ledger

namespace Exporter

variable {δ : Type} (db : Database δ)

/-! ### The step of a cycle -/

/-- Up to its report, a cycle counts itself and no errors. -/
theorem books_afterTasks (order : TaskOrder) (tick : Option Binary64) (s : Clocked (Exporter δ)) :
    let before := (afterTasks db tick (started db order s) (prepared db s)).inner.ledger
    before.scrapes = s.inner.ledger.scrapes + 1 ∧ before.errors = s.inner.ledger.errors := by
  intro before
  have htasks := (undisturbed_afterTasks db tick (started db order s) (prepared db s)).ledger
  rw [ledger_prepared] at htasks
  obtain ⟨herrors, hscrapes⟩ := s.inner.ledger.begin.forgetAllBut_errors (loaded? db s)
  have hbefore : before = _ := htasks
  constructor
  · rw [hbefore]
    exact hscrapes
  · rw [hbefore]
    exact herrors

/-- What a cycle logs. -/
def cycleLog (c : Cycle) (s : Clocked (Exporter δ)) : List Log.Record :=
  (run (scrape db c.order c.tick) (c.enter s)).events.map ExporterEvent.record

/-- What a cycle logs, if it completes. -/
def logIfCompleted (c : Cycle) (s : Clocked (Exporter δ)) : List Log.Record :=
  if (run (scrape db c.order c.tick) (c.enter s)).result.isOk then cycleLog db c s else []

/-- What the completed ones among cycles log. -/
def completedLog : List Cycle → Clocked (Exporter δ) → List Log.Record
  | [], _ => []
  | c :: rest, s => logIfCompleted db c s ++ completedLog rest (afterCycle db c s)

/-- The scrape errors of a cycle that completes are those of its report. -/
theorem scrapeErrors_cycleLog {c : Cycle} {s : Clocked (Exporter δ)} {outcomes : List Outcome}
    (h : (run (scrape db c.order c.tick) (c.enter s)).events.filter ExporterEvent.isTaskFailure =
      outcomes.filterMap Outcome.event?) (context : String) :
    scrapeErrors context (cycleLog db c s) = (Outcome.reportedContexts outcomes).count context := by
  rw [← Outcome.scrapeErrors_report, ← h, ← filter_isScrapeError, scrapeErrors, scrapeErrors,
    List.countP_filter]
  refine List.countP_congr fun record _ => ?_
  cases record.isScrapeError <;> simp

/-- **The step of a cycle.** However a cycle ends, it counts itself, and it counts the errors that
it logs if it completes. -/
theorem counts_cycle (c : Cycle) {s : Clocked (Exporter δ)} {count : String → Nat}
    (h : s.inner.ledger.Counts count) :
    (afterCycle db c s).inner.ledger.scrapes = s.inner.ledger.scrapes + 1 ∧
      (afterCycle db c s).inner.ledger.Counts fun context =>
        count context + scrapeErrors context (logIfCompleted db c s) := by
  obtain ⟨hscrapes, herrors⟩ := books_afterTasks db c.order c.tick (c.enter s)
  obtain ⟨failure, hfailure, hledger⟩ | ⟨exposed, up, outcomes, duration, -, -, -, hresult, hledger,
      hevents⟩ := scrape_ends db c.order c.tick (c.enter s)
  · have hnone : logIfCompleted db c s = [] := by
      rw [logIfCompleted, hfailure]
      rfl
    rw [afterCycle, hledger, hnone]
    exact ⟨hscrapes, h.congr herrors⟩
  · have hlog : logIfCompleted db c s = cycleLog db c s := by
      rw [logIfCompleted, hresult]
      rfl
    rw [afterCycle, hledger, hlog]
    simp only [scrapeErrors_cycleLog db hevents]
    refine ⟨(Ledger.scrapes_countErrors ..).trans hscrapes, ?_⟩
    exact ((h.congr herrors).countErrors _).congr rfl

/-! ### Runs of cycles -/

/-- Every run of cycles counts its cycles, and the errors that the completed ones log. -/
theorem counts_afterCycles (cycles : List Cycle) {s : Clocked (Exporter δ)} {count : String → Nat}
    (h : s.inner.ledger.Counts count) :
    (afterCycles db cycles s).inner.ledger.scrapes = s.inner.ledger.scrapes + cycles.length ∧
      (afterCycles db cycles s).inner.ledger.Counts fun context =>
        count context + scrapeErrors context (completedLog db cycles s) := by
  induction cycles generalizing s count with
  | nil => exact ⟨rfl, h⟩
  | cons c rest ih =>
    obtain ⟨hscrapes, hcounts⟩ := counts_cycle db c h
    obtain ⟨hrest, hcounted⟩ := ih hcounts
    refine ⟨?_, ?_⟩
    · rw [afterCycles, hrest, hscrapes, List.length_cons]
      omega
    · simp only [Nat.add_assoc, ← scrapeErrors_append] at hcounted
      exact hcounted

/-- No run of cycles changes the settings. -/
theorem settings_afterCycles (cycles : List Cycle) (s : Clocked (Exporter δ)) :
    (afterCycles db cycles s).inner.settings = s.inner.settings := by
  induction cycles generalizing s with
  | nil => rfl
  | cons c rest ih => exact (ih _).trans (settings_scrape db c.order c.tick (c.enter s))

/-- The books of a new exporter. -/
theorem counts_of_new {new : Clocked (Exporter δ)} (hnew : new.inner.ledger = {})
    (cycles : List Cycle) :
    (afterCycles db cycles new).inner.ledger.scrapes = cycles.length ∧
      (afterCycles db cycles new).inner.ledger.Counts fun context =>
        scrapeErrors context (completedLog db cycles new) := by
  obtain ⟨hscrapes, hcounts⟩ :=
    counts_afterCycles db cycles (s := new) (hnew ▸ Ledger.counts_empty)
  simp only [Nat.zero_add] at hcounts
  refine ⟨?_, hcounts⟩
  rw [hscrapes, hnew]
  exact Nat.zero_add _

/-! ### What a completed cycle says -/

variable {db}

/-- Unless the database claims that queries gave no usable rows, a cycle reports all of its failed
tasks. -/
theorem report_collected {order : TaskOrder} {tick : Option Binary64} {s : Clocked (Exporter δ)}
    (horder : order.Lawful)
    (hclaims : ∀ r ∈ cycleRuns db order tick s, ∀ exchange ∈ r.exchanges,
      exchange.claimsZeroResult = false) :
    ((collected db order tick s).filterMap Outcome.event?).map ExporterEvent.record =
      (collected db order tick s).filterMap Outcome.failureRecord? := by
  rw [List.map_filterMap]
  refine List.filterMap_congr fun outcome houtcome => ?_
  have hmem := (collected_perm_cycleRuns db horder tick s).mem_iff.mp houtcome
  obtain ⟨r, hr, rfl⟩ := List.mem_map.mp hmem
  obtain ⟨turn, -, hturn⟩ := exists_of_mem_taskRuns hr
  have hreported : r.outcome.reported? = r.outcome.failure? := by
    have hnone := hclaims r hr
    rw [hturn] at hnone ⊢
    exact reported?_taskRun hnone
  rw [Outcome.event?, hreported, Outcome.failureRecord?, Option.map_map]
  rfl

/-- A cycle collects one outcome of each task that it starts. -/
theorem definitions_collected (db : Database δ) {order : TaskOrder} (tick : Option Binary64)
    (s : Clocked (Exporter δ)) (horder : order.Lawful) :
    ((collected db order tick s).map Outcome.definition).Perm (started db order s) :=
  ((horder.collecting _).map _).trans (by rw [map_definition_outcomes])

/-- The exporter's own families: their names, and their points in terms of the counts. -/
theorem ownFamilies_of_counts {ledger : Ledger} {count : String → Nat} (h : ledger.Counts count)
    (ns : String) (dbtype : Int) :
    let name (parts : List String) : String := qualifiedName (ns :: parts)
    (ledger.ownFamilies ns dbtype).map Family.name =
      [name ["exporter", "last_scrape_duration_seconds"], name ["exporter", "scrapes"],
        name ["exporter", "last_scrape_error"], name ["exporter", "scrape_errors"], name ["up"],
        name ["dbtype"]] ∧
    (ledger.ownFamilies ns dbtype).map Family.points =
      [[⟨name ["exporter", "last_scrape_duration_seconds"], [], .measured ledger.lastDuration⟩],
        [⟨name ["exporter", "scrapes"] ++ "_total", [], .counted ledger.scrapes⟩],
        [⟨name ["exporter", "last_scrape_error"], [], flag ledger.lastError⟩],
        ledger.errors.keys.map fun context =>
          ⟨name ["exporter", "scrape_errors"] ++ "_total", [("collector", context)],
            .counted (count context)⟩,
        [⟨name ["up"], [], flag ledger.up⟩],
        [⟨name ["dbtype"], [], .counted dbtype⟩]] := by
  refine ⟨rfl, ?_⟩
  have herrors := h.map_errors fun context number => (⟨qualifiedName [ns, "exporter",
    "scrape_errors"] ++ "_total", [("collector", context)], .counted number⟩ : Point)
  rw [Ledger.ownFamilies]
  simp only [List.map_cons, List.map_nil, ownGauge, ownCounter, List.map_map]
  rw [← herrors]
  rfl

/-- **The books balance.** After any cycles of a new exporter, completed or not, let a cycle
complete. Its families end with the exporter's own six, and are only these if the database is down.
They say how many cycles were started, and for each context how many scrape errors the completed
cycles have logged; a context without any has no point. The cycle has logged one scrape error for
each task that failed, and no other; its tasks are those of the active definitions, each once. It
has an error exactly if the database is down or a scrape error was logged. -/
theorem scrape_balances {new : Clocked (Exporter δ)} (hnew : new.inner.ledger = {})
    (past : List Cycle) (c : Cycle) {families : List Family}
    (hfamilies : (run (scrape db c.order c.tick) (c.enter (afterCycles db past new))).result =
      .ok families)
    (horder : c.order.Lawful)
    (hclaims : ∀ r ∈ cycleRuns db c.order c.tick (c.enter (afterCycles db past new)),
      ∀ exchange ∈ r.exchanges, exchange.claimsZeroResult = false) :
    let s := c.enter (afterCycles db past new)
    let after := (afterCycles db (past ++ [c]) new).inner
    let own := after.ledger.ownFamilies new.inner.settings.ns (db.dbtype after.database)
    let name (parts : List String) : String := qualifiedName (new.inner.settings.ns :: parts)
    let logged := completedLog db (past ++ [c]) new
    let errors := (cycleLog db c (afterCycles db past new)).filter (·.isScrapeError)
    (∃ exposed, families = exposed ++ own ∧ (after.ledger.up = false → exposed = [])) ∧
    own.map Family.name =
      [name ["exporter", "last_scrape_duration_seconds"], name ["exporter", "scrapes"],
        name ["exporter", "last_scrape_error"], name ["exporter", "scrape_errors"], name ["up"],
        name ["dbtype"]] ∧
    own.map Family.points =
      [[⟨name ["exporter", "last_scrape_duration_seconds"], [],
          .measured after.ledger.lastDuration⟩],
        [⟨name ["exporter", "scrapes"] ++ "_total", [], .counted (past.length + 1)⟩],
        [⟨name ["exporter", "last_scrape_error"], [], flag after.ledger.lastError⟩],
        after.ledger.errors.keys.map fun context =>
          ⟨name ["exporter", "scrape_errors"] ++ "_total", [("collector", context)],
            .counted (scrapeErrors context logged)⟩,
        [⟨name ["up"], [], flag after.ledger.up⟩],
        [⟨name ["dbtype"], [], .counted (db.dbtype after.database)⟩]] ∧
    (after.ledger.errors.keys.Nodup ∧
      ∀ context, context ∈ after.ledger.errors.keys ↔ 0 < scrapeErrors context logged) ∧
    (errors = (collected db c.order c.tick s).filterMap Outcome.failureRecord? ∧
      ((collected db c.order c.tick s).map Outcome.definition).Perm
        (if after.ledger.up then published s else [])) ∧
    (after.ledger.up = true ↔ (pinged db s).result = .ok true) ∧
    (after.ledger.lastError = true ↔ after.ledger.up = false ∨ errors ≠ []) := by
  intro s after own name logged errors
  obtain ⟨hscrapes, hcounts⟩ := counts_of_new db hnew (past ++ [c])
  have hafter : after = (run (scrape db c.order c.tick) s).state.inner :=
    congrArg Clocked.inner (afterCycles_concat db past c new)
  have hns : s.inner.settings = new.inner.settings := settings_afterCycles db past new
  obtain ⟨hnames, hpoints⟩ :=
    ownFamilies_of_counts hcounts new.inner.settings.ns (db.dbtype after.database)
  obtain ⟨failure, hfailure, -⟩ | ⟨exposed, up, outcomes, duration, hping, hdown, hisUp, hresult,
      hledger, hevents⟩ := scrape_ends db c.order c.tick s
  · cases hfamilies.symm.trans hfailure
  rw [← hafter] at hresult hledger
  have hup : after.ledger.up = up := by
    rw [hledger]
    rfl
  have houtcomes : outcomes = collected db c.order c.tick s := by
    cases up with
    | true => exact (hisUp rfl).2
    | false =>
      have hnone : started db c.order s = [] := by rw [started, hping]
      rw [(hdown rfl).2, collected, hnone]
      exact (horder.collecting []).eq_nil.symm
  have herrors : errors = (outcomes.filterMap Outcome.event?).map ExporterEvent.record := by
    rw [← hevents]
    exact filter_isScrapeError _
  refine ⟨⟨exposed, ?_, ?_⟩, hnames, ?_, ⟨hcounts.distinct, fun _ => hcounts.mem_keys_iff⟩,
    ⟨?_, ?_⟩, ?_, ?_⟩
  · rw [hns] at hresult
    exact Except.ok.inj (hfamilies.symm.trans hresult)
  · intro hnot
    exact (hdown (hup.symm.trans hnot)).1
  · rw [hpoints, hscrapes, List.length_append]
    rfl
  · rw [herrors, houtcomes]
    exact report_collected horder hclaims
  · refine (definitions_collected db c.tick s horder).trans ?_
    cases up with
    | true =>
      rw [hup, started_of_refreshed hping (hisUp rfl).1]
      exact horder.running _
    | false =>
      rw [hup, started, hping]
      exact .refl _
  · rw [hup, hping]
    cases up <;> simp
  · rw [hup, hledger, herrors]
    change (!up || !(Outcome.reportedContexts outcomes).isEmpty) = true ↔ _
    simp [Outcome.reportedContexts_eq_nil_iff]

/-- An exporter with two definitions of one context, whose queries fail and have no rows, and one
whose query is answered. In its third cycle the database does not answer. -/
def twoFailures : Exporter Scripted.DatabaseState where
  database :=
    { rows := [("select 1", [[("value", "1")]])]
      failures := [("select 2", .database .other "gone")]
      pingFailures :=
        [none, none, some (.database .other "gone"), some (.database .other "gone")] }
  store :=
    { sources := ["source.toml"], defaults := none
      definitions :=
        [{ context := "answered", helps := [("value", "")], request := "select 1" },
          { context := "failing", helps := [("value", "")], request := "select 2" },
          { context := "failing", helps := [("value", "")], request := "select 3" }] }

/-- A cycle on demand, with these files. -/
def cycleWith (files : FileTree) : Cycle := ⟨files, 0, none, .inTurn⟩

/-- Files with a source that is no document. -/
def brokenSource : FileTree := [(["source.toml"], .file (Text.encode "metric = ["))]

/-- One cycle completes, one fails when it finds a broken source, and one completes without the
database. -/
def mixedCycles : List Cycle := [cycleWith [], cycleWith brokenSource, cycleWith brokenSource]

/-- Of four cycles, two have counted errors, two each. -/
theorem scrape_balances_mixedCycles :
    let s := (cycleWith []).enter (afterCycles Scripted.database mixedCycles ⟨0, twoFailures⟩)
    let after :=
      (afterCycles Scripted.database (mixedCycles ++ [cycleWith []]) ⟨0, twoFailures⟩).inner
    let logged :=
      completedLog Scripted.database (mixedCycles ++ [cycleWith []]) ⟨0, twoFailures⟩
    twoFailures.ledger = {} ∧ TaskOrder.inTurn.Lawful ∧
    (∀ r ∈ cycleRuns Scripted.database .inTurn none s, ∀ exchange ∈ r.exchanges,
      exchange.claimsZeroResult = false) ∧
    (∃ exposed, (run (scrape Scripted.database .inTurn none) s).result = .ok (exposed ++
      after.ledger.ownFamilies "oracledb" (Scripted.database.dbtype after.database))) ∧
    after.ledger.errors = [("failing", 4)] ∧
    (∀ context, context ∈ after.ledger.errors.keys ↔ 0 < scrapeErrors context logged) ∧
    after.ledger.scrapes = 4 ∧ after.ledger.lastError = true := by
  intro s after logged
  have hnew : (⟨0, twoFailures⟩ : Clocked (Exporter Scripted.DatabaseState)).inner.ledger = {} := rfl
  have hclaims : ∀ r ∈ cycleRuns Scripted.database .inTurn none s, ∀ exchange ∈ r.exchanges,
      exchange.claimsZeroResult = false := by
    decide +kernel
  have hdone : (run (scrape Scripted.database .inTurn none) s).result.isOk = true := by
    decide +kernel
  obtain ⟨families, hfamilies⟩ := exists_of_isOk hdone
  obtain ⟨⟨exposed, hexposed, -⟩, -, -, ⟨-, hcontexts⟩, -, -, -⟩ :=
    scrape_balances hnew mixedCycles (cycleWith []) hfamilies TaskOrder.lawful_inTurn hclaims
  rw [hexposed] at hfamilies
  exact ⟨rfl, TaskOrder.lawful_inTurn, hclaims, ⟨exposed, hfamilies⟩, by decide +kernel, hcontexts,
    by decide +kernel, by decide +kernel⟩

end Exporter

end QueryMetrics
