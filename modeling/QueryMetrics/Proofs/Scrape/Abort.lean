import QueryMetrics.Proofs.Definition.Refresh
import QueryMetrics.Proofs.Scrape.Accounting
import QueryMetrics.Proofs.Scrape.Exchanges
import QueryMetrics.Proofs.Scrape.Uses

/-!
# Cycles that fail

A cycle can fail while it makes contact with its database, and while it refreshes the definitions
(`Exporter.aborted_cases`). From there on nothing fails: the samples of a cycle can always be
grouped, as everything that is remembered is fully labelled.

So a cycle that fails has asked no query, and all that it leaves behind is that it was counted
(`Exporter.unchanged_of_aborted`).
-/

namespace QueryMetrics

open QueryMetrics.Action

namespace Exporter

variable {δ : Type} (db : Database δ)

/-- **Where a cycle fails.** It fails as its contact with the database does, or as its refresh. -/
theorem aborted_cases {order : TaskOrder} {tick : Option Binary64} {s : Clocked (Exporter δ)}
    {failure : Failure} (hlabelled : s.inner.ledger.FullyLabelled) (horder : order.Lawful)
    (hfailure : (run (scrape db order tick) s).result = .error failure) :
    ((pinged db s).result = .error failure ∧
      (run (scrape db order tick) s).state = (pinged db s).state) ∨
    ((pinged db s).result = .ok true ∧ (refreshed db s).result = .error failure ∧
      (run (scrape db order tick) s).state = (refreshed db s).state) := by
  cases hping : (pinged db s).result with
  | error other =>
    rw [run_scrape_of_ping_error hping] at hfailure ⊢
    exact .inl ⟨congrArg _ (Except.error.inj hfailure), rfl⟩
  | ok up =>
    cases up with
    | false =>
      rw [run_scrape_of_down hping, run_conclude] at hfailure
      cases hfailure
    | true =>
      cases hrefresh : (refreshed db s).result with
      | error other =>
        rw [run_scrape_of_refresh_error hping hrefresh] at hfailure ⊢
        exact .inr ⟨rfl, congrArg _ (Except.error.inj hfailure), rfl⟩
      | ok _ =>
        obtain ⟨grouping, hgrouping⟩ := exists_grouping db tick hlabelled horder
        rw [result_scrape_of_grouping hping hrefresh hgrouping] at hfailure
        cases hfailure

/-- A cycle whose refresh fails has kept its definitions, and has forgotten nothing. -/
theorem inner_refreshed_of_error {s : Clocked (Exporter δ)} {failure : Failure}
    (h : (refreshed db s).result = .error failure) :
    (refreshed db s).state.inner.store.definitions = s.inner.store.definitions ∧
      (refreshed db s).state.inner.ledger = s.inner.ledger.begin ∧
      (refreshed db s).state.inner.snapshot = s.inner.snapshot := by
  have hstore : (run (DefinitionStore.refresh s.inner.files) s.inner.store).result =
      .error failure := by
    rw [refreshed, run_refresh, inner_pinged] at h
    dsimp only [begun] at h
    cases hresult : (run (DefinitionStore.refresh s.inner.files) s.inner.store).result with
    | error other =>
      rw [hresult] at h
      exact congrArg _ (Except.error.inj h)
    | ok loaded =>
      rw [hresult] at h
      cases h
  rw [inner_refreshed]
  refine ⟨DefinitionStore.definitions_refresh_of_not_loaded (by simp [hstore]), ?_, rfl⟩
  dsimp only
  rw [DefinitionStore.freshSet?, hstore]
  rfl

/-- Without tasks, a cycle exchanges what it does while it makes contact. -/
theorem isQuery_of_mem_cycleExchanges {order : TaskOrder} {tick : Option Binary64}
    {s : Clocked (Exporter δ)} (h : started db order s = []) :
    ∀ exchange ∈ cycleExchanges db order tick s, exchange.isQuery = false := by
  intro exchange hexchange
  rw [cycleExchanges_eq, cycleRuns, h] at hexchange
  simp only [taskRuns, List.flatMap_nil, List.append_nil] at hexchange
  exact (contact_pinged db s).isQuery_eq_false exchange hexchange

/-- **A cycle that fails leaves everything as it was.** After any uses of a new exporter, let a
cycle fail. It has asked no query. The definitions and what is remembered are those of before, but
for the cycle being counted. A scheduled exporter that was to store the result fails in the same
way, and every later collection from it gives what it would have given before. -/
theorem unchanged_of_aborted {new : Clocked (Exporter δ)} (hnew : new.inner.ledger = {})
    (past : List (Use δ)) (c : Cycle) (horder : c.order.Lawful) {failure : Failure}
    (hfailure : (run (scrape db c.order c.tick) (c.enter (afterUses db past new))).result =
      .error failure) :
    let s := afterUses db past new
    let after := (run (scrape db c.order c.tick) (c.enter s)).state.inner
    let stored := run (scrapeIntoSnapshot db c.order c.tick) (c.enter s)
    (∀ exchange ∈ cycleExchanges db c.order c.tick (c.enter s), exchange.isQuery = false) ∧
    after.store.definitions = s.inner.store.definitions ∧
    after.ledger = { s.inner.ledger with scrapes := s.inner.ledger.scrapes + 1 } ∧
    after.snapshot = s.inner.snapshot ∧
    (s.inner.scheduled = true →
      stored.result = .error failure ∧ stored.state.inner = after ∧
      ∀ later : Cycle, (run (collect db later.order) (later.enter stored.state)).result =
        (run (collect db later.order) (later.enter s)).result) := by
  intro s after stored
  have hlabelled : (c.enter s).inner.ledger.FullyLabelled := by
    refine fullyLabelled_afterUses db past ?_
    rw [hnew]
    exact nofun
  have hstarted : started db c.order (c.enter s) = [] := by
    obtain ⟨hping, -⟩ | ⟨hping, hrefresh, -⟩ := aborted_cases db hlabelled horder hfailure
    · rw [started, hping]
    · rw [started, hping, hrefresh]
  have hkept : after.store.definitions = s.inner.store.definitions ∧
      after.ledger = s.inner.ledger.begin ∧ after.snapshot = s.inner.snapshot := by
    obtain ⟨-, hstate⟩ | ⟨-, hrefresh, hstate⟩ := aborted_cases db hlabelled horder hfailure
    · have hinner : after = _ := (congrArg Clocked.inner hstate).trans (inner_pinged db (c.enter s))
      rw [hinner]
      exact ⟨rfl, rfl, rfl⟩
    · have hinner : after = _ := congrArg Clocked.inner hstate
      rw [hinner]
      exact inner_refreshed_of_error db hrefresh
  refine ⟨isQuery_of_mem_cycleExchanges db hstarted, hkept.1, hkept.2.1, hkept.2.2, fun hmode => ?_⟩
  have hrun : stored = _ := run_scrapeIntoSnapshot_of_error (s := c.enter s) hmode hfailure
  refine ⟨by rw [hrun], by rw [hrun], fun later => ?_⟩
  obtain ⟨snapshot, hsnapshot⟩ := Option.isSome_iff_exists.mp hmode
  have hbefore : (later.enter s).inner.snapshot = some snapshot := hsnapshot
  have hafter : (later.enter stored.state).inner.snapshot = some snapshot := by
    rw [hrun]
    exact hkept.2.2.trans hsnapshot
  rw [run_collect_of_stored hbefore, run_collect_of_stored hafter]

/-- A scheduled cycle with these files. -/
def scheduledWith (files : FileTree) (tick : Binary64) : Cycle := ⟨files, tick, some tick, .inTurn⟩

/-- A cycle that finds a broken source, after one that has remembered a success and counted two
errors. -/
theorem unchanged_of_aborted_brokenSource :
    let new : Clocked (Exporter Scripted.DatabaseState) :=
      ⟨0, { twoFailures with snapshot := some {} }⟩
    let s := afterUses Scripted.database [.scrapeIntoSnapshot (scheduledWith [] 100)] new
    let c := scheduledWith brokenSource 160
    let ran := run (scrape Scripted.database c.order c.tick) (c.enter s)
    new.inner.ledger = {} ∧ c.order.Lawful ∧ s.inner.scheduled = true ∧
    (∃ failure, ran.result = .error failure ∧
      (run (scrapeIntoSnapshot Scripted.database c.order c.tick) (c.enter s)).result =
        .error failure) ∧
    (∀ exchange ∈ cycleExchanges Scripted.database c.order c.tick (c.enter s),
      exchange.isQuery = false) ∧
    ran.state.inner.store.definitions = twoFailures.store.definitions ∧
    ran.state.inner.ledger =
      { scrapes := 2, errors := [("failing", 2)], lastRun := [("answered|select 1", 100)]
        lastSamples := [("answered|select 1",
          [{ name := "oracledb_answered_value", kind := .gauge, value := 1 }])]
        lastError := true, up := true } := by
  intro new s c ran
  have hfails : ran.result = .error (.definitions "source.toml" (.document .malformed)) := by
    decide +kernel
  have hnew : new.inner.ledger = {} := rfl
  obtain ⟨hqueries, hdefinitions, hledger, -, hstored⟩ :=
    unchanged_of_aborted Scripted.database hnew
      [.scrapeIntoSnapshot (scheduledWith [] 100)] c TaskOrder.lawful_inTurn hfails
  have hmode : s.inner.scheduled = true := by decide +kernel
  have hbefore : s.inner.ledger =
      { scrapes := 1, errors := [("failing", 2)], lastRun := [("answered|select 1", 100)]
        lastSamples := [("answered|select 1",
          [{ name := "oracledb_answered_value", kind := .gauge, value := 1 }])]
        lastError := true, up := true } := by
    decide +kernel
  refine ⟨rfl, TaskOrder.lawful_inTurn, hmode, ⟨_, hfails, (hstored hmode).1⟩, hqueries, ?_, ?_⟩
  · rw [hdefinitions]
    decide +kernel
  · rw [hledger, hbefore]

end Exporter

end QueryMetrics
