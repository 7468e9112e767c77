import QueryMetrics.Proofs.Metric.Grouping
import QueryMetrics.Proofs.Scrape.History
import QueryMetrics.Scripted.Database

/-!
# Failures stay with their definition

In a cycle whose database replies to every query by its statement and its time alone, the outcome
of a task is determined by the reply to the definition's own query (`Definition.ownResult`),
whatever becomes of the other tasks and in whichever order they run.

From this follow the two halves of isolation: such a cycle never fails once the definitions are
refreshed and its families are those of all outcomes put together, and a definition gives the same
samples under any database that replies the same to its own query. For the first half, samples must
have a value for each of their labels: new ones do, and so do those that are remembered
(`Exporter.fullyLabelled_afterCycles`).
-/

namespace QueryMetrics

open QueryMetrics.Action

/-! ### Replies -/

/-- What is replied to a statement within a time. -/
abbrev Replies := String → Binary64 → Except Failure (List Row)

/-- The database after queries, each a statement with its time. -/
def Database.after {δ : Type} (db : Database δ) (asked : List (String × Binary64))
    (state : Clocked δ) : Clocked δ :=
  asked.foldl (fun state query => (run (db.query query.1 query.2) state).state) state

/-- Whatever is asked from this state on, the database replies to a query by its statement and its
time alone. -/
def Database.RepliesBy {δ : Type} (db : Database δ) (replies : Replies) (state : Clocked δ) :
    Prop :=
  ∀ asked statement timeout,
    (run (db.query statement timeout) (db.after asked state)).result = replies statement timeout

/-- The replies stay the same after a query. -/
theorem Database.RepliesBy.query {δ : Type} {db : Database δ} {replies : Replies}
    {state : Clocked δ} (h : db.RepliesBy replies state) (statement : String)
    (timeout : Binary64) : db.RepliesBy replies (run (db.query statement timeout) state).state :=
  fun asked => h ((statement, timeout) :: asked)

namespace Scripted

/-- What a scripted database replies to a statement, whatever the time for it is. -/
def DatabaseState.reply (state : DatabaseState) : Replies := fun statement _ =>
  match state.failures.find? statement with
  | some failure => .error failure
  | none => .ok ((state.rows.find? statement).getD [])

/-- A query gives the reply of the script and leaves the script as it is. -/
private theorem run_queryDatabase (statement : String) (timeout : Binary64)
    (state : Clocked DatabaseState) :
    (run (database.query statement timeout) state).result =
        state.inner.reply statement timeout ∧
      (run (database.query statement timeout) state).state.inner.reply = state.inner.reply := by
  change (run (queryDatabase statement timeout) state).result = _ ∧
    (run (queryDatabase statement timeout) state).state.inner.reply = _
  rw [queryDatabase]
  simp only [recordCall, run_bind, run_modify, run_get, Clocked.advance, DatabaseState.reply]
  cases hfind : state.inner.failures.find? statement with
  | some failure => exact ⟨rfl, rfl⟩
  | none => exact ⟨rfl, rfl⟩

/-- A scripted database replies by the statement alone. -/
theorem repliesBy_reply (state : Clocked DatabaseState) :
    database.RepliesBy state.inner.reply state := by
  intro asked
  induction asked generalizing state with
  | nil => exact fun statement timeout => (run_queryDatabase statement timeout state).1
  | cons query rest ih =>
    rw [← (run_queryDatabase query.1 query.2 state).2]
    exact ih _

end Scripted

namespace Definition

/-- The time allowed for the query; for a definition with problems, the default. -/
def timeLimit (d : Definition) (default : Binary64) : Binary64 :=
  match d.timeout default with
  | .ok timeout => timeout
  | .error _ => default

/-- What is replied to the query of a definition. -/
def ownReply (d : Definition) (settings : ScrapeSettings) (replies : Replies) :
    Except Failure (List Row) :=
  replies d.request (d.timeLimit settings.queryTimeout)

/-- What the task of a definition comes to, given the reply to its query: a failure if it has
problems, the samples of the last run if it is not due, and else its answer to the reply. -/
def ownResult (d : Definition) (settings : ScrapeSettings) (ledger : Ledger)
    (tick : Option Binary64) (reply : Except Failure (List Row)) : Except Failure (List Sample) :=
  if d.problems ≠ [] then .error (.unusable d.problems)
  else if ledger.isDue d tick = .ok false then .ok (ledger.samplesOf d.identity)
  else d.answer settings.ns reply

/-- The result is the same if the same is remembered about the definition. -/
theorem ownResult_congr {d : Definition} {first second : Ledger}
    (h : first.SameFor d.identity second) (settings : ScrapeSettings) (tick : Option Binary64)
    (reply : Except Failure (List Row)) :
    d.ownResult settings first tick reply = d.ownResult settings second tick reply := by
  unfold ownResult
  rw [h.isDue_eq, h.samplesOf_eq]

end Definition

/-! ### Labels of remembered samples -/

/-- All samples that are remembered have a value for each of their labels. -/
def Ledger.FullyLabelled (ledger : Ledger) : Prop :=
  ∀ entry ∈ ledger.lastSamples, ∀ s ∈ entry.2, s.FullyLabelled

theorem Ledger.FullyLabelled.samplesOf {ledger : Ledger} (h : ledger.FullyLabelled)
    {identity : String} {s : Sample} (hs : s ∈ ledger.samplesOf identity) : s.FullyLabelled := by
  rw [Ledger.samplesOf] at hs
  cases hfind : Entries.find? identity ledger.lastSamples with
  | none =>
    rw [hfind] at hs
    cases hs
  | some samples =>
    rw [hfind] at hs
    obtain ⟨entry, hentry, rfl⟩ := Entries.exists_mem_of_find? hfind
    exact h entry hentry s hs

theorem Definition.fullyLabelled_of_mem_samples {d : Definition} {ns : String} {rows : List Row}
    {s : Sample} (h : s ∈ rows.flatMap (d.samples ns)) : s.FullyLabelled := by
  obtain ⟨row, -, hs⟩ := List.mem_flatMap.mp h
  exact length_labelValues hs

namespace Exporter

variable {δ : Type} {db : Database δ} {order : TaskOrder} {tick : Option Binary64}

/-! ### Outcomes -/

/-- The database replies by statement and time alone from this state of the exporter on. -/
def Replying (db : Database δ) (replies : Replies) (s : Clocked (Exporter δ)) : Prop :=
  db.RepliesBy replies ⟨s.clock, s.inner.database⟩

/-- The result of a task is determined by the reply to its query, and the replies stay the same. -/
theorem result_task (tick : Option Binary64) {replies : Replies} {s : Clocked (Exporter δ)}
    (hreplies : Replying db replies s) (d : Definition) :
    (run (task db tick d) s).result =
        d.ownResult s.inner.settings s.inner.ledger tick (d.ownReply s.inner.settings replies) ∧
      Replying db replies (run (task db tick d) s).state := by
  obtain ⟨hproblems, h⟩ | ⟨hproblems, hdue, h⟩ | ⟨hproblems, hdue, timeout, htimeout, h⟩ :=
    task_cases db tick d s
  · rw [h, Definition.ownResult, if_pos hproblems]
    exact ⟨rfl, hreplies⟩
  · rw [h, Definition.ownResult, if_neg (not_not_intro hproblems), if_pos hdue]
    exact ⟨rfl, hreplies⟩
  · have hreply : (run (ask (db.query d.request timeout)) s).result =
        replies d.request timeout := hreplies [] d.request timeout
    rw [h, Definition.ownResult, if_neg (not_not_intro hproblems), hdue, if_neg nofun,
      Definition.ownReply, Definition.timeLimit, htimeout]
    dsimp only
    exact ⟨by rw [hreply], hreplies.query d.request timeout⟩

/-- **Isolation.** Definitions with different identities do not see each other: what each task
comes to is determined by the reply to its own query and by what was remembered at first. -/
theorem outcomes_eq_map {replies : Replies} (settings : ScrapeSettings) (ledger : Ledger)
    {ds : List Definition} (hdistinct : (ds.map Definition.identity).Nodup)
    {s : Clocked (Exporter δ)} (hreplies : Replying db replies s)
    (hsettings : s.inner.settings = settings)
    (hledger : ∀ d ∈ ds, s.inner.ledger.SameFor d.identity ledger) :
    outcomes db tick ds s =
      ds.map fun d => ⟨d, d.ownResult settings ledger tick (d.ownReply settings replies)⟩ := by
  induction ds generalizing s with
  | nil => rfl
  | cons d rest ih =>
    rw [List.map_cons, List.nodup_cons] at hdistinct
    obtain ⟨hd, hrest⟩ := hdistinct
    obtain ⟨hresult, hnext⟩ := result_task tick hreplies d
    rw [hsettings, Definition.ownResult_congr (hledger d List.mem_cons_self)] at hresult
    have hafter : ∀ other ∈ rest,
        (run (task db tick d) s).state.inner.ledger.SameFor other.identity ledger := by
      intro other hother
      have hne : other.identity ≠ d.identity :=
        fun he => hd (he ▸ List.mem_map_of_mem hother)
      exact (sameFor_task_of_ne db tick s hne).trans (hledger other (List.mem_cons_of_mem d hother))
    rw [outcomes, List.map_cons, hresult,
      ih hrest hnext ((undisturbed_task db tick d s).settings.trans hsettings) hafter]

/-! ### Labels -/

/-- Tasks remember fully labelled samples only. -/
theorem fullyLabelled_task (db : Database δ) (tick : Option Binary64) (d : Definition)
    {s : Clocked (Exporter δ)} (h : s.inner.ledger.FullyLabelled) :
    (run (task db tick d) s).state.inner.ledger.FullyLabelled := by
  obtain ⟨-, hrun⟩ | ⟨-, -, hrun⟩ | ⟨-, -, timeout, -, hrun⟩ := task_cases db tick d s
  · rw [hrun]
    exact h
  · rw [hrun]
    exact h
  · rw [hrun]
    dsimp only
    cases tick with
    | none => exact h
    | some tick =>
      cases hanswer : d.answer s.inner.settings.ns
          (run (ask (db.query d.request timeout)) s).result with
      | error failure => exact h
      | ok samples =>
        obtain ⟨rows, -, rfl⟩ := Definition.answer_eq_ok hanswer
        intro entry hentry sample hsample
        rcases Entries.mem_put hentry with hold | hnew
        · exact h entry hold sample hsample
        · rw [hnew] at hsample
          exact Definition.fullyLabelled_of_mem_samples hsample

theorem fullyLabelled_afterTasks (db : Database δ) (tick : Option Binary64)
    (ds : List Definition) {s : Clocked (Exporter δ)} (h : s.inner.ledger.FullyLabelled) :
    (afterTasks db tick ds s).inner.ledger.FullyLabelled := by
  induction ds generalizing s with
  | nil => exact h
  | cons d rest ih => exact ih (fullyLabelled_task db tick d h)

theorem fullyLabelled_prepared (db : Database δ) {s : Clocked (Exporter δ)}
    (h : s.inner.ledger.FullyLabelled) : (prepared db s).inner.ledger.FullyLabelled := by
  rw [ledger_prepared]
  cases loaded? db s with
  | none => exact h
  | some active =>
    intro entry hentry
    simp only [Ledger.forgetAllBut, Ledger.forgetRemoved] at hentry
    exact h entry (Entries.mem_of_mem_keep hentry)

/-- Every cycle, however it ends, remembers fully labelled samples only. -/
theorem fullyLabelled_scrape (db : Database δ) (order : TaskOrder) (tick : Option Binary64)
    {s : Clocked (Exporter δ)} (h : s.inner.ledger.FullyLabelled) :
    (run (scrape db order tick) s).state.inner.ledger.FullyLabelled := by
  have hruns := sameRuns_scrape db order tick s
  rw [Ledger.FullyLabelled, hruns.lastSamples]
  exact fullyLabelled_afterTasks db tick _ (fullyLabelled_prepared db h)

/-- Whatever cycles an exporter goes through, what it remembers stays fully labelled. A new exporter
remembers nothing. -/
theorem fullyLabelled_afterCycles (db : Database δ) (cycles : List Cycle)
    {s : Clocked (Exporter δ)} (h : s.inner.ledger.FullyLabelled) :
    (afterCycles db cycles s).inner.ledger.FullyLabelled := by
  induction cycles generalizing s with
  | nil => exact h
  | cons c rest ih => exact ih (fullyLabelled_scrape db c.order c.tick (s := c.enter s) h)

/-- The samples that a task gives are fully labelled, new or remembered. -/
theorem fullyLabelled_of_result_task {d : Definition} {s : Clocked (Exporter δ)}
    {samples : List Sample} (h : s.inner.ledger.FullyLabelled)
    (hresult : (run (task db tick d) s).result = .ok samples) :
    ∀ sample ∈ samples, sample.FullyLabelled := by
  intro sample hsample
  obtain ⟨-, hrun⟩ | ⟨-, -, hrun⟩ | ⟨-, -, timeout, -, hrun⟩ := task_cases db tick d s
  · rw [hrun] at hresult
    cases hresult
  · rw [hrun] at hresult
    cases hresult
    exact h.samplesOf hsample
  · rw [hrun] at hresult
    obtain ⟨rows, -, rfl⟩ := Definition.answer_eq_ok hresult
    exact Definition.fullyLabelled_of_mem_samples hsample

/-- The samples of all outcomes are fully labelled. -/
theorem fullyLabelled_outcomes (db : Database δ) (tick : Option Binary64) (ds : List Definition)
    {s : Clocked (Exporter δ)} (h : s.inner.ledger.FullyLabelled) :
    ∀ outcome ∈ outcomes db tick ds s, ∀ sample ∈ outcome.samples, sample.FullyLabelled := by
  induction ds generalizing s with
  | nil => nofun
  | cons d rest ih =>
    intro outcome houtcome sample hsample
    rcases List.mem_cons.mp houtcome with rfl | hrest
    · cases hresult : (run (task db tick d) s).result with
      | error failure => simp [Outcome.samples, hresult] at hsample
      | ok samples =>
        simp only [Outcome.samples, hresult] at hsample
        exact fullyLabelled_of_result_task h hresult sample hsample
    · exact ih (fullyLabelled_task db tick d h) outcome hrest sample hsample

/-! ### Whole cycles -/

/-- What is remembered when the definitions have been refreshed. -/
def remembered (s : Clocked (Exporter δ)) : Ledger :=
  s.inner.ledger.begin.forgetAllBut (s.inner.store.freshSet? s.inner.files)

/-- A cycle can begin whose database answers the ping, whose refresh succeeds, and whose queries
are replied to by statement and time alone. -/
structure Steady (db : Database δ) (replies : Replies) (s : Clocked (Exporter δ)) : Prop where
  up : (pinged db s).result = .ok true
  refreshed : (refreshed db s).result = .ok ()
  replying : Replying db replies (pinged db s).state
  distinct : ((published s).map Definition.identity).Nodup
  labelled : s.inner.ledger.FullyLabelled

/-- Two exporters differ in their databases and their clocks at most. -/
structure SameBesidesDatabase {δ' : Type} (s : Clocked (Exporter δ)) (s' : Clocked (Exporter δ')) :
    Prop where
  settings : s'.inner.settings = s.inner.settings
  files : s'.inner.files = s.inner.files
  store : s'.inner.store = s.inner.store
  ledger : s'.inner.ledger = s.inner.ledger

variable {replies : Replies} {s : Clocked (Exporter δ)}

/-- What the task of a definition comes to in a steady cycle. -/
def ownOutcome (replies : Replies) (tick : Option Binary64) (s : Clocked (Exporter δ))
    (d : Definition) : Outcome :=
  ⟨d, d.ownResult s.inner.settings (remembered s) tick (d.ownReply s.inner.settings replies)⟩

/-- If the database replies by statement and time alone, the outcomes of a cycle are those of its
definitions, each on its own. -/
theorem collected_perm_map (tick : Option Binary64) (hup : (pinged db s).result = .ok true)
    (hrefresh : (refreshed db s).result = .ok ())
    (hreplies : Replying db replies (pinged db s).state)
    (hdistinct : ((published s).map Definition.identity).Nodup) (horder : order.Lawful) :
    (collected db order tick s).Perm ((published s).map (ownOutcome replies tick s)) := by
  have hinner := inner_refreshed db s
  have hstarted : started db order s = order.running (published s) :=
    started_of_refreshed hup hrefresh
  have hnodup : ((order.running (published s)).map Definition.identity).Nodup :=
    ((horder.running _).map _).nodup_iff.mpr hdistinct
  have hreplying : Replying db replies (refreshed db s).state := by
    rw [refreshed, run_refresh]
    exact hreplies
  have houtcomes : outcomes db tick (order.running (published s)) (refreshed db s).state =
      (order.running (published s)).map (ownOutcome replies tick s) :=
    outcomes_eq_map s.inner.settings (remembered s) hnodup hreplying (by rw [hinner])
      fun d _ => by
        rw [hinner]
        exact .refl ..
  rw [collected, hstarted, prepared_of_up hup, houtcomes]
  exact (horder.collecting _).trans ((horder.running _).map _)

/-- The outcomes of a steady cycle are those of its definitions, each on its own. -/
theorem collected_perm (tick : Option Binary64) (hsteady : Steady db replies s)
    (horder : order.Lawful) :
    (collected db order tick s).Perm ((published s).map (ownOutcome replies tick s)) :=
  collected_perm_map tick hsteady.up hsteady.refreshed hsteady.replying hsteady.distinct horder

/-- In a steady cycle a definition contributes the samples of its own outcome. -/
theorem contribution_eq (tick : Option Binary64) (hsteady : Steady db replies s)
    (horder : order.Lawful) {d : Definition} (hd : d ∈ published s) :
    contribution db order tick s d = (ownOutcome replies tick s d).samples := by
  have hnodup : (published s).Nodup := List.Nodup.of_map _ hsteady.distinct
  have hfilter : ((published s).filter fun other => other = d) = [d] := by
    rw [List.filter_eq, List.count_eq_one_of_mem hnodup hd]
    rfl
  have hown : ((published s).map (ownOutcome replies tick s)).filter
      (fun outcome => outcome.definition = d) = [ownOutcome replies tick s d] := by
    rw [List.filter_map]
    exact congrArg (List.map (ownOutcome replies tick s)) hfilter
  have hperm := (collected_perm tick hsteady horder).filter
    fun outcome => outcome.definition = d
  rw [hown, List.perm_singleton] at hperm
  rw [contribution, outcomesOf, hperm, List.flatMap_singleton]

/-- **Isolation of failures.** Once the definitions are refreshed, a cycle whose database replies by
statement and time alone does not fail: its families are those of the samples that every definition
comes to on its own, in the order in which tasks end, and the exporter's own. What a definition
contributes is the same in any other such cycle in which the reply to its own query is the same,
whatever is replied to other queries. -/
theorem scrape_isolated (tick : Option Binary64) (hsteady : Steady db replies s)
    (horder : order.Lawful) :
    ((collected db order tick s).Perm ((published s).map (ownOutcome replies tick s)) ∧
      ∃ grouping,
        Grouping.ofSamples ((collected db order tick s).flatMap Outcome.samples) = .ok grouping ∧
        let after := (run (scrape db order tick) s).state.inner
        (run (scrape db order tick) s).result = .ok (grouping.families ++
          after.ledger.ownFamilies s.inner.settings.ns (db.dbtype after.database))) ∧
    (∀ d ∈ published s,
      contribution db order tick s d = (ownOutcome replies tick s d).samples ∧
      ∀ {δ' : Type} (db' : Database δ') (replies' : Replies) (s' : Clocked (Exporter δ'))
        (order' : TaskOrder), Steady db' replies' s' → order'.Lawful → SameBesidesDatabase s s' →
        d.ownReply s.inner.settings replies' = d.ownReply s.inner.settings replies →
        contribution db' order' tick s' d = contribution db order tick s d) ∧
    (run (scrape db order tick) s).state.inner.ledger.FullyLabelled := by
  refine ⟨⟨collected_perm tick hsteady horder, ?_⟩, fun d hd => ?_,
    fullyLabelled_scrape db order tick hsteady.labelled⟩
  · have hlabelled : ∀ sample ∈ (collected db order tick s).flatMap Outcome.samples,
        sample.FullyLabelled := by
      intro sample hsample
      obtain ⟨outcome, houtcome, hsample⟩ := List.mem_flatMap.mp hsample
      exact fullyLabelled_outcomes db tick _ (fullyLabelled_prepared db hsteady.labelled) outcome
        ((horder.collecting _).mem_iff.mp houtcome) sample hsample
    have hgrouping := Grouping.ofSamples_eq_described hlabelled
    exact ⟨_, hgrouping, result_scrape_of_grouping hsteady.up hsteady.refreshed hgrouping⟩
  · refine ⟨contribution_eq tick hsteady horder hd, ?_⟩
    intro δ' db' replies' s' order' hsteady' horder' hsame hreply
    have hpublished : published s' = published s := by
      rw [published, published, hsame.store, hsame.files]
    have hremembered : remembered s' = remembered s := by
      rw [remembered, remembered, hsame.ledger, hsame.store, hsame.files]
    rw [contribution_eq tick hsteady' horder' (hpublished ▸ hd),
      contribution_eq tick hsteady horder hd, ownOutcome, ownOutcome, hremembered,
      hsame.settings, hreply]

/-- An exporter with a definition that has a problem, one whose query fails, one whose query has no
rows, one that is not due, and one whose query is answered. -/
def fiveDefinitions : Exporter Scripted.DatabaseState where
  database :=
    { rows := [("select 4", [[("host", "a"), ("value", "7")]])]
      failures := [("select 1", .database .timedOut "too late")] }
  store :=
    { sources := [], defaults := none
      definitions :=
        [{ context := "broken", request := "select 0" },
          { context := "failing", helps := [("value", "")], request := "select 1" },
          { context := "silent", helps := [("value", "")], request := "select 2" },
          { context := "resting", helps := [("value", "")], request := "select 3",
            scrapeInterval := "1m" },
          { context := "answered", helps := [("value", "")], labels := ["host"],
            request := "select 4" }] }
  ledger :=
    { lastRun := [("resting|select 3", 100)]
      lastSamples :=
        [("resting|select 3", [{ name := "oracledb_resting_value", kind := .gauge, value := 5 }])] }

private theorem steady_fiveDefinitions :
    Steady Scripted.database fiveDefinitions.database.reply ⟨130, fiveDefinitions⟩ where
  up := rfl
  refreshed := rfl
  replying :=
    Scripted.repliesBy_reply
      ⟨130, (pinged Scripted.database ⟨130, fiveDefinitions⟩).state.inner.database⟩
  distinct := by decide
  labelled := by
    intro entry hentry sample hsample
    obtain rfl := List.mem_singleton.mp hentry
    obtain rfl := List.mem_singleton.mp hsample
    rfl

/-- Only the last two contribute: what is remembered, and what the row of the reply gives. -/
theorem scrape_isolated_fiveDefinitions :
    Steady Scripted.database fiveDefinitions.database.reply ⟨130, fiveDefinitions⟩ ∧
    TaskOrder.inTurn.Lawful ∧
    (∃ families, (run (scrape Scripted.database .inTurn (some 130)) ⟨130, fiveDefinitions⟩).result =
      .ok families) ∧
    (published ⟨130, fiveDefinitions⟩).map
        (contribution Scripted.database .inTurn (some 130) ⟨130, fiveDefinitions⟩) =
      [[], [], [], [{ name := "oracledb_resting_value", kind := .gauge, value := 5 }],
        [{ name := "oracledb_answered_value", kind := .gauge, value := 7,
           labelNames := ["host"], labelValues := ["a"] }]] := by
  obtain ⟨⟨-, grouping, -, hfamilies⟩, hown, -⟩ :=
    scrape_isolated (some 130) steady_fiveDefinitions TaskOrder.lawful_inTurn
  refine ⟨steady_fiveDefinitions, TaskOrder.lawful_inTurn, ⟨_, hfamilies⟩, ?_⟩
  rw [List.map_congr_left fun d hd => (hown d hd).1]
  decide +kernel

end Exporter

end QueryMetrics
