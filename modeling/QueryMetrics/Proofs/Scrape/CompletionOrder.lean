import QueryMetrics.Proofs.Connection.QueryFrame
import QueryMetrics.Proofs.Metric.Reordering
import QueryMetrics.Proofs.Scrape.Accounting
import QueryMetrics.Proofs.Scrape.Isolation

/-!
# The order of tasks

Two cycles from the same state may run their tasks in different orders, and collect the outcomes in
different orders.

* **Tasks** of different identities commute: what is remembered about an identity afterwards is
  decided by the reply to its own query (`Exporter.sameFor_afterTasks_own`).
* **Error counters** are written one after another, and are the same table in the end
  (`Ledger.sameTable_countErrors`).
* **Samples** that agree by name give the same families in any order.

Together this is `Exporter.scrape_anyOrder`: the order shows in nothing but the order of families,
of samples and of counters, and in the time that the cycle takes.
-/

namespace QueryMetrics

open QueryMetrics.Action

/-! ### Ledgers -/

namespace Ledger

variable {first second : Ledger}

/-- Both ledgers hold the same, but for the order of the error counters and the duration of the last
cycle. -/
structure SameUpToOrder (first second : Ledger) : Prop where
  scrapes : first.scrapes = second.scrapes
  errors : first.errors.SameTable second.errors
  runs (identity : String) : first.SameFor identity second
  lastError : first.lastError = second.lastError
  up : first.up = second.up

theorem SameUpToOrder.refl (ledger : Ledger) : ledger.SameUpToOrder ledger :=
  ⟨rfl, .refl _, fun _ => .refl .., rfl, rfl⟩

theorem sameTable_countError (h : first.errors.SameTable second.errors) (context : String) :
    (first.countError context).errors.SameTable (second.countError context).errors := by
  rw [countError, countError, h.find? context]
  exact h.put context _

theorem sameTable_countErrors_congr (h : first.errors.SameTable second.errors)
    (contexts : List String) :
    (first.countErrors contexts).errors.SameTable (second.countErrors contexts).errors := by
  induction contexts generalizing first second with
  | nil => exact h
  | cons context rest ih => exact ih (sameTable_countError h context)

/-- Errors of two contexts can be counted in either order. -/
theorem sameTable_countError_countError (ledger : Ledger) (context other : String) :
    ((ledger.countError context).countError other).errors.SameTable
      ((ledger.countError other).countError context).errors := by
  by_cases hsame : context = other
  · rw [hsame]
    exact .refl _
  · simp only [countError, Entries.find?_put_of_ne hsame, Entries.find?_put_of_ne (Ne.symm hsame)]
    exact Entries.sameTable_put_put (Ne.symm hsame) ..

/-- Errors can be counted in any order. -/
theorem sameTable_countErrors {contexts contexts' : List String} (hperm : contexts.Perm contexts')
    (h : first.errors.SameTable second.errors) :
    (first.countErrors contexts).errors.SameTable (second.countErrors contexts').errors := by
  induction hperm generalizing first second with
  | nil => exact h
  | cons context _ ih => exact ih (sameTable_countError h context)
  | swap context other rest =>
    have htwo : ((first.countError other).countError context).errors.SameTable
        ((second.countError context).countError other).errors :=
      (sameTable_countError_countError first other context).trans
        (sameTable_countError (sameTable_countError h context) other)
    exact sameTable_countErrors_congr htwo rest
  | trans _ _ ih ih' => exact (ih h).trans (ih' (.refl _))

/-- Cycles that collect the same outcomes conclude the same, up to order. -/
theorem SameUpToOrder.conclude (h : first.SameUpToOrder second) (duration duration' : Binary64)
    (up : Bool) {outcomes outcomes' : List Outcome} (hperm : outcomes.Perm outcomes') :
    (first.conclude duration up outcomes).SameUpToOrder
      (second.conclude duration' up outcomes') := by
  have hcontexts : (Outcome.reportedContexts outcomes).Perm (Outcome.reportedContexts outcomes') :=
    (hperm.filter _).map _
  have hempty : (Outcome.reportedContexts outcomes).isEmpty =
      (Outcome.reportedContexts outcomes').isEmpty := by
    rw [Bool.eq_iff_iff, List.isEmpty_iff, List.isEmpty_iff, ← List.length_eq_zero_iff,
      ← List.length_eq_zero_iff, hcontexts.length_eq]
  have hfirst := first.sameRuns_conclude duration up outcomes
  have hsecond := second.sameRuns_conclude duration' up outcomes'
  constructor
  · rw [Ledger.conclude, Ledger.conclude]
    simp only [finish, scrapes_countErrors]
    exact h.scrapes
  · exact sameTable_countErrors hcontexts h.errors
  · intro identity
    exact (hfirst.sameFor identity).trans ((h.runs identity).trans
      ⟨(hsecond.sameFor identity).lastRun.symm, (hsecond.sameFor identity).lastSamples.symm⟩)
  · rw [Ledger.conclude, Ledger.conclude]
    simp only [finish, hempty]
  · rfl

end Ledger

/-! ### The exporter's own families -/

/-- Two families show the same points, in any order. -/
structure Family.SamePoints (first second : Family) : Prop where
  name : first.name = second.name
  kind : first.kind = second.kind
  help : first.help = second.help
  points : first.points.Perm second.points

/-- The gauge for the duration of a cycle, the first of the exporter's own families. -/
def durationGauge (ns : String) (duration : Binary64) : Family :=
  ownGauge (qualifiedName [ns, ownContext, "last_scrape_duration_seconds"])
    "Duration of the last scrape of metrics from Oracle DB." (.measured duration)

/-- Two cycles give the same families: those of samples in any order, and the exporter's own, but
for the value of the duration and the order of points. -/
def SameFamilies (ns : String) (families families' : List Family) : Prop :=
  ∃ exposed exposed' own own' duration duration',
    families = exposed ++ durationGauge ns duration :: own ∧
    families' = exposed' ++ durationGauge ns duration' :: own' ∧
    Family.Reordered exposed exposed' ∧ List.Forall₂ Family.SamePoints own own'

/-- Ledgers that hold the same up to order give the same families up to order. -/
theorem Ledger.SameUpToOrder.sameFamilies {first second : Ledger} (h : first.SameUpToOrder second)
    {exposed exposed' : List Family} (hexposed : Family.Reordered exposed exposed') (ns : String)
    (dbtype : Int) :
    SameFamilies ns (exposed ++ first.ownFamilies ns dbtype)
      (exposed' ++ second.ownFamilies ns dbtype) := by
  have hsame : ∀ family, Family.SamePoints family family := fun _ => ⟨rfl, rfl, rfl, .refl _⟩
  refine ⟨exposed, exposed', _, _, first.lastDuration, second.lastDuration, rfl, rfl, hexposed, ?_⟩
  rw [h.scrapes, h.lastError, h.up]
  refine .cons (hsame _) (.cons (hsame _) (.cons ⟨rfl, rfl, rfl, ?_⟩
    (.cons (hsame _) (.cons (hsame _) .nil))))
  exact (h.errors.perm.map _).map _

/-! ### Tasks -/

namespace Definition

/-- What is remembered after the task of a definition, given the reply to its query: a scheduled
success if the query was run. -/
def ownRemembered (d : Definition) (settings : ScrapeSettings) (ledger : Ledger)
    (tick : Option Binary64) (reply : Except Failure (List Row)) : Ledger :=
  if d.problems = [] ∧ ledger.isDue d tick = .ok true then
    ledger.afterRun d tick (d.answer settings.ns reply)
  else ledger

/-- What is remembered about the definition then is decided by what was remembered about it. -/
theorem sameFor_ownRemembered {d : Definition} {first second : Ledger}
    (h : first.SameFor d.identity second) (settings : ScrapeSettings) (tick : Option Binary64)
    (reply : Except Failure (List Row)) :
    (d.ownRemembered settings first tick reply).SameFor d.identity
      (d.ownRemembered settings second tick reply) := by
  rw [ownRemembered, ownRemembered, h.isDue_eq]
  split
  · exact Ledger.sameFor_afterRun h tick _
  · exact h

end Definition

namespace Exporter

variable {δ : Type} {db : Database δ} {tick : Option Binary64} {replies : Replies}

/-- What a task leaves in the ledger is determined by the reply to its query. -/
theorem ledger_task {s : Clocked (Exporter δ)} (hreplies : Replying db replies s)
    (d : Definition) :
    (run (task db tick d) s).state.inner.ledger =
      d.ownRemembered s.inner.settings s.inner.ledger tick
        (d.ownReply s.inner.settings replies) := by
  rw [Definition.ownRemembered]
  obtain ⟨hproblems, h⟩ | ⟨-, hdue, h⟩ | ⟨hproblems, hdue, timeout, htimeout, h⟩ :=
    task_cases db tick d s
  · rw [h, if_neg fun hdue => hproblems hdue.1]
  · rw [h, if_neg (by rw [hdue]; nofun)]
  · have hreply : (run (ask (db.query d.request timeout)) s).result =
        replies d.request timeout := hreplies [] d.request timeout
    rw [h, if_pos ⟨hproblems, hdue⟩, Definition.ownReply, Definition.timeLimit, htimeout]
    dsimp only
    rw [hreply]

/-- **Tasks commute.** When definitions have different identities, what their tasks leave about the
identity of one of them is decided by the reply to its own query and by what was remembered at
first, wherever its task stands. -/
theorem sameFor_afterTasks_own (tick : Option Binary64) {settings : ScrapeSettings}
    {ledger : Ledger} {ds : List Definition} (hdistinct : (ds.map Definition.identity).Nodup)
    {s : Clocked (Exporter δ)} (hreplies : Replying db replies s)
    (hsettings : s.inner.settings = settings)
    (hledger : ∀ d ∈ ds, s.inner.ledger.SameFor d.identity ledger) :
    ∀ d ∈ ds, (afterTasks db tick ds s).inner.ledger.SameFor d.identity
      (d.ownRemembered settings ledger tick (d.ownReply settings replies)) := by
  induction ds generalizing s with
  | nil => exact fun d hd => absurd hd List.not_mem_nil
  | cons first rest ih =>
    rw [List.map_cons, List.nodup_cons] at hdistinct
    obtain ⟨hfirst, hrest⟩ := hdistinct
    rw [List.forall_mem_cons] at hledger ⊢
    constructor
    · -- the tasks behind it do not touch its identity
      have hown := Definition.sameFor_ownRemembered hledger.1 settings tick
        (first.ownReply settings replies)
      rw [← hsettings, ← ledger_task hreplies first, hsettings] at hown
      exact (sameFor_afterTasks db tick hfirst _).trans hown
    · have hnext := (result_task tick hreplies first).2
      have hkept := (undisturbed_task db tick first s).settings.trans hsettings
      refine ih hrest hnext hkept fun d hd => ?_
      have hne : d.identity ≠ first.identity :=
        fun he => hfirst (he ▸ List.mem_map_of_mem hd)
      exact (sameFor_task_of_ne db tick s hne).trans (hledger.2 d hd)

/-- Tasks in another order leave the same about every identity. -/
theorem sameFor_afterTasks_perm {ds ds' : List Definition} (hperm : ds.Perm ds')
    (hdistinct : (ds.map Definition.identity).Nodup) {s : Clocked (Exporter δ)}
    (hreplies : Replying db replies s) (identity : String) :
    (afterTasks db tick ds s).inner.ledger.SameFor identity
      (afterTasks db tick ds' s).inner.ledger := by
  have hids := hperm.map Definition.identity
  by_cases hmem : identity ∈ ds.map Definition.identity
  · obtain ⟨d, hd, rfl⟩ := List.mem_map.mp hmem
    have hfirst := sameFor_afterTasks_own tick hdistinct hreplies rfl
      (fun _ _ => .refl ..) d hd
    have hsecond := sameFor_afterTasks_own tick (hids.nodup_iff.mp hdistinct) hreplies rfl
      (fun _ _ => .refl ..) d (hperm.mem_iff.mp hd)
    exact hfirst.trans hsecond.symm
  · have hother : identity ∉ ds'.map Definition.identity := fun h => hmem (hids.mem_iff.mpr h)
    exact (sameFor_afterTasks db tick hmem s).trans (sameFor_afterTasks db tick hother s).symm

/-- Tasks ask queries only, which leave the kind of the database alone. -/
theorem dbtype_afterTasks (htype : db.KeepsType) (tick : Option Binary64) (ds : List Definition)
    (s : Clocked (Exporter δ)) :
    db.dbtype (afterTasks db tick ds s).inner.database = db.dbtype s.inner.database := by
  induction ds generalizing s with
  | nil => rfl
  | cons d rest ih =>
    refine (ih _).trans ?_
    obtain ⟨-, h⟩ | ⟨-, -, h⟩ | ⟨-, -, timeout, -, h⟩ := task_cases db tick d s
    · rw [h]
    · rw [h]
    · rw [h]
      exact htype d.request timeout ⟨s.clock, s.inner.database⟩

/-! ### Cycles -/

variable {order order' : TaskOrder} {s : Clocked (Exporter δ)}

/-- Nothing but the database and the ledger has become different. -/
structure SameBesidesLedger (first second : Exporter δ) : Prop where
  settings : first.settings = second.settings
  files : first.files = second.files
  store : first.store = second.store
  snapshot : first.snapshot = second.snapshot

/-- A cycle that does not come to its tasks knows no order of them. -/
theorem run_scrape_of_not_refreshed
    (h : (pinged db s).result = .ok true → (refreshed db s).result ≠ .ok ()) :
    run (scrape db order tick) s = run (scrape db order' tick) s := by
  cases hping : (pinged db s).result with
  | error failure => rw [run_scrape_of_ping_error hping, run_scrape_of_ping_error hping]
  | ok up =>
    cases up with
    | false => rw [run_scrape_of_down hping, run_scrape_of_down hping]
    | true =>
      cases hrefresh : (refreshed db s).result with
      | error failure =>
        rw [run_scrape_of_refresh_error hping hrefresh, run_scrape_of_refresh_error hping hrefresh]
      | ok _ => exact absurd hrefresh (h hping)

/-- A cycle that does not come to its tasks exposes nothing but the exporter's own families. -/
theorem families_of_not_refreshed {families : List Family}
    (h : (pinged db s).result = .ok true → (refreshed db s).result ≠ .ok ())
    (hfamilies : (run (scrape db order tick) s).result = .ok families) :
    ∃ (ledger : Ledger) (dbtype : Int),
      families = ledger.ownFamilies s.inner.settings.ns dbtype := by
  obtain ⟨failure, herror, -⟩ | ⟨exposed, up, _, _, hping, hdown, hup, hresult, -⟩ :=
    scrape_ends db order tick s
  · cases hfamilies.symm.trans herror
  · cases up with
    | true => exact absurd (hup rfl).1 (h hping)
    | false =>
      rw [(hdown rfl).1, List.nil_append] at hresult
      exact ⟨_, _, Except.ok.inj (hfamilies.symm.trans hresult)⟩

/-- The state that tasks leave is the same in any order, but for the database and the order of what
is remembered. -/
theorem sameUpToOrder_afterTasks (tick : Option Binary64) {ds ds' : List Definition}
    (hperm : ds.Perm ds')
    (hdistinct : (ds.map Definition.identity).Nodup) (hreplies : Replying db replies s) :
    (afterTasks db tick ds s).inner.ledger.SameUpToOrder (afterTasks db tick ds' s).inner.ledger ∧
      SameBesidesLedger (afterTasks db tick ds s).inner (afterTasks db tick ds' s).inner := by
  have hfirst := undisturbed_afterTasks db tick ds s
  have hsecond := undisturbed_afterTasks db tick ds' s
  refine ⟨⟨?_, ?_, sameFor_afterTasks_perm hperm hdistinct hreplies, ?_, ?_⟩,
    ⟨hfirst.settings.trans hsecond.settings.symm, hfirst.files.trans hsecond.files.symm,
      hfirst.store.trans hsecond.store.symm, hfirst.snapshot.trans hsecond.snapshot.symm⟩⟩
  · rw [hfirst.ledger, hsecond.ledger]
  · rw [hfirst.ledger, hsecond.ledger]
    exact .refl _
  · rw [hfirst.ledger, hsecond.ledger]
  · rw [hfirst.ledger, hsecond.ledger]

/-- So it is for the tasks of a refreshed cycle. -/
theorem sameUpToOrder_started (tick : Option Binary64) (horder : order.Lawful)
    (horder' : order'.Lawful) (hreplies : Replying db replies (pinged db s).state)
    (hdistinct : ((published s).map Definition.identity).Nodup)
    (hup : (pinged db s).result = .ok true) (hrefresh : (refreshed db s).result = .ok ()) :
    let ended := fun order => (afterTasks db tick (started db order s) (prepared db s)).inner
    (ended order).ledger.SameUpToOrder (ended order').ledger ∧
      SameBesidesLedger (ended order) (ended order') := by
  have hperm : (order.running (published s)).Perm (order'.running (published s)) :=
    (horder.running _).trans (horder'.running _).symm
  have hnodup : ((order.running (published s)).map Definition.identity).Nodup :=
    ((horder.running _).map _).nodup_iff.mpr hdistinct
  have hprepared : Replying db replies (prepared db s) := by
    rw [prepared_of_up hup, refreshed, run_refresh]
    exact hreplies
  dsimp only
  rw [started_of_refreshed hup hrefresh, started_of_refreshed hup hrefresh]
  exact sameUpToOrder_afterTasks tick hperm hnodup hprepared

/-- A cycle leaves the kind of the database as it was when the tasks began. -/
theorem dbtype_scrape (htype : db.KeepsType) (order : TaskOrder) (tick : Option Binary64)
    (s : Clocked (Exporter δ)) :
    db.dbtype (run (scrape db order tick) s).state.inner.database =
      db.dbtype (prepared db s).inner.database := by
  obtain ⟨_, -, hinner⟩ := exists_inner_scrape db order tick s
  rw [hinner]
  exact dbtype_afterTasks htype tick _ _

/-- Cycles differ in nothing but the database and the ledger if their tasks do. -/
theorem SameBesidesLedger.scrape
    (h : SameBesidesLedger (afterTasks db tick (started db order s) (prepared db s)).inner
      (afterTasks db tick (started db order' s) (prepared db s)).inner) :
    SameBesidesLedger (run (scrape db order tick) s).state.inner
      (run (scrape db order' tick) s).state.inner := by
  obtain ⟨_, -, hinner⟩ := exists_inner_scrape db order tick s
  obtain ⟨_, -, hinner'⟩ := exists_inner_scrape db order' tick s
  rw [hinner, hinner']
  exact ⟨h.settings, h.files, h.store, h.snapshot⟩

/-- A refreshed cycle whose samples cannot be grouped fails, and leaves what its tasks leave. -/
theorem scrape_of_mismatch (hup : (pinged db s).result = .ok true)
    (hrefresh : (refreshed db s).result = .ok ()) {mismatch : LabelMismatch}
    (h : Grouping.ofSamples ((collected db order tick s).flatMap Outcome.samples) =
      .error mismatch) :
    (run (scrape db order tick) s).result = .error (.labels mismatch) ∧
      (run (scrape db order tick) s).state.inner.ledger =
        (afterTasks db tick (started db order s) (prepared db s)).inner.ledger := by
  rw [run_scrape_of_refreshed order tick hup hrefresh]
  dsimp only
  rw [h]
  exact ⟨rfl, rfl⟩

/-- A refreshed cycle whose samples can be grouped concludes with its outcomes. -/
theorem ledger_scrape_of_grouping (hup : (pinged db s).result = .ok true)
    (hrefresh : (refreshed db s).result = .ok ()) {grouping : Grouping}
    (h : Grouping.ofSamples ((collected db order tick s).flatMap Outcome.samples) =
      .ok grouping) :
    ∃ duration, (run (scrape db order tick) s).state.inner.ledger =
      (afterTasks db tick (started db order s) (prepared db s)).inner.ledger.conclude duration true
        (collected db order tick s) := by
  rw [run_scrape_of_refreshed order tick hup hrefresh]
  dsimp only
  rw [h]
  exact ⟨_, rfl⟩

/-- **Any order of tasks.** Let the active definitions have different identities, let the database
reply by statement and time alone without its kind changing (no driver's kind does), and let the
samples of the cycle agree by name. Then cycles from
the same state with different orders of tasks and outcomes both fail or both give families, which
are the same up to the order of families and of the samples in them, the duration aside. They leave
the same error counters, the same error gauge, the same runs and the same samples of runs. -/
theorem scrape_anyOrder (tick : Option Binary64) (horder : order.Lawful) (horder' : order'.Lawful)
    (hreplies : Replying db replies (pinged db s).state) (htype : db.KeepsType)
    (hdistinct : ((published s).map Definition.identity).Nodup)
    (hagree : Agreeing ((collected db order tick s).flatMap Outcome.samples)) :
    let ran := run (scrape db order tick) s
    let ran' := run (scrape db order' tick) s
    ((∃ failure failure', ran.result = .error failure ∧ ran'.result = .error failure') ∨
      ∃ families families', ran.result = .ok families ∧ ran'.result = .ok families' ∧
        SameFamilies s.inner.settings.ns families families') ∧
    ran.state.inner.ledger.SameUpToOrder ran'.state.inner.ledger ∧
    SameBesidesLedger ran.state.inner ran'.state.inner := by
  intro ran ran'
  by_cases hgo : (pinged db s).result = .ok true ∧ (refreshed db s).result = .ok ()
  · obtain ⟨hup, hrefresh⟩ := hgo
    obtain ⟨hledger, hrest⟩ :=
      sameUpToOrder_started tick horder horder' hreplies hdistinct hup hrefresh
    have hcollected : (collected db order tick s).Perm (collected db order' tick s) :=
      (collected_perm_map tick hup hrefresh hreplies hdistinct horder).trans
        (collected_perm_map tick hup hrefresh hreplies hdistinct horder').symm
    have hsamples := hcollected.flatMap_right Outcome.samples
    obtain ⟨mismatch, mismatch', herror, herror'⟩ | ⟨grouping, grouping', hok, hok', hfamilies⟩ :=
      Grouping.reordered_of_perm hagree hsamples
    · obtain ⟨hfails, hends⟩ := scrape_of_mismatch hup hrefresh herror
      obtain ⟨hfails', hends'⟩ := scrape_of_mismatch hup hrefresh herror'
      refine ⟨.inl ⟨_, _, hfails, hfails'⟩, ?_, hrest.scrape⟩
      rw [hends, hends']
      exact hledger
    · obtain ⟨duration, hends⟩ := ledger_scrape_of_grouping hup hrefresh hok
      obtain ⟨duration', hends'⟩ := ledger_scrape_of_grouping hup hrefresh hok'
      have hsame : ran.state.inner.ledger.SameUpToOrder ran'.state.inner.ledger := by
        rw [hends, hends']
        exact hledger.conclude duration duration' true hcollected
      refine ⟨.inr ⟨_, _, result_scrape_of_grouping hup hrefresh hok,
        result_scrape_of_grouping hup hrefresh hok', ?_⟩, hsame, hrest.scrape⟩
      rw [dbtype_scrape htype, dbtype_scrape htype]
      exact hsame.sameFamilies hfamilies _ _
  · have hrun : ran = ran' := run_scrape_of_not_refreshed fun hup hrefresh => hgo ⟨hup, hrefresh⟩
    rw [← hrun]
    refine ⟨?_, .refl _, ⟨rfl, rfl, rfl, rfl⟩⟩
    cases hresult : ran.result with
    | error failure => exact .inl ⟨failure, failure, rfl, rfl⟩
    | ok families =>
      obtain ⟨ledger, dbtype, rfl⟩ := families_of_not_refreshed
        (fun hup hrefresh => hgo ⟨hup, hrefresh⟩) hresult
      have hnone : Family.Reordered [] [] := ⟨[], .refl _, .nil⟩
      exact .inr ⟨_, _, rfl, rfl, (Ledger.SameUpToOrder.refl ledger).sameFamilies hnone _ dbtype⟩

/-- Tasks run in the order opposite to that of the definitions, and their outcomes are collected in
the order in which they end. -/
def inReverse : TaskOrder := ⟨List.reverse, id⟩

theorem lawful_inReverse : inReverse.Lawful :=
  ⟨List.reverse_perm, fun _ => .refl _⟩

/-- An exporter with two definitions that share a metric, one of them with a least interval, and two
whose queries fail. -/
def sharedMetric : Exporter Scripted.DatabaseState where
  database :=
    { rows :=
        [("select 1", [[("host", "a"), ("value", "7")], [("host", "b"), ("value", "8")]]),
          ("select 2", [[("host", "c"), ("value", "9")]])]
      failures :=
        [("select 3", .database .timedOut "too late"), ("select 4", .database .timedOut "too late")]
      costs := [("select 1", 3)] }
  store :=
    { sources := [], defaults := none
      definitions :=
        [{ context := "size", helps := [("value", "")], labels := ["host"], request := "select 1",
           scrapeInterval := "1m" },
          { context := "slow", helps := [("value", "")], request := "select 3" },
          { context := "size", helps := [("value", "")], labels := ["host"],
            request := "select 2" },
          { context := "slower", helps := [("value", "")], request := "select 4" }] }

/-- In either order both failures are counted and the shared metric has its three samples. -/
theorem scrape_anyOrder_reversed :
    let s : Clocked (Exporter Scripted.DatabaseState) := ⟨130, sharedMetric⟩
    TaskOrder.inTurn.Lawful ∧ inReverse.Lawful ∧
    Replying Scripted.database sharedMetric.database.reply (pinged Scripted.database s).state ∧
    Scripted.database.KeepsType ∧
    ((published s).map Definition.identity).Nodup ∧
    Agreeing ((collected Scripted.database .inTurn (some 130) s).flatMap Outcome.samples) ∧
    (∃ families families',
      (run (scrape Scripted.database .inTurn (some 130)) s).result = .ok families ∧
      (run (scrape Scripted.database inReverse (some 130)) s).result = .ok families' ∧
      SameFamilies "oracledb" families families') ∧
    (run (scrape Scripted.database .inTurn (some 130)) s).state.inner.ledger.SameUpToOrder
      (run (scrape Scripted.database inReverse (some 130)) s).state.inner.ledger ∧
    (run (scrape Scripted.database .inTurn (some 130)) s).state.inner.ledger.errors =
      [("slow", 1), ("slower", 1)] ∧
    (run (scrape Scripted.database inReverse (some 130)) s).state.inner.ledger.errors =
      [("slower", 1), ("slow", 1)] := by
  intro s
  have hreplies : Replying Scripted.database sharedMetric.database.reply
      (pinged Scripted.database s).state :=
    Scripted.repliesBy_reply ⟨130, (pinged Scripted.database s).state.inner.database⟩
  have hdistinct : ((published s).map Definition.identity).Nodup := by decide +kernel
  have hagree : Agreeing
      ((collected Scripted.database .inTurn (some 130) s).flatMap Outcome.samples) := by
    decide +kernel
  obtain ⟨hends, hledger, -⟩ := scrape_anyOrder (some 130) TaskOrder.lawful_inTurn
    lawful_inReverse hreplies Scripted.keepsType_database hdistinct hagree
  refine ⟨TaskOrder.lawful_inTurn, lawful_inReverse, hreplies, Scripted.keepsType_database,
    hdistinct, hagree, ?_, hledger, by decide +kernel, by decide +kernel⟩
  obtain ⟨failure, _, hfails, -⟩ | hfamilies := hends
  · have hok :
        (run (scrape Scripted.database .inTurn (some 130)) s).result.isOk = true := by
      decide +kernel
    rw [hfails] at hok
    cases hok
  · exact hfamilies

end Exporter

end QueryMetrics
