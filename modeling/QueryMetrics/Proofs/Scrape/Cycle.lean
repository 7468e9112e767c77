import QueryMetrics.Proofs.Leads
import QueryMetrics.Proofs.Scrape.Task

/-!
# What a cycle does

A cycle is a ping, a refresh, the tasks, the grouping of their samples and the report, and it can
end early at three places. The parts are run here one by one:

* `Exporter.begun`, `Exporter.pinged` and `Exporter.refreshed` are the first stages of a cycle from
  a given state; `Exporter.outcomes` and `Exporter.afterTasks` are what tasks come to that run one
  after another.
* `Exporter.run_scrape_of_ping_error`, `Exporter.run_scrape_of_down`,
  `Exporter.run_scrape_of_refresh_error` and `Exporter.run_scrape_of_up` put the stages together.
  Between them they cover every cycle.
* `Exporter.started`, `Exporter.prepared` and `Exporter.collected` say the same of any cycle at once:
  which tasks it runs, from which state, and which outcomes are collected. However a cycle ends,
  what it leaves is what its tasks leave (`Exporter.exists_inner_scrape`).
-/

namespace QueryMetrics

open QueryMetrics.Action

/-- The set of definitions that a refresh loads anew, if there is one. -/
def DefinitionStore.freshSet? (files : FileTree) (store : DefinitionStore) :
    Option (List Definition) :=
  match (run (DefinitionStore.refresh files) store).result with
  | .ok true => some (run (DefinitionStore.refresh files) store).state.definitions
  | _ => none

/-- The definitions that are active after a refresh. -/
def DefinitionStore.published (files : FileTree) (store : DefinitionStore) : List Definition :=
  (run (DefinitionStore.refresh files) store).state.definitions

/-- Forgets the runs of definitions that are not in a new set, if there is one. -/
def Ledger.forgetAllBut (ledger : Ledger) : Option (List Definition) → Ledger
  | some active => ledger.forgetRemoved active
  | none => ledger

/-- Nothing is forgotten about the identities of a new set. -/
theorem Ledger.sameFor_forgetRemoved {active : List Definition} {identity : String}
    (h : identity ∈ active.map Definition.identity) (ledger : Ledger) :
    (ledger.forgetRemoved active).SameFor identity ledger := by
  have hkept : decide (identity ∈ active.map Definition.identity) = true := decide_eq_true h
  exact ⟨by rw [forgetRemoved, Entries.find?_keep, if_pos hkept],
    by rw [forgetRemoved, Entries.find?_keep, if_pos hkept]⟩

/-- What is remembered when a cycle has ended. -/
def Ledger.conclude (ledger : Ledger) (duration : Binary64) (up : Bool) (outcomes : List Outcome) :
    Ledger :=
  (ledger.countErrors (Outcome.reportedContexts outcomes)).finish duration
    (!up || !(Outcome.reportedContexts outcomes).isEmpty) up

/-- Both ledgers remember the same runs. -/
structure Ledger.SameRuns (first second : Ledger) : Prop where
  lastRun : first.lastRun = second.lastRun
  lastSamples : first.lastSamples = second.lastSamples

theorem Ledger.SameRuns.sameFor {first second : Ledger} (h : first.SameRuns second)
    (identity : String) : first.SameFor identity second :=
  ⟨by rw [h.lastRun], by rw [h.lastSamples]⟩

theorem Ledger.SameRuns.trans {first second third : Ledger} (h : first.SameRuns second)
    (h' : second.SameRuns third) : first.SameRuns third :=
  ⟨h.lastRun.trans h'.lastRun, h.lastSamples.trans h'.lastSamples⟩

/-- Counting errors keeps the runs. -/
theorem Ledger.sameRuns_countErrors (ledger : Ledger) (contexts : List String) :
    (ledger.countErrors contexts).SameRuns ledger := by
  induction contexts generalizing ledger with
  | nil => exact ⟨rfl, rfl⟩
  | cons context rest ih =>
    have hrest := ih (ledger.countError context)
    exact ⟨hrest.lastRun, hrest.lastSamples⟩

/-- The end of a cycle keeps the runs. -/
theorem Ledger.sameRuns_conclude (ledger : Ledger) (duration : Binary64) (up : Bool)
    (outcomes : List Outcome) : (ledger.conclude duration up outcomes).SameRuns ledger :=
  have h := ledger.sameRuns_countErrors (Outcome.reportedContexts outcomes)
  ⟨h.lastRun, h.lastSamples⟩

/-- Every task runs once, and every outcome is collected once. -/
structure TaskOrder.Lawful (order : TaskOrder) : Prop where
  running (ds : List Definition) : (order.running ds).Perm ds
  collecting (outcomes : List Outcome) : (order.collecting outcomes).Perm outcomes

theorem TaskOrder.lawful_inTurn : TaskOrder.inTurn.Lawful :=
  ⟨fun _ => .refl _, fun _ => .refl _⟩

namespace Exporter

variable {δ α β : Type}

/-! ### Actions that only ask the database -/

/-- The action changes nothing but the database and the clock. -/
def AsksOnly (action : ExporterAction δ α) : Prop :=
  ∀ s, (run action s).state.inner =
    { s.inner with database := (run action s).state.inner.database }

theorem asksOnly_ask (action : Action (Clocked δ) ConnectionEvent α) : AsksOnly (ask action) :=
  fun _ => rfl

theorem asksOnly_pure (a : α) : AsksOnly (pure a : ExporterAction δ α) := fun _ => rfl

theorem asksOnly_report (events : List ExporterEvent) :
    AsksOnly (report events : ExporterAction δ Unit) := fun _ => rfl

/-- Nothing differs but the database and the clock. -/
def DiffersInDatabase (s t : Clocked (Exporter δ)) : Prop :=
  t.inner = { s.inner with database := t.inner.database }

theorem DiffersInDatabase.trans {s t u : Clocked (Exporter δ)} (h : DiffersInDatabase s t)
    (h' : DiffersInDatabase t u) : DiffersInDatabase s u := by
  calc u.inner = { t.inner with database := u.inner.database } := h'
    _ = { s.inner with database := u.inner.database } := by rw [h]

theorem AsksOnly.bind {action : ExporterAction δ α} {next : α → ExporterAction δ β}
    (h : AsksOnly action) (h' : ∀ a, AsksOnly (next a)) : AsksOnly (action >>= next) :=
  Leads.bind (R := DiffersInDatabase) h h' DiffersInDatabase.trans

theorem AsksOnly.catching {caught : Failure → Bool} {handler : Failure → ExporterAction δ α}
    {action : ExporterAction δ α} (h : AsksOnly action)
    (h' : ∀ failure, AsksOnly (handler failure)) :
    AsksOnly (action.catching caught handler) :=
  Leads.catching (R := DiffersInDatabase) h h' DiffersInDatabase.trans

/-- Pinging, with whatever follows a failed ping, only asks the database. -/
theorem asksOnly_ping (db : Database δ) : AsksOnly (ping db) := by
  have hreconnect : AsksOnly (reconnect db) :=
    (asksOnly_ask _).catching fun _ => asksOnly_report _
  have hagain : AsksOnly (pingAgain db) :=
    ((asksOnly_ask _).bind fun _ => asksOnly_pure _).catching fun _ =>
      (asksOnly_report _).bind fun _ => asksOnly_pure _
  refine ((asksOnly_ask _).bind fun _ => asksOnly_pure _).catching fun failure => ?_
  rw [recover]
  split
  · exact (asksOnly_report _).bind fun _ => hreconnect.bind fun _ => hagain
  · exact hagain

/-! ### The stages -/

variable (db : Database δ) (order : TaskOrder) (tick : Option Binary64)

/-- The exporter when a cycle has begun. -/
def begun (s : Clocked (Exporter δ)) : Clocked (Exporter δ) :=
  ⟨s.clock, { s.inner with ledger := s.inner.ledger.begin }⟩

/-- The ping of a cycle. -/
def pinged (s : Clocked (Exporter δ)) : Ran (Clocked (Exporter δ)) ExporterEvent Bool :=
  run (ping db) (begun s)

/-- The refresh of a cycle that goes on after its ping. -/
def refreshed (s : Clocked (Exporter δ)) : Ran (Clocked (Exporter δ)) ExporterEvent Unit :=
  run refresh (pinged db s).state

/-- The outcomes of tasks that run one after another. -/
def outcomes : List Definition → Clocked (Exporter δ) → List Outcome
  | [], _ => []
  | d :: rest, s =>
    ⟨d, (run (task db tick d) s).result⟩ :: outcomes rest (run (task db tick d) s).state

/-- The exporter after tasks that ran one after another. -/
def afterTasks : List Definition → Clocked (Exporter δ) → Clocked (Exporter δ)
  | [], s => s
  | d :: rest, s => afterTasks rest (run (task db tick d) s).state

/-- The reports of tasks that run one after another. -/
def taskEvents : List Definition → Clocked (Exporter δ) → List ExporterEvent
  | [], _ => []
  | d :: rest, s =>
    (run (task db tick d) s).events ++ taskEvents rest (run (task db tick d) s).state

/-- Running tasks never fails. -/
theorem run_runAll (ds : List Definition) (s : Clocked (Exporter δ)) :
    run (runAll db tick ds) s =
      ⟨.ok (outcomes db tick ds s), afterTasks db tick ds s, taskEvents db tick ds s⟩ := by
  induction ds generalizing s with
  | nil => rfl
  | cons d rest ih =>
    rw [runAll]
    simp only [run_bind, run_attempt, ih, run_pure, List.append_nil]
    rfl

/-- Every definition has one outcome. -/
theorem map_definition_outcomes (ds : List Definition) (s : Clocked (Exporter δ)) :
    (outcomes db tick ds s).map Outcome.definition = ds := by
  induction ds generalizing s with
  | nil => rfl
  | cons d rest ih => rw [outcomes, List.map_cons, ih]

/-- Tasks change the database and what is remembered about runs. -/
theorem undisturbed_afterTasks (ds : List Definition) (s : Clocked (Exporter δ)) :
    Undisturbed s.inner (afterTasks db tick ds s).inner := by
  induction ds generalizing s with
  | nil => exact .refl _
  | cons d rest ih => exact (undisturbed_task db tick d s).trans (ih _)

theorem afterTasks_append (first second : List Definition) (s : Clocked (Exporter δ)) :
    afterTasks db tick (first ++ second) s =
      afterTasks db tick second (afterTasks db tick first s) := by
  induction first generalizing s with
  | nil => rfl
  | cons d rest ih => exact ih _

/-- Tasks touch what is remembered under their own identities only. -/
theorem sameFor_afterTasks {ds : List Definition} {identity : String}
    (h : identity ∉ ds.map Definition.identity) (s : Clocked (Exporter δ)) :
    (afterTasks db tick ds s).inner.ledger.SameFor identity s.inner.ledger := by
  induction ds generalizing s with
  | nil => exact .refl ..
  | cons d rest ih =>
    rw [List.map_cons, List.mem_cons, not_or] at h
    exact (ih h.2 _).trans (sameFor_task_of_ne db tick s h.1)

/-- Refreshing the definitions refreshes the store, and forgets the runs of definitions that are
gone if there is a new set. -/
theorem run_refresh (s : Clocked (Exporter δ)) :
    run refresh s =
      let ran := run (DefinitionStore.refresh s.inner.files) s.inner.store
      ⟨ran.result.map fun _ => (),
       ⟨s.clock, { s.inner with
          store := ran.state
          ledger := s.inner.ledger.forgetAllBut (s.inner.store.freshSet? s.inner.files) }⟩,
       ran.events.map .store⟩ := by
  rw [refresh, DefinitionStore.freshSet?]
  simp only [run_bind, run_part, run_on]
  cases hr : (run (DefinitionStore.refresh s.inner.files) s.inner.store).result with
  | error failure => simp [Except.map, Ledger.forgetAllBut]
  | ok loaded => cases loaded <;> simp [run_bind, Except.map, Ledger.forgetAllBut]

/-- A ping changes the database only. -/
theorem inner_pinged (s : Clocked (Exporter δ)) :
    (pinged db s).state.inner =
      { (begun s).inner with database := (pinged db s).state.inner.database } :=
  asksOnly_ping db (begun s)

/-- Besides what the ping did, a refreshed exporter depends on its files and its store only. -/
theorem inner_refreshed (s : Clocked (Exporter δ)) :
    (refreshed db s).state.inner =
      { s.inner with
        database := (pinged db s).state.inner.database
        store := (run (DefinitionStore.refresh s.inner.files) s.inner.store).state
        ledger := s.inner.ledger.begin.forgetAllBut (s.inner.store.freshSet? s.inner.files) } := by
  rw [refreshed, run_refresh]
  dsimp only
  rw [inner_pinged]
  rfl

/-- Exposing samples groups them. -/
theorem run_expose (samples : List Sample) (s : Clocked (Exporter δ)) :
    run (expose samples) s =
      match Grouping.ofSamples samples with
      | .error mismatch => ⟨.error (.labels mismatch), s, []⟩
      | .ok grouping => ⟨.ok grouping.families, s, grouping.notices.map .family⟩ := by
  rw [expose]
  cases h : Grouping.ofSamples samples with
  | error mismatch => simp [run_bind]
  | ok grouping => simp [run_bind, run_map, Except.map]

/-- Reporting the outcomes never fails. -/
theorem run_conclude (started : Binary64) (up : Bool) (outcomes : List Outcome)
    (s : Clocked (Exporter δ)) :
    run (conclude db started up outcomes) s =
      let ledger := s.inner.ledger.conclude (s.clock - started) up outcomes
      ⟨.ok (ledger.ownFamilies s.inner.settings.ns (db.dbtype s.inner.database)),
       ⟨s.clock, { s.inner with ledger }⟩, outcomes.filterMap Outcome.event?⟩ := by
  rw [conclude]
  simp [run_bind, run_map, Except.map, Ledger.conclude]

/-! ### The whole cycle -/

variable {db order tick} {s : Clocked (Exporter δ)}

theorem run_takeDown_begin (s : Clocked (Exporter δ)) :
    run (takeDown (·.begin)) s = ⟨.ok (), begun s, []⟩ := rfl

/-- A ping that fails otherwise than a database does ends the cycle. -/
theorem run_scrape_of_ping_error {failure : Failure} (h : (pinged db s).result = .error failure) :
    run (scrape db order tick) s =
      ⟨.error failure, (pinged db s).state, (pinged db s).events⟩ := by
  rw [pinged] at *
  simp only [scrape, run_bind, run_now, run_takeDown_begin, h, List.nil_append]

/-- A cycle without the database only has its report. -/
theorem run_scrape_of_down (h : (pinged db s).result = .ok false) :
    run (scrape db order tick) s =
      let concluded := run (conclude db s.clock false []) (pinged db s).state
      ⟨concluded.result, concluded.state, (pinged db s).events ++ concluded.events⟩ := by
  rw [pinged] at *
  simp only [scrape, run_bind, run_now, run_takeDown_begin, h, Bool.false_eq_true, if_false,
    bind_pure_comp, run_map, run_conclude, List.nil_append]
  rfl

/-- A refresh that fails ends the cycle. -/
theorem run_scrape_of_refresh_error {failure : Failure} (h : (pinged db s).result = .ok true)
    (hrefresh : (refreshed db s).result = .error failure) :
    run (scrape db order tick) s =
      ⟨.error failure, (refreshed db s).state,
       (pinged db s).events ++ (refreshed db s).events⟩ := by
  rw [refreshed, pinged] at *
  simp only [scrape, gather, run_bind, run_now, run_takeDown_begin, h, hrefresh, if_true,
    List.nil_append]

/-- After a refresh, the tasks run and their samples are grouped. -/
private theorem run_gather (hrefresh : (run refresh s).result = .ok ()) :
    run (gather db order tick) s =
      let active := order.running (run refresh s).state.inner.store.definitions
      let ended := afterTasks db tick active (run refresh s).state
      let events := (run refresh s).events ++ taskEvents db tick active (run refresh s).state
      let collected := order.collecting (outcomes db tick active (run refresh s).state)
      match Grouping.ofSamples (collected.flatMap Outcome.samples) with
      | .error mismatch => ⟨.error (.labels mismatch), ended, events⟩
      | .ok grouping =>
        ⟨.ok (collected, grouping.families), ended, events ++ grouping.notices.map .family⟩ := by
  have hmap : ∀ outcomes : List Outcome,
      (Except.ok outcomes : Except Failure _).map order.collecting =
        .ok (order.collecting outcomes) := fun _ => rfl
  rw [gather]
  simp only [run_bind, hrefresh, run_part, run_map, run_runAll, hmap, run_expose, run_pure]
  cases Grouping.ofSamples _ with
  | error mismatch => simp
  | ok grouping => simp

/-- A cycle that is up and refreshed runs its tasks, groups their samples and reports. -/
theorem run_scrape_of_up (h : (pinged db s).result = .ok true)
    (hrefresh : (refreshed db s).result = .ok ()) :
    run (scrape db order tick) s =
      let active := order.running (refreshed db s).state.inner.store.definitions
      let ended := afterTasks db tick active (refreshed db s).state
      let events := (pinged db s).events ++ ((refreshed db s).events ++
        taskEvents db tick active (refreshed db s).state)
      let collected := order.collecting (outcomes db tick active (refreshed db s).state)
      match Grouping.ofSamples (collected.flatMap Outcome.samples) with
      | .error mismatch => ⟨.error (.labels mismatch), ended, events⟩
      | .ok grouping =>
        let concluded := run (conclude db s.clock true collected) ended
        ⟨concluded.result.map (grouping.families ++ ·), concluded.state,
         events ++ grouping.notices.map .family ++ concluded.events⟩ := by
  rw [refreshed, pinged] at *
  rw [scrape]
  simp only [run_bind, run_now, run_takeDown_begin, h, if_true, run_gather hrefresh]
  cases Grouping.ofSamples _ with
  | error mismatch => simp
  | ok grouping => simp [run_conclude, Except.map]

/-! ### What a cycle makes of the runs -/

variable (db order tick s)

/-- The set of definitions that a cycle loads anew, if it does. -/
def loaded? : Option (List Definition) :=
  match (pinged db s).result with
  | .ok true => s.inner.store.freshSet? s.inner.files
  | _ => none

/-- The exporter when the tasks of a cycle can begin, or when the cycle has turned out to have
none. -/
def prepared : Clocked (Exporter δ) :=
  match (pinged db s).result with
  | .ok true => (refreshed db s).state
  | _ => (pinged db s).state

/-- The definitions that are active when the definitions have been refreshed. -/
def published : List Definition := s.inner.store.published s.inner.files

/-- The definitions whose tasks a cycle runs, in this order. -/
def started : List Definition :=
  match (pinged db s).result, (refreshed db s).result with
  | .ok true, .ok () => order.running (refreshed db s).state.inner.store.definitions
  | _, _ => []

/-- The outcomes of a cycle, in the order in which they are collected. -/
def collected : List Outcome :=
  order.collecting (outcomes db tick (started db order s) (prepared db s))

/-- The outcomes of a definition in a cycle. -/
def outcomesOf (d : Definition) : List Outcome :=
  (collected db order tick s).filter fun outcome => outcome.definition = d

/-- The samples that a definition contributes to a cycle. -/
def contribution (d : Definition) : List Sample :=
  (outcomesOf db order tick s d).flatMap Outcome.samples

/-- Up to the tasks, a cycle forgets the runs of definitions that are gone. -/
theorem ledger_prepared :
    (prepared db s).inner.ledger = s.inner.ledger.begin.forgetAllBut (loaded? db s) := by
  rw [prepared, loaded?]
  split
  · rw [inner_refreshed]
  · rw [inner_pinged]
    rfl

/-- A set that a cycle loads anew is the one that is active then. -/
theorem eq_published_of_loaded? {active : List Definition} (h : loaded? db s = some active) :
    active = published s := by
  rw [loaded?, DefinitionStore.freshSet?] at h
  split at h
  · split at h
    · exact (Option.some.inj h).symm
    · cases h
  · cases h

/-- Up to the tasks, a cycle forgets nothing about active definitions. -/
theorem sameFor_prepared {d : Definition} (hd : d ∈ published s) :
    (prepared db s).inner.ledger.SameFor d.identity s.inner.ledger := by
  rw [ledger_prepared]
  cases hloaded : loaded? db s with
  | none => exact ⟨rfl, rfl⟩
  | some active =>
    obtain rfl := eq_published_of_loaded? db s hloaded
    have hkept := Ledger.sameFor_forgetRemoved (List.mem_map_of_mem hd) s.inner.ledger.begin
    exact ⟨hkept.lastRun, hkept.lastSamples⟩

/-- **The end of a cycle.** However a cycle ends, the exporter is as after its tasks, but for what
the ledger says about the cycle itself. -/
theorem exists_inner_scrape :
    ∃ ledger : Ledger,
      ledger.SameRuns (afterTasks db tick (started db order s) (prepared db s)).inner.ledger ∧
      (run (scrape db order tick) s).state.inner =
        { (afterTasks db tick (started db order s) (prepared db s)).inner with ledger } := by
  -- the cases are the places where a cycle can end
  rw [started, prepared]
  cases hping : (pinged db s).result with
  | error failure =>
    rw [run_scrape_of_ping_error hping]
    exact ⟨_, ⟨rfl, rfl⟩, rfl⟩
  | ok up =>
    cases up with
    | false =>
      rw [run_scrape_of_down hping]
      exact ⟨_, Ledger.sameRuns_conclude .., rfl⟩
    | true =>
      cases hrefresh : (refreshed db s).result with
      | error failure =>
        rw [run_scrape_of_refresh_error hping hrefresh]
        exact ⟨_, ⟨rfl, rfl⟩, rfl⟩
      | ok _ =>
        rw [run_scrape_of_up hping hrefresh]
        dsimp only
        split
        · exact ⟨_, ⟨rfl, rfl⟩, rfl⟩
        · exact ⟨_, Ledger.sameRuns_conclude .., rfl⟩

/-- The runs after a cycle are those after its tasks. -/
theorem sameRuns_scrape :
    (run (scrape db order tick) s).state.inner.ledger.SameRuns
      (afterTasks db tick (started db order s) (prepared db s)).inner.ledger := by
  obtain ⟨ledger, hruns, hinner⟩ := exists_inner_scrape db order tick s
  rw [hinner]
  exact hruns

theorem settings_prepared : (prepared db s).inner.settings = s.inner.settings := by
  rw [prepared]
  split
  · rw [inner_refreshed]
  · rw [inner_pinged]
    rfl

/-- No cycle changes the settings. -/
theorem settings_scrape :
    (run (scrape db order tick) s).state.inner.settings = s.inner.settings := by
  obtain ⟨ledger, -, hinner⟩ := exists_inner_scrape db order tick s
  rw [hinner]
  exact (undisturbed_afterTasks db tick _ _).settings.trans (settings_prepared db s)

variable {db order tick s}

theorem prepared_of_up (h : (pinged db s).result = .ok true) :
    prepared db s = (refreshed db s).state := by
  rw [prepared, h]

theorem started_of_refreshed (h : (pinged db s).result = .ok true)
    (hrefresh : (refreshed db s).result = .ok ()) :
    started db order s = order.running (published s) := by
  rw [started, h, hrefresh]
  dsimp only
  rw [inner_refreshed]
  rfl

/-- A refreshed cycle whose samples can be grouped gives their families and the exporter's own. -/
theorem result_scrape_of_grouping (h : (pinged db s).result = .ok true)
    (hrefresh : (refreshed db s).result = .ok ()) {grouping : Grouping}
    (hgrouping : Grouping.ofSamples ((collected db order tick s).flatMap Outcome.samples) =
      .ok grouping) :
    (run (scrape db order tick) s).result = .ok (grouping.families ++
      (run (scrape db order tick) s).state.inner.ledger.ownFamilies s.inner.settings.ns
        (db.dbtype (run (scrape db order tick) s).state.inner.database)) := by
  -- the own families are named by the settings, which the tasks have left alone
  have hsettings : ∀ ds, (afterTasks db tick ds (refreshed db s).state).inner.settings =
      s.inner.settings := by
    intro ds
    rw [(undisturbed_afterTasks db tick ds _).settings, inner_refreshed]
  rw [collected, started, h, hrefresh, prepared_of_up h] at hgrouping
  rw [run_scrape_of_up h hrefresh]
  dsimp only at hgrouping ⊢
  rw [hgrouping]
  dsimp only
  rw [run_conclude]
  simp only [Except.map, hsettings]

/-- A refreshed cycle that ends with families has grouped the samples of its outcomes. -/
theorem exists_grouping_of_result {families : List Family} (h : (pinged db s).result = .ok true)
    (hrefresh : (refreshed db s).result = .ok ())
    (hfamilies : (run (scrape db order tick) s).result = .ok families) :
    ∃ grouping,
      Grouping.ofSamples ((collected db order tick s).flatMap Outcome.samples) = .ok grouping ∧
      families = grouping.families ++
        (run (scrape db order tick) s).state.inner.ledger.ownFamilies s.inner.settings.ns
          (db.dbtype (run (scrape db order tick) s).state.inner.database) := by
  cases hgrouping : Grouping.ofSamples ((collected db order tick s).flatMap Outcome.samples) with
  | ok grouping =>
    rw [result_scrape_of_grouping h hrefresh hgrouping] at hfamilies
    exact ⟨grouping, rfl, (Except.ok.inj hfamilies).symm⟩
  | error mismatch =>
    rw [collected, started, h, hrefresh, prepared_of_up h] at hgrouping
    rw [run_scrape_of_up h hrefresh] at hfamilies
    dsimp only at hgrouping hfamilies
    rw [hgrouping] at hfamilies
    cases hfamilies

/-- A cycle that is up and ends with families has refreshed its definitions. -/
theorem refreshed_of_result {families : List Family} (h : (pinged db s).result = .ok true)
    (hfamilies : (run (scrape db order tick) s).result = .ok families) :
    (refreshed db s).result = .ok () := by
  cases hrefresh : (refreshed db s).result with
  | ok _ => rfl
  | error failure =>
    rw [run_scrape_of_refresh_error h hrefresh] at hfamilies
    cases hfamilies

end Exporter

end QueryMetrics
