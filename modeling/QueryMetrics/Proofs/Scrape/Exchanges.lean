import QueryMetrics.Proofs.Scrape.History
import QueryMetrics.Proofs.View

/-!
# What a cycle asks

A cycle with a watched database is, through the view that forgets what is written down, the cycle
with the database itself (`Exporter.seenAs_scrape`). So what a cycle exchanges with its database can
be read off the cycle with the watched one: `Exporter.cycleExchanges`.

A cycle first makes contact. `Contact` lists the ways in which this can go: which calls are made,
with which replies, and what comes of them. From then on a cycle asks what its tasks ask, one after
another (`Exporter.cycleExchanges_eq`), and a task asks nothing but queries.
-/

namespace QueryMetrics

open QueryMetrics.Action

namespace Exchange

/-- The reply, if the call is a ping. -/
def ping? : Exchange → Option (Except Failure Unit)
  | ping reply => some reply
  | reconnect _ => none
  | query .. => none

/-- The reply, if the call is a reconnection. -/
def reconnect? : Exchange → Option (Except Failure Unit)
  | ping _ => none
  | reconnect reply => some reply
  | query .. => none

/-- The call is a query. -/
def isQuery : Exchange → Bool
  | ping _ => false
  | reconnect _ => false
  | query .. => true

end Exchange

/-! ### Databases seen through a view -/

/-- Through the view, the detailed database does what the plain one does. -/
structure Database.SeenAs {δ δ' : Type} (view : δ' → δ) (detailed : Database δ')
    (plain : Database δ) : Prop where
  ping : Action.SeenAs (Clocked.view view) detailed.ping plain.ping
  reconnect : Action.SeenAs (Clocked.view view) detailed.reconnect plain.reconnect
  query (statement : String) (timeout : Binary64) :
    Action.SeenAs (Clocked.view view) (detailed.query statement timeout)
      (plain.query statement timeout)
  dbtype (state : δ') : plain.dbtype (view state) = detailed.dbtype state

/-- A watched database is seen as the database that it watches. -/
theorem Database.seenAs_watched {δ : Type} (db : Database δ) :
    Database.SeenAs Watched.inner db.watched db :=
  ⟨fun _ => rfl, fun _ => rfl, fun _ _ _ => rfl, fun _ => rfl⟩

/-- The watched database with another view of the database; what is written down stays. -/
def Watched.viewed {δ δ' : Type} (view : δ' → δ) (state : Watched δ') : Watched δ :=
  ⟨view state.inner, state.exchanges⟩

theorem run_watching {δ α : Type} (entry : Except Failure α → Exchange)
    (action : Action (Clocked δ) ConnectionEvent α) (state : Clocked (Watched δ)) :
    run (watching entry action) state =
      let ran := run action ⟨state.clock, state.inner.inner⟩
      ⟨ran.result,
       ⟨ran.state.clock, ran.state.inner, state.inner.exchanges ++ [entry ran.result]⟩,
       ran.events⟩ := rfl

theorem seenAs_watching {δ δ' α : Type} {view : δ' → δ}
    {action : Action (Clocked δ') ConnectionEvent α}
    {action' : Action (Clocked δ) ConnectionEvent α}
    (h : Action.SeenAs (Clocked.view view) action action') (entry : Except Failure α → Exchange) :
    Action.SeenAs (Clocked.view (Watched.viewed view)) (watching entry action)
      (watching entry action') := by
  intro state
  have hrun : run action' ⟨state.clock, view state.inner.inner⟩ = _ :=
    h ⟨state.clock, state.inner.inner⟩
  simp only [run_watching, Clocked.view, Watched.viewed]
  rw [hrun]
  rfl

/-- Watching two databases, one of which is a view of the other, gives the same to write down. -/
theorem Database.SeenAs.watched {δ δ' : Type} {view : δ' → δ} {detailed : Database δ'}
    {plain : Database δ} (h : Database.SeenAs view detailed plain) :
    Database.SeenAs (Watched.viewed view) detailed.watched plain.watched :=
  ⟨seenAs_watching h.ping _, seenAs_watching h.reconnect _,
    fun _ _ => seenAs_watching (h.query _ _) _, fun state => h.dbtype state.inner⟩

namespace Exporter

variable {δ δ' α : Type}

/-- The exporter with another view of its database. -/
def viewed (view : δ' → δ) (s : Clocked (Exporter δ')) : Clocked (Exporter δ) :=
  ⟨s.clock, { s.inner with database := view s.inner.database }⟩

variable {view : δ' → δ} {detailed : Database δ'} {plain : Database δ}

theorem seenAs_ask {action : Action (Clocked δ') ConnectionEvent α}
    {action' : Action (Clocked δ) ConnectionEvent α}
    (h : Action.SeenAs (Clocked.view view) action action') :
    Action.SeenAs (viewed view) (ask action) (ask action') :=
  h.on _ (fun _ => rfl) fun _ _ => rfl

theorem seenAs_takeDown (change : Ledger → Ledger) :
    Action.SeenAs (viewed view) (takeDown change : ExporterAction δ' Unit) (takeDown change) :=
  seenAs_modify fun _ => rfl

/-- Refreshing the definitions leaves the database alone. -/
theorem seenAs_refresh :
    Action.SeenAs (viewed view) (refresh : ExporterAction δ' Unit) refresh := by
  intro s
  rw [run_refresh, run_refresh]
  rfl

theorem seenAs_ping (h : Database.SeenAs view detailed plain) :
    Action.SeenAs (viewed view) (ping detailed) (ping plain) := by
  have hreconnect : Action.SeenAs (viewed view) (reconnect detailed) (reconnect plain) :=
    (seenAs_ask h.reconnect).catching fun _ => seenAs_report _
  have hagain : Action.SeenAs (viewed view) (pingAgain detailed) (pingAgain plain) :=
    ((seenAs_ask h.ping).bind fun _ => seenAs_pure true).catching fun _ =>
      (seenAs_report _).bind fun _ => seenAs_pure false
  refine ((seenAs_ask h.ping).bind fun _ => seenAs_pure true).catching fun failure => ?_
  rw [recover, recover]
  split
  · exact (seenAs_report _).bind fun _ => hreconnect.bind fun _ => hagain
  · exact hagain

theorem seenAs_runDue (h : Database.SeenAs view detailed plain) (tick : Option Binary64)
    (d : Definition) :
    Action.SeenAs (viewed view) (runDue detailed tick d) (runDue plain tick d) := by
  have hquery : Action.SeenAs (viewed view) (querySamples detailed d) (querySamples plain d) := by
    refine (seenAs_gets fun _ => rfl).bind fun settings => ?_
    refine (seenAs_ofExcept _).bind fun timeout => ?_
    refine (seenAs_ask (h.query _ _)).bind fun rows => ?_
    exact (seenAs_report _).bind fun _ => seenAs_pure _
  refine hquery.bind fun samples => ?_
  split
  · exact seenAs_fail _
  · cases tick with
    | none => exact seenAs_pure samples
    | some tick => exact (seenAs_takeDown _).bind fun _ => seenAs_pure samples

theorem seenAs_task (h : Database.SeenAs view detailed plain) (tick : Option Binary64)
    (d : Definition) :
    Action.SeenAs (viewed view) (task detailed tick d) (task plain tick d) := by
  rw [task, task]
  split
  · exact seenAs_fail _
  · refine (seenAs_gets fun _ => rfl).bind fun ledger => ?_
    refine (seenAs_ofExcept _).bind fun due => ?_
    split
    · exact seenAs_runDue h tick d
    · exact seenAs_pure _

theorem seenAs_runAll (h : Database.SeenAs view detailed plain) (tick : Option Binary64)
    (ds : List Definition) :
    Action.SeenAs (viewed view) (runAll detailed tick ds) (runAll plain tick ds) := by
  induction ds with
  | nil => exact seenAs_pure []
  | cons d rest ih =>
    exact (seenAs_task h tick d).attempt.bind fun result => ih.bind fun outcomes => seenAs_pure _

theorem seenAs_conclude (h : Database.SeenAs view detailed plain) (began : Binary64) (up : Bool)
    (outcomes : List Outcome) :
    Action.SeenAs (viewed view) (conclude detailed began up outcomes)
      (conclude plain began up outcomes) := by
  intro s
  rw [run_conclude, run_conclude]
  dsimp only [viewed]
  rw [h.dbtype]

/-- **A cycle through a view.** A cycle with a database of which the view is another database is
seen as a cycle with that one. -/
theorem seenAs_scrape (h : Database.SeenAs view detailed plain) (order : TaskOrder)
    (tick : Option Binary64) :
    Action.SeenAs (viewed view) (scrape detailed order tick) (scrape plain order tick) := by
  have hexpose (samples : List Sample) :
      Action.SeenAs (viewed view) (expose samples : ExporterAction δ' _) (expose samples) :=
    (seenAs_ofExcept _).bind fun _ => (seenAs_report _).bind fun _ => seenAs_pure _
  have hgather : Action.SeenAs (viewed view) (gather detailed order tick)
      (gather plain order tick) := by
    refine seenAs_refresh.bind fun _ => ?_
    refine (seenAs_gets fun _ => rfl).bind fun store => ?_
    refine ((seenAs_runAll h tick _).map order.collecting).bind fun outcomes => ?_
    exact (hexpose _).bind fun families => seenAs_pure _
  refine (seenAs_gets fun _ => rfl).bind fun began => ?_
  refine (seenAs_takeDown _).bind fun _ => ?_
  refine (seenAs_ping h).bind fun up => ?_
  have hreport (gathered : List Outcome × List Family) := (seenAs_conclude h began up
    gathered.1).bind fun own => seenAs_pure (gathered.2 ++ own)
  cases up with
  | false => exact hreport ([], [])
  | true => exact hgather.bind hreport

/-! ### Making contact -/

/-- What a second ping comes to: that the database cannot be reached is no failure. -/
def secondPing : Except Failure Unit → Except Failure Bool
  | .ok () => .ok true
  | .error failure => if failure.isDatabase then .ok false else .error failure

section Ping

variable (db : Database δ) (s : Clocked (Exporter δ))

/-- A ping whose success is told by a value. -/
private theorem run_pinging :
    run (do ask db.ping; pure true : ExporterAction δ Bool) s =
      ⟨(run (ask db.ping) s).result.map fun _ => true, (run (ask db.ping) s).state,
        (run (ask db.ping) s).events⟩ :=
  run_map (fun _ => true) (ask db.ping) s

theorem run_pingAgain :
    (run (pingAgain db) s).result = secondPing (run (ask db.ping) s).result ∧
      (run (pingAgain db) s).state = (run (ask db.ping) s).state := by
  have hpinging := run_pinging db s
  cases h : (run (ask db.ping) s).result with
  | ok _ =>
    have hok := congrArg Ran.result hpinging
    rw [h] at hok
    rw [pingAgain, run_catching_ok hok, hpinging, h]
    exact ⟨rfl, rfl⟩
  | error failure =>
    have herror := congrArg Ran.result hpinging
    rw [h] at herror
    cases hdatabase : failure.isDatabase with
    | true =>
      rw [pingAgain, run_catching_caught herror hdatabase, hpinging, secondPing, hdatabase]
      exact ⟨rfl, rfl⟩
    | false =>
      rw [pingAgain, run_catching_uncaught herror hdatabase, hpinging, h, secondPing, hdatabase]
      exact ⟨rfl, rfl⟩

/-- A reconnection fails only if it fails otherwise than a database does. -/
theorem run_reconnect :
    ((∃ failure, (run (ask db.reconnect) s).result = .error failure ∧
        failure.isDatabase = false ∧ (run (reconnect db) s).result = .error failure) ∨
      ((∀ failure, (run (ask db.reconnect) s).result = .error failure →
        failure.isDatabase = true) ∧ (run (reconnect db) s).result = .ok ())) ∧
    (run (reconnect db) s).state = (run (ask db.reconnect) s).state := by
  cases h : (run (ask db.reconnect) s).result with
  | ok _ =>
    rw [reconnect, run_catching_ok h]
    exact ⟨.inr ⟨nofun, h⟩, rfl⟩
  | error failure =>
    cases hdatabase : failure.isDatabase with
    | true =>
      rw [reconnect, run_catching_caught h hdatabase]
      refine ⟨.inr ⟨fun other hother => ?_, rfl⟩, rfl⟩
      cases hother
      exact hdatabase
    | false =>
      rw [reconnect, run_catching_uncaught h hdatabase]
      exact ⟨.inl ⟨failure, rfl, hdatabase, h⟩, rfl⟩

/-- What follows a closed session: the exporter reconnects, and pings again unless this failed. -/
theorem run_recover_of_closed {failure : Failure} (h : failure.isSessionClosed = true) :
    let ran := run (recover db failure) s
    let renewed := run (ask db.reconnect) s
    let second := run (ask db.ping) renewed.state
    (∃ other, renewed.result = .error other ∧ other.isDatabase = false ∧
        ran.result = .error other ∧ ran.state = renewed.state) ∨
      ((∀ other, renewed.result = .error other → other.isDatabase = true) ∧
        ran.result = secondPing second.result ∧ ran.state = second.state) := by
  intro ran renewed second
  have hran : ran = run (do report [.sessionClosed failure]; reconnect db; pingAgain db) s := by
    change run (recover db failure) s = _
    rw [recover, if_pos h]
  obtain ⟨⟨other, hother, hforeign, hfails⟩ | ⟨htold, hdone⟩, hafter⟩ := run_reconnect db s
  · refine .inl ⟨other, hother, hforeign, ?_, ?_⟩
    · rw [hran]
      simp [run_bind, hfails]
    · rw [hran]
      simp [run_bind, hfails, hafter, renewed]
  · obtain ⟨hresult, hlast⟩ := run_pingAgain db (run (reconnect db) s).state
    rw [hafter] at hresult hlast
    refine .inr ⟨htold, ?_, ?_⟩
    · rw [hran, ← hresult, ← hafter]
      simp [run_bind, hdone]
    · rw [hran, ← hlast, ← hafter]
      simp [run_bind, hdone]

/-- **How pinging goes.** A first ping that succeeds is all. After a failure that is none of the
database, nothing more is done. After a closed session the exporter reconnects, and after any
failure of the database it pings again. -/
theorem ping_cases :
    let ran := run (ping db) s
    let first := run (ask db.ping) s
    let renewed := run (ask db.reconnect) first.state
    (first.result = .ok () ∧ ran.result = .ok true ∧ ran.state = first.state) ∨
    ∃ failure, first.result = .error failure ∧
      ((failure.isDatabase = false ∧ ran.result = .error failure ∧ ran.state = first.state) ∨
        (failure.isDatabase = true ∧ failure.isSessionClosed = false ∧
          ran.result = secondPing (run (ask db.ping) first.state).result ∧
          ran.state = (run (ask db.ping) first.state).state) ∨
        (failure.isSessionClosed = true ∧
          ((∃ other, renewed.result = .error other ∧ other.isDatabase = false ∧
              ran.result = .error other ∧ ran.state = renewed.state) ∨
            ((∀ other, renewed.result = .error other → other.isDatabase = true) ∧
              ran.result = secondPing (run (ask db.ping) renewed.state).result ∧
              ran.state = (run (ask db.ping) renewed.state).state)))) := by
  intro ran first renewed
  have hpinging := run_pinging db s
  cases h : first.result with
  | ok _ =>
    have hok := congrArg Ran.result hpinging
    rw [show (run (ask db.ping) s).result = .ok _ from h] at hok
    have hran : ran = _ := (run_catching_ok hok).trans hpinging
    refine .inl ⟨rfl, ?_, ?_⟩
    · rw [hran, show (run (ask db.ping) s).result = .ok _ from h]
      rfl
    · rw [hran]
  | error failure =>
    have herror := congrArg Ran.result hpinging
    rw [show (run (ask db.ping) s).result = .error failure from h] at herror
    refine .inr ⟨failure, rfl, ?_⟩
    cases hdatabase : failure.isDatabase with
    | false =>
      have hran : ran = _ := (run_catching_uncaught herror hdatabase).trans hpinging
      refine .inl ⟨rfl, ?_, ?_⟩
      · rw [hran, show (run (ask db.ping) s).result = .error failure from h]
        rfl
      · rw [hran]
    | true =>
      -- what follows begins from the state that the first ping left
      have hran : ran = _ := run_catching_caught herror hdatabase
      rw [hpinging] at hran
      refine .inr ?_
      cases hclosed : failure.isSessionClosed with
      | false =>
        rw [recover, hclosed, if_neg Bool.false_ne_true] at hran
        obtain ⟨hresult, hafter⟩ := run_pingAgain db first.state
        refine .inl ⟨rfl, rfl, ?_, ?_⟩
        · rw [hran]
          exact hresult
        · rw [hran]
          exact hafter
      | true =>
        refine .inr ⟨rfl, ?_⟩
        rw [hran]
        exact run_recover_of_closed db first.state hclosed

end Ping

/-- The ways in which a cycle makes contact with its database: the calls with their replies, and
what comes of them. -/
inductive Contact : List Exchange → Except Failure Bool → Prop where
  /-- The database answers at once. -/
  | answered : Contact [.ping (.ok ())] (.ok true)
  /-- Pinging fails otherwise than a database does. -/
  | broken {failure : Failure} (foreign : failure.isDatabase = false) :
    Contact [.ping (.error failure)] (.error failure)
  /-- The session is there, and the database is pinged again. -/
  | repeated {failure : Failure} {reply : Except Failure Unit}
      (database : failure.isDatabase = true) (still : failure.isSessionClosed = false) :
    Contact [.ping (.error failure), .ping reply] (secondPing reply)
  /-- The session is closed, and the exporter reconnects before it pings again. -/
  | renewed {failure : Failure} {renewal reply : Except Failure Unit}
      (closed : failure.isSessionClosed = true)
      (database : ∀ other, renewal = .error other → other.isDatabase = true) :
    Contact [.ping (.error failure), .reconnect renewal, .ping reply] (secondPing reply)
  /-- The session is closed, and reconnecting fails otherwise than a database does. -/
  | stranded {failure other : Failure} (closed : failure.isSessionClosed = true)
      (foreign : other.isDatabase = false) :
    Contact [.ping (.error failure), .reconnect (.error other)] (.error other)

/-- No query is asked while contact is made. -/
theorem Contact.isQuery_eq_false {exchanges : List Exchange} {result : Except Failure Bool}
    (h : Contact exchanges result) : ∀ exchange ∈ exchanges, exchange.isQuery = false := by
  cases h <;> simp [Exchange.isQuery]

section Exchanges

variable (db : Database δ) (order : TaskOrder) (tick : Option Binary64) (s : Clocked (Exporter δ))

/-- What a cycle exchanges with its database while it makes contact. -/
def contact : List Exchange :=
  (pinged db.watched (watched s)).state.inner.database.exchanges

/-- What a cycle exchanges with its database. -/
def cycleExchanges : List Exchange :=
  (run (scrape db.watched order tick) (watched s)).state.inner.database.exchanges

/-- Watching changes nothing about a cycle. -/
theorem run_scrape_watched :
    run (scrape db order tick) s =
      ⟨(run (scrape db.watched order tick) (watched s)).result,
       unwatched (run (scrape db.watched order tick) (watched s)).state,
       (run (scrape db.watched order tick) (watched s)).events⟩ :=
  seenAs_scrape db.seenAs_watched order tick (watched s)

theorem pinged_watched :
    pinged db s = ⟨(pinged db.watched (watched s)).result,
      unwatched (pinged db.watched (watched s)).state,
      (pinged db.watched (watched s)).events⟩ :=
  seenAs_ping db.seenAs_watched (begun (watched s))

theorem refreshed_watched :
    refreshed db s = ⟨(refreshed db.watched (watched s)).result,
      unwatched (refreshed db.watched (watched s)).state,
      (refreshed db.watched (watched s)).events⟩ := by
  rw [refreshed, pinged_watched]
  exact seenAs_refresh (pinged db.watched (watched s)).state

theorem started_watched : started db.watched order (watched s) = started db order s := by
  rw [started, started, pinged_watched db s, refreshed_watched db s]
  rfl

theorem prepared_watched : prepared db s = unwatched (prepared db.watched (watched s)) := by
  rw [prepared, prepared, pinged_watched db s, refreshed_watched db s]
  dsimp only
  split <;> rfl

/-- A watched ping is written down with its reply. -/
private theorem exchanges_ping (t : Clocked (Exporter (Watched δ))) :
    (run (ask db.watched.ping) t).state.inner.database.exchanges =
      t.inner.database.exchanges ++ [.ping (run (ask db.watched.ping) t).result] := rfl

private theorem exchanges_reconnect (t : Clocked (Exporter (Watched δ))) :
    (run (ask db.watched.reconnect) t).state.inner.database.exchanges =
      t.inner.database.exchanges ++ [.reconnect (run (ask db.watched.reconnect) t).result] := rfl

/-- Making contact goes in one of the ways that there are. -/
theorem contact_pinged : Contact (contact db s) (pinged db s).result := by
  have hempty : (begun (watched s)).inner.database.exchanges = [] := rfl
  rw [pinged_watched db s, contact]
  obtain ⟨hfirst, hresult, hstate⟩ | ⟨failure, hfirst, hends⟩ :=
    ping_cases db.watched (begun (watched s))
  · rw [pinged, hresult, hstate, exchanges_ping, hfirst, hempty]
    exact .answered
  · obtain ⟨hforeign, hresult, hstate⟩ | ⟨hdatabase, hstill, hresult, hstate⟩ |
      ⟨hclosed, ⟨other, hother, hforeign, hresult, hstate⟩ | ⟨htold, hresult, hstate⟩⟩ := hends
    · rw [pinged, hresult, hstate, exchanges_ping, hfirst, hempty]
      exact .broken hforeign
    · rw [pinged, hresult, hstate, exchanges_ping, exchanges_ping, hfirst, hempty]
      exact .repeated hdatabase hstill
    · rw [pinged, hresult, hstate, exchanges_reconnect, exchanges_ping, hother, hfirst, hempty]
      exact .stranded hclosed hforeign
    · rw [pinged, hresult, hstate, exchanges_ping, exchanges_reconnect, exchanges_ping, hfirst,
        hempty]
      exact .renewed hclosed htold

/-- The first thing that a cycle exchanges is a ping. -/
theorem head?_contact :
    (contact db s).head? = some (.ping (run (ask db.ping) (begun s)).result) := by
  have hempty : (begun (watched s)).inner.database.exchanges = [] := rfl
  have hreply : (run (ask db.watched.ping) (begun (watched s))).result =
      (run (ask db.ping) (begun s)).result := rfl
  rw [contact, pinged, ← hreply]
  obtain ⟨-, -, hstate⟩ | ⟨failure, -, ⟨-, -, hstate⟩ | ⟨-, -, -, hstate⟩ |
    ⟨-, ⟨-, -, -, -, hstate⟩ | ⟨-, -, hstate⟩⟩⟩ := ping_cases db.watched (begun (watched s))
  · rw [hstate, exchanges_ping, hempty]
    rfl
  · rw [hstate, exchanges_ping, hempty]
    rfl
  · rw [hstate, exchanges_ping, exchanges_ping, hempty]
    rfl
  · rw [hstate, exchanges_reconnect, exchanges_ping, hempty]
    rfl
  · rw [hstate, exchanges_ping, exchanges_reconnect, exchanges_ping, hempty]
    rfl

/-- A view of the database changes nothing about what is exchanged with it. -/
theorem cycleExchanges_viewed {detailed : Database δ'} (h : Database.SeenAs view detailed db)
    (t : Clocked (Exporter δ')) :
    cycleExchanges db order tick (viewed view t) = cycleExchanges detailed order tick t := by
  have hcycle := seenAs_scrape h.watched order tick (watched t)
  exact congrArg (fun ran => ran.state.inner.database.exchanges) hcycle

/-! ### Asking for samples -/

/-- What a task exchanges is written down behind what was exchanged before. -/
theorem exchanges_task (d : Definition) (t : Clocked (Exporter (Watched δ))) :
    (run (task db.watched tick d) t).state.inner.database.exchanges =
      t.inner.database.exchanges ++ exchanges db tick d (unwatched t) := by
  rw [exchanges]
  obtain ⟨hproblems, h⟩ | ⟨hproblems, hdue, h⟩ | ⟨hproblems, hdue, timeout, htimeout, h⟩ :=
    task_cases db.watched tick d t
  · rw [h, run_task_of_problems hproblems]
    exact (List.append_nil _).symm
  · rw [h, run_task_of_not_due (s := watched (unwatched t)) hproblems hdue]
    exact (List.append_nil _).symm
  · rw [h, run_task_of_due (s := watched (unwatched t)) hproblems hdue,
      run_runDue db.watched tick d (watched (unwatched t)) htimeout]
    rfl

theorem exchanges_afterTasks (ds : List Definition) (t : Clocked (Exporter (Watched δ))) :
    (afterTasks db.watched tick ds t).inner.database.exchanges =
      t.inner.database.exchanges ++
        (taskRuns db tick ds (unwatched t)).flatMap TaskRun.exchanges := by
  induction ds generalizing t with
  | nil => exact (List.append_nil _).symm
  | cons d rest ih =>
    have hstate : unwatched (run (task db.watched tick d) t).state =
        (run (task db tick d) (unwatched t)).state := by
      rw [run_task_watched]
    rw [afterTasks, ih, exchanges_task, hstate, List.append_assoc]
    rfl

/-- A task asks queries only. -/
theorem isQuery_of_mem_exchanges {ds : List Definition} {exchange : Exchange}
    (h : exchange ∈ (taskRuns db tick ds s).flatMap TaskRun.exchanges) :
    exchange.isQuery = true := by
  obtain ⟨r, hr, hexchange⟩ := List.mem_flatMap.mp h
  obtain ⟨turn, -, hturn⟩ := exists_of_mem_taskRuns hr
  rw [hturn] at hexchange
  obtain ⟨-, hrun, -⟩ | ⟨-, -, hrun, -⟩ | ⟨-, -, timeout, reply, -, hrun, -⟩ :=
    taskRun_cases db tick r.definition turn
  · rw [hrun] at hexchange
    cases hexchange
  · rw [hrun] at hexchange
    cases hexchange
  · rw [hrun] at hexchange
    obtain rfl := List.mem_singleton.mp hexchange
    rfl

/-- **What a cycle exchanges.** A cycle makes contact, and then asks what its tasks ask. -/
theorem cycleExchanges_eq :
    cycleExchanges db order tick s =
      contact db s ++ (cycleRuns db order tick s).flatMap TaskRun.exchanges := by
  obtain ⟨ledger, -, hinner⟩ := exists_inner_scrape db.watched order tick (watched s)
  -- a refresh leaves the database alone, so the tasks begin with what the contact exchanged
  have hprepared : (prepared db.watched (watched s)).inner.database.exchanges = contact db s := by
    rw [prepared]
    split
    · rw [inner_refreshed]
      rfl
    · rfl
  rw [cycleExchanges, hinner]
  dsimp only
  rw [exchanges_afterTasks, started_watched, ← prepared_watched, hprepared, cycleRuns]

end Exchanges

end Exporter

end QueryMetrics
