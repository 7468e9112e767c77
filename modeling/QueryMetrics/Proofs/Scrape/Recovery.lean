import QueryMetrics.Proofs.Connection.Custody
import QueryMetrics.Proofs.Scrape.Abort
import QueryMetrics.Proofs.Scrape.Protocol
import QueryMetrics.Scripted.Driver

/-!
# Outages and recovery

A connection without a pool counts as closed, so every cycle that begins without one tries to
connect (`Exporter.pinged_of_none`). Whatever came before, the cycle is up as soon as a pool can be
created whose session answers, and all that it asks of the driver from then on are visits of the new
pool (`Exporter.calls_of_cycle`). A cycle that is not up says so, and leaves the rest alone.

With the protocol of a cycle, this is `Exporter.recovers_from_outage`.
-/

namespace QueryMetrics

open QueryMetrics.Action

/-! ### Connections without a pool -/

/-- A view of a driver gives a view of the database behind it. -/
theorem Driver.seenAs_database {ε ε' : Type} {view : ε' → ε} {detailed : Driver ε'}
    {plain : Driver ε} (h : Driver.SeenAs view detailed plain) :
    Database.SeenAs (Link.viewed view) detailed.database plain.database :=
  ⟨Link.seenAs_ping h, Link.seenAs_reconnect h, Link.seenAs_query h, fun _ => rfl⟩

namespace Link

variable {ε : Type}

/-- A session of the pool can be acquired, answers, and can be given back. -/
def SessionAnswers (driver : Driver ε) (pool : PoolId) (s : Clocked (Link ε)) : Prop :=
  let acquired := run (call (driver.acquire pool)) s
  ∃ session, acquired.result = .ok session ∧
    let answered := run (call (driver.ping session)) acquired.state
    answered.result = .ok () ∧ (run (call (driver.release session)) answered.state).result = .ok ()

/-- A ping is answered if a session answers. -/
theorem result_ping_of_answers {driver : Driver ε} {s : Clocked (Link ε)} {pool : PoolId}
    (hheld : s.inner.connection.pool = some pool) (h : SessionAnswers driver pool s) :
    (run (ping driver) s).result = .ok () := by
  obtain ⟨session, hacquired, hanswered, hreleased⟩ := h
  have hrequire := run_requirePool_of_held hheld
  rw [ping, run_bind_ok (congrArg Ran.result hrequire), hrequire, run_mapFailure, withSession,
    run_bind_ok hacquired, run_andFinally, hreleased, hanswered]
  rfl

/-- Without a pool, to reconnect is to connect. -/
theorem reconnect_of_none (driver : Driver ε) {s : Clocked (Link ε)}
    (h : s.inner.connection.pool = none) :
    (run (reconnect driver) s).result = (run (connect driver) s).result ∧
      (run (reconnect driver) s).state = (run (connect driver) s).state := by
  have hclose := run_close_of_none driver h
  obtain ⟨failure, hfailure, -, -⟩ | ⟨-, hresult, hstate⟩ := reconnect_cases driver s
  · rw [hclose] at hfailure
    cases hfailure
  · rw [hclose] at hresult hstate
    exact ⟨hresult, hstate⟩

/-- A connection without a pool reconnects with a pool if one can be created. -/
theorem pool_reconnect (driver : Driver ε) {s : Clocked (Link ε)}
    (h : s.inner.connection.pool = none) :
    (run (reconnect driver) s).state.inner.connection.pool =
      (creation driver s).result.toOption := by
  have hseen := seenAs_connect driver.seenAs_recorded (recorded s)
  have hstate : (run (connect driver) s).state = unrecorded _ := congrArg Ran.state hseen
  rw [(reconnect_of_none driver h).2, hstate]
  obtain ⟨failure, hcreated, hasked⟩ | ⟨pool, made, hcreated, -, -, hpool⟩ :=
    made_connect driver (recorded s)
  · rw [show (creation driver s).result = _ from hcreated]
    exact hasked.pool.trans h
  · rw [show (creation driver s).result = _ from hcreated]
    exact hpool

end Link

/-! ### Visits in a row -/

/-- From one state to another, the driver was asked for this many visits of the pool. -/
def Visited {ε : Type} (pool : PoolId) (n : Nat) (s t : Clocked (Link (Recorded ε))) : Prop :=
  ∃ visits : List (List PoolCall), visits.length = n ∧ (∀ visit ∈ visits, Visit pool visit) ∧
    Link.Asked s t visits.flatten

namespace Visited

variable {ε : Type} {pool : PoolId} {n m : Nat} {s t u : Clocked (Link (Recorded ε))}

theorem refl (s : Clocked (Link (Recorded ε))) : Visited pool 0 s s :=
  ⟨[], rfl, nofun, .refl s⟩

theorem single {made : List PoolCall} (h : Visit pool made) (hasked : Link.Asked s t made) :
    Visited pool 1 s t := by
  refine ⟨[made], rfl, fun visit hvisit => ?_, ?_⟩
  · rw [List.mem_singleton.mp hvisit]
    exact h
  · rw [List.flatten_singleton]
    exact hasked

theorem trans (h : Visited pool n s t) (h' : Visited pool m t u) : Visited pool (n + m) s u := by
  obtain ⟨visits, hlength, hvisits, hasked⟩ := h
  obtain ⟨visits', hlength', hvisits', hasked'⟩ := h'
  refine ⟨visits ++ visits', ?_, List.forall_mem_append.mpr ⟨hvisits, hvisits'⟩, ?_⟩
  · rw [List.length_append, hlength, hlength']
  · rw [List.flatten_append]
    exact hasked.trans hasked'

theorem pool_eq (h : Visited pool n s t) :
    t.inner.connection.pool = s.inner.connection.pool := by
  obtain ⟨visits, -, -, hasked⟩ := h
  exact hasked.pool

end Visited

namespace Exporter

variable {ε δ : Type}

/-- The database of an exporter, at the moment. -/
def site (s : Clocked (Exporter δ)) : Clocked δ := ⟨s.clock, s.inner.database⟩

/-- The exporter before any call of its driver is written down. -/
def recordedDriver (s : Clocked (Exporter (Link ε))) : Clocked (Exporter (Link (Recorded ε))) :=
  ⟨s.clock, { s.inner with database := (Link.recorded (site s)).inner }⟩

/-- What a cycle asks of the driver. -/
def driverCalls (driver : Driver ε) (order : TaskOrder) (tick : Option Binary64)
    (s : Clocked (Exporter (Link ε))) : List PoolCall :=
  (run (scrape driver.recorded.database order tick) (recordedDriver s)).state.inner.database
    |>.driver.calls

/-- Without a pool, the first ping finds the session closed. -/
theorem firstPing_of_none (driver : Driver ε) {s : Clocked (Exporter (Link ε))}
    (h : s.inner.database.connection.pool = none) :
    run (ask driver.database.ping) (begun s) = ⟨.error Link.notOpen, begun s, []⟩ := by
  have hping : run driver.database.ping ⟨(begun s).clock, (begun s).inner.database⟩ =
      ⟨.error Link.notOpen, site s, []⟩ :=
    Link.run_ping_of_none driver h
  rw [ask, run_on]
  simp only [hping]
  rfl

/-- A cycle without a pool reconnects, and pings what it is connected to then. -/
theorem pinged_of_none (driver : Driver ε) {s : Clocked (Exporter (Link ε))}
    (h : s.inner.database.connection.pool = none) {up : Bool}
    (hup : (pinged driver.database s).result = .ok up) :
    let again := run (Link.ping driver) (run (Link.reconnect driver) (site s)).state
    secondPing again.result = .ok up ∧ site (pinged driver.database s).state = again.state := by
  intro again
  have hcases := ping_cases driver.database (begun s)
  rw [firstPing_of_none driver h] at hcases
  obtain ⟨hok, -, -⟩ | ⟨failure, hfailure, hends⟩ := hcases
  · cases hok
  · obtain rfl := Except.error.inj hfailure
    obtain ⟨hforeign, -, -⟩ | ⟨-, hstill, -, -⟩ |
      ⟨-, ⟨other, -, -, hresult, -⟩ | ⟨-, hresult, hstate⟩⟩ := hends
    · cases hforeign
    · cases hstill
    · cases hup.symm.trans hresult
    · exact ⟨hresult.symm.trans hup, congrArg site hstate⟩

/-- A task visits the pool that is held as often as it asks something. -/
theorem visited_task (driver : Driver ε) (tick : Option Binary64) (d : Definition)
    {s : Clocked (Exporter (Link (Recorded ε)))} {pool : PoolId}
    (h : s.inner.database.connection.pool = some pool) :
    Visited pool (exchanges driver.recorded.database tick d s).length (site s)
      (site (run (task driver.recorded.database tick d) s).state) := by
  obtain ⟨-, hrun, hstate⟩ | ⟨-, -, hrun, hstate⟩ | ⟨hproblems, hdue, timeout, reply, htimeout,
    hrun, -⟩ := taskRun_cases driver.recorded.database tick d s
  · rw [show exchanges _ tick d s = [] from congrArg TaskRun.exchanges hrun, hstate]
    exact .refl _
  · rw [show exchanges _ tick d s = [] from congrArg TaskRun.exchanges hrun, hstate]
    exact .refl _
  · obtain ⟨made, hvisit, hasked⟩ :=
      Link.visits_query driver d.request timeout (s := site s) h
    rw [show exchanges _ tick d s = [_] from congrArg TaskRun.exchanges hrun,
      run_task_of_due hproblems hdue, run_runDue _ tick d s htimeout]
    exact .single hvisit hasked

theorem visited_afterTasks (driver : Driver ε) (tick : Option Binary64) (ds : List Definition)
    {s : Clocked (Exporter (Link (Recorded ε)))} {pool : PoolId}
    (h : s.inner.database.connection.pool = some pool) :
    Visited pool
      ((taskRuns driver.recorded.database tick ds s).flatMap TaskRun.exchanges).length (site s)
      (site (afterTasks driver.recorded.database tick ds s)) := by
  induction ds generalizing s with
  | nil => exact .refl _
  | cons d rest ih =>
    have htask := visited_task driver tick d h
    have hrest := ih (htask.pool_eq.trans h)
    rw [taskRuns, List.flatMap_cons, List.length_append]
    exact htask.trans hrest

/-- What a cycle asks of the driver if it is up and had no pool: it creates one and visits it, once
for what there is to know about the database, once for the ping, and once for every query. -/
theorem calls_of_cycle (driver : Driver ε) (order : TaskOrder) (tick : Option Binary64)
    {s : Clocked (Exporter (Link (Recorded ε)))} (h : s.inner.database.connection.pool = none)
    {pool : PoolId} (hcreated : (Link.creation driver.recorded (site s)).result = .ok pool)
    (hup : (pinged driver.recorded.database s).result = .ok true) :
    let runs := cycleRuns driver.recorded.database order tick s
    let t := (run (scrape driver.recorded.database order tick) s).state.inner.database
    t.connection.pool = some pool ∧
    ∃ visits : List (List PoolCall),
      t.driver.calls = s.inner.database.driver.calls ++ .create (.ok pool) :: visits.flatten ∧
      (∀ visit ∈ visits, Visit pool visit) ∧
      visits.length = 2 + (runs.flatMap TaskRun.exchanges).length := by
  intro runs t
  let renewed := (run (Link.reconnect driver.recorded) (site s)).state
  have hrenewed : renewed = (run (Link.connect driver.recorded) (site s)).state :=
    (Link.reconnect_of_none driver.recorded h).2
  obtain ⟨failure, hfailure, -⟩ | ⟨pool', made, hpool', hvisit, hcalls, hheld⟩ :=
    Link.made_connect driver (site s)
  · cases hcreated.symm.trans hfailure
  obtain rfl : pool = pool' := Except.ok.inj (hcreated.symm.trans hpool')
  rw [← hrenewed] at hcalls hheld
  -- the second ping, and then the tasks, begin with the pool that was created
  obtain ⟨-, hpinged⟩ := pinged_of_none driver.recorded h hup
  obtain ⟨again, hagain, hasked⟩ := Link.visits_ping driver hheld
  have hprepared : (prepared driver.recorded.database s).inner.database =
      (run (Link.ping driver.recorded) renewed).state.inner := by
    rw [prepared_of_up hup, inner_refreshed]
    exact congrArg Clocked.inner hpinged
  have hpool : (prepared driver.recorded.database s).inner.database.connection.pool =
      some pool := by
    rw [hprepared, hasked.pool, hheld]
  have hbefore : (prepared driver.recorded.database s).inner.database.driver.calls =
      s.inner.database.driver.calls ++ .create (.ok pool) :: (made ++ again) := by
    rw [hprepared, hasked.calls, hcalls, List.append_assoc]
    rfl
  obtain ⟨visits, hlength, hvisits, htasks⟩ := visited_afterTasks driver tick
    (started driver.recorded.database order s) hpool
  obtain ⟨ledger, -, hinner⟩ := exists_inner_scrape driver.recorded.database order tick s
  have ht : t = (afterTasks driver.recorded.database tick
      (started driver.recorded.database order s)
      (prepared driver.recorded.database s)).inner.database := by
    change (run (scrape driver.recorded.database order tick) s).state.inner.database = _
    rw [hinner]
  rw [ht]
  refine ⟨htasks.pool.trans hpool, made :: again :: visits, ?_, ?_, ?_⟩
  · refine htasks.calls.trans ?_
    change (prepared driver.recorded.database s).inner.database.driver.calls ++ _ = _
    rw [hbefore, List.append_assoc, List.flatten_cons, List.flatten_cons, List.cons_append,
      List.append_assoc]
  · intro visit hmem
    obtain rfl | hmem := List.mem_cons.mp hmem
    · exact hvisit
    · obtain rfl | hmem := List.mem_cons.mp hmem
      · exact hagain
      · exact hvisits visit hmem
  · rw [List.length_cons, List.length_cons, hlength, Nat.add_assoc, Nat.add_comm]
    rfl

/-! ### How cycles end -/

/-- The exporter's own gauge that tells whether the database is up. -/
def upGauge (ns : String) (up : Bool) : Family :=
  ownGauge (qualifiedName [ns, "up"]) "Whether the Oracle database server is up." (flag up)

/-- The cycle completes, and says whether the database is up. -/
def Tells (db : Database δ) (order : TaskOrder) (tick : Option Binary64) (s : Clocked (Exporter δ))
    (up : Bool) : Prop :=
  ∃ families, (run (scrape db order tick) s).result = .ok families ∧
    upGauge s.inner.settings.ns up ∈ families ∧
    (run (scrape db order tick) s).state.inner.ledger.up = up

/-- A cycle completes unless pinging or refreshing fails. -/
theorem tells_of_pinged (db : Database δ) {order : TaskOrder} {tick : Option Binary64}
    {s : Clocked (Exporter δ)} (hlabelled : s.inner.ledger.FullyLabelled) (horder : order.Lawful)
    {up : Bool} (hup : (pinged db s).result = .ok up)
    (hrefresh : up = true → (refreshed db s).result = .ok ()) : Tells db order tick s up := by
  cases hresult : (run (scrape db order tick) s).result with
  | error failure =>
    obtain ⟨hfailed, -⟩ | ⟨hping, hfailed, -⟩ := aborted_cases db hlabelled horder hresult
    · cases hup.symm.trans hfailed
    · obtain rfl : up = true := Except.ok.inj (hup.symm.trans hping)
      cases (hrefresh rfl).symm.trans hfailed
  | ok families =>
    obtain ⟨failure, hfailed, -⟩ | ⟨exposed, up', outcomes, duration, hup', -, -, hfamilies,
      hledger, -⟩ := scrape_ends db order tick s
    · cases hresult.symm.trans hfailed
    · obtain rfl : up = up' := Except.ok.inj (hup.symm.trans hup')
      have htold : (run (scrape db order tick) s).state.inner.ledger.up = up := by
        rw [hledger]
        rfl
      have hgauge : upGauge s.inner.settings.ns up ∈
          (run (scrape db order tick) s).state.inner.ledger.ownFamilies s.inner.settings.ns
            (db.dbtype (run (scrape db order tick) s).state.inner.database) := by
        rw [← htold]
        simp [Ledger.ownFamilies, upGauge]
      refine ⟨families, hresult, ?_, htold⟩
      rw [Except.ok.inj (hresult.symm.trans hfamilies)]
      exact List.mem_append_right exposed hgauge

/-- A cycle that is not up leaves the definitions alone, and does to the database what pinging
does. -/
theorem inner_scrape_of_down (db : Database δ) {order : TaskOrder} {tick : Option Binary64}
    {s : Clocked (Exporter δ)} (h : (pinged db s).result = .ok false) :
    (run (scrape db order tick) s).state.inner.store = s.inner.store ∧
      (run (scrape db order tick) s).state.inner.database = (pinged db s).state.inner.database := by
  rw [run_scrape_of_down h, run_conclude]
  dsimp only
  rw [inner_pinged]
  exact ⟨rfl, rfl⟩

/-! ### Recovery -/

/-- **Outages and recovery.** After any uses of a new exporter with any driver, let a cycle begin,
in which pinging and reconnecting fail as a database does, if at all.

The cycle follows the protocol. If it is not up, it asks no query, leaves the definitions alone,
however the files may have changed, and says that the database is down.

If it begins without a pool, it finds the session closed, and so reconnects. Once a pool can be
created whose session answers, it is up; it says so, unless the definitions cannot be refreshed, and
all that it asks of the driver after the creation of this pool are visits of it, one for every query
besides the first two. If no pool can be created, it says that the database is down, and no pool is
held. -/
theorem recovers_from_outage (driver : Driver ε) {new : Clocked (Exporter (Link ε))}
    (hnew : new.inner.ledger = {}) (past : List (Use (Link ε))) (c : Cycle)
    (horder : c.order.Lawful)
    (hfails : FailsAsDatabase (cycleExchanges driver.database c.order c.tick
      (c.enter (afterUses driver.database past new)))) :
    let db := driver.database
    let s := c.enter (afterUses db past new)
    let exchanges := cycleExchanges db c.order c.tick s
    let after := (run (scrape db c.order c.tick) s).state.inner
    let created := Link.creation driver (site s)
    let renewed := (run (Link.reconnect driver) (site s)).state
    (∃ up, (pinged db s).result = .ok up ∧ FollowsProtocol exchanges up) ∧
    ((pinged db s).result = .ok false →
      (∀ exchange ∈ exchanges, exchange.isQuery = false) ∧ after.store = s.inner.store ∧
      Tells db c.order c.tick s false) ∧
    (s.inner.database.connection.pool = none →
      (pings exchanges).head? = some (.error Link.notOpen) ∧
      (∀ pool, created.result = .ok pool → Link.SessionAnswers driver pool renewed →
        (pinged db s).result = .ok true ∧
        ((refreshed db s).result = .ok () → Tells db c.order c.tick s true) ∧
        after.database.connection.pool = some pool ∧
        ∃ visits : List (List PoolCall),
          driverCalls driver c.order c.tick s = .create (.ok pool) :: visits.flatten ∧
          (∀ visit ∈ visits, Visit pool visit) ∧
          visits.length = 2 + (exchanges.filter Exchange.isQuery).length) ∧
      (∀ failure, created.result = .error failure →
        (pinged db s).result = .ok false ∧ Tells db c.order c.tick s false ∧
        after.database.connection.pool = none)) := by
  intro db s exchanges after created renewed
  have hlabelled : s.inner.ledger.FullyLabelled := by
    refine fullyLabelled_afterUses db past ?_
    rw [hnew]
    exact nofun
  obtain ⟨up, hup, hfollows⟩ := followsProtocol_cycle db hfails
  refine ⟨⟨up, hup, hfollows⟩, fun hdown => ⟨?_, ?_, ?_⟩, fun hnone => ?_⟩
  · exact isQuery_of_mem_cycleExchanges db (by rw [started, hdown])
  · exact (inner_scrape_of_down db hdown).1
  · exact tells_of_pinged db hlabelled horder hdown fun hup => absurd hup Bool.false_ne_true
  obtain ⟨hsecond, hpinged⟩ := pinged_of_none driver hnone hup
  have hrenewed : renewed.inner.connection.pool = created.result.toOption :=
    Link.pool_reconnect driver hnone
  refine ⟨?_, ?_, ?_⟩
  · have hfirst := head?_contact db s
    rw [firstPing_of_none driver hnone] at hfirst
    obtain ⟨rest, hcontact⟩ := List.head?_eq_some_iff.mp hfirst
    change (pings (cycleExchanges db c.order c.tick s)).head? = _
    rw [cycleExchanges_eq, hcontact, List.cons_append, pings_ping]
    rfl
  · intro pool hcreated hanswers
    have hheld : renewed.inner.connection.pool = some pool := by
      rw [hrenewed, hcreated]
      rfl
    have htrue : up = true := by
      rw [Link.result_ping_of_answers hheld hanswers] at hsecond
      exact (Except.ok.inj hsecond).symm
    rw [htrue] at hup
    -- what is asked of the driver is read off the cycle with the recorded driver
    have hseen := Driver.seenAs_database driver.seenAs_recorded
    have hupRecorded : (pinged driver.recorded.database (recordedDriver s)).result = .ok true := by
      rw [← hup]
      exact (congrArg Ran.result (seenAs_ping hseen (begun (recordedDriver s)))).symm
    have hexchanges : cycleExchanges driver.recorded.database c.order c.tick (recordedDriver s) =
        exchanges :=
      (cycleExchanges_viewed driver.database c.order c.tick hseen (recordedDriver s)).symm
    obtain ⟨hpool, visits, hcalls, hvisits, hlength⟩ :=
      calls_of_cycle driver c.order c.tick (s := recordedDriver s) hnone hcreated hupRecorded
    have hafter : after.database.connection.pool = some pool := by
      have hcycle := seenAs_scrape hseen c.order c.tick (recordedDriver s)
      exact (congrArg (·.state.inner.database.connection.pool) hcycle).trans hpool
    refine ⟨hup, ?_, hafter, visits, hcalls, hvisits, ?_⟩
    · exact fun hrefresh => tells_of_pinged db hlabelled horder hup fun _ => hrefresh
    · rw [hlength, ← filter_isQuery_cycleExchanges, hexchanges]
  · intro failure hcreated
    rw [hcreated] at hrenewed
    have hping := Link.run_ping_of_none driver hrenewed
    have hdown : up = false := by
      rw [hping] at hsecond
      exact (Except.ok.inj hsecond).symm
    rw [hdown] at hup
    refine ⟨hup, tells_of_pinged db hlabelled horder hup fun hup => absurd hup Bool.false_ne_true,
      ?_⟩
    rw [show after.database = _ from (inner_scrape_of_down db hup).2]
    rw [hping] at hpinged
    exact (congrArg (·.inner.connection.pool) hpinged).trans hrenewed

/-- An exporter that is not connected yet. The creation of the first pool is refused, and the next
one has a row for the only definition. -/
def unconnected : Exporter (Link Scripted.DriverState) where
  database :=
    { driver :=
        { scripts :=
            [{ createFailure := some (.driver { code := "ORA-12541" }) },
              { queries := [("select 1",
                  { columns := ["VALUE"], rows := [[.value (.text "1")]] })] }] }
      connection := { settings := { connectString := "db" } } }
  store :=
    { sources := [], defaults := none
      definitions :=
        [{ context := "answered", helps := [("value", "")], request := "select 1" }] }

/-- The cycle after an outage is up, and queries through the pool that it has created. -/
theorem recovers_from_outage_unconnected :
    let db := Scripted.driver.database
    let new : Clocked (Exporter (Link Scripted.DriverState)) := ⟨0, unconnected⟩
    let c := cycleWith []
    let s := c.enter (afterUses db [.scrape c] new)
    new.inner.ledger = {} ∧ c.order.Lawful ∧
    FailsAsDatabase (cycleExchanges db c.order c.tick s) ∧
    s.inner.database.connection.pool = none ∧
    (Link.creation Scripted.driver (site s)).result = .ok 0 ∧
    Link.SessionAnswers Scripted.driver 0
      (run (Link.reconnect Scripted.driver) (site s)).state ∧
    (refreshed db s).result = .ok () ∧
    Tells db c.order c.tick s true ∧
    ∃ visits : List (List PoolCall),
      driverCalls Scripted.driver c.order c.tick s = .create (.ok 0) :: visits.flatten ∧
      (∀ visit ∈ visits, Visit 0 visit) ∧ visits.length = 3 := by
  intro db new c s
  have hpings : pings (cycleExchanges db c.order c.tick s) = [.error Link.notOpen, .ok ()] := by
    decide +kernel
  have hrenewals : reconnections (cycleExchanges db c.order c.tick s) = [.ok ()] := by
    decide +kernel
  have hfails : FailsAsDatabase (cycleExchanges db c.order c.tick s) := by
    intro failure hfailure
    rw [hpings, hrenewals] at hfailure
    simp only [List.mem_cons, List.not_mem_nil, Except.error.injEq, reduceCtorEq, or_false]
      at hfailure
    rw [hfailure]
    rfl
  have hnone : s.inner.database.connection.pool = none := by decide +kernel
  have hcreated : (Link.creation Scripted.driver (site s)).result = .ok 0 := by decide +kernel
  have hanswers : Link.SessionAnswers Scripted.driver 0
      (run (Link.reconnect Scripted.driver) (site s)).state :=
    ⟨0, by decide +kernel, by decide +kernel, by decide +kernel⟩
  have hrefreshed : (refreshed db s).result = .ok () := by decide +kernel
  have hqueries : ((cycleExchanges db c.order c.tick s).filter Exchange.isQuery).length = 1 := by
    decide +kernel
  have hnew : new.inner.ledger = {} := rfl
  obtain ⟨-, -, hrecovers⟩ :=
    recovers_from_outage Scripted.driver hnew [.scrape c] c TaskOrder.lawful_inTurn hfails
  obtain ⟨-, hup, -⟩ := hrecovers hnone
  obtain ⟨-, htells, -, visits, hcalls, hvisits, hlength⟩ := hup 0 hcreated hanswers
  refine ⟨hnew, TaskOrder.lawful_inTurn, hfails, hnone, hcreated, hanswers, hrefreshed,
    htells hrefreshed, visits, hcalls, hvisits, ?_⟩
  rw [hlength, hqueries]

end Exporter

end QueryMetrics
