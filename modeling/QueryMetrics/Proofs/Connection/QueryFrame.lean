import QueryMetrics.Proofs.Leads
import QueryMetrics.Scripted.Database

/-!
# What a query leaves alone

A query goes through the driver only: it acquires a session, runs the statement, fetches rows and
gives the session back, and the driver may change with each of these steps. What the exporter knows
about the connection is not touched (`Link.keepsConnection_query`), whatever the driver does and
however the query ends. In particular it stays the same kind of database (`Database.KeepsType`).
-/

namespace QueryMetrics

open QueryMetrics.Action

/-- No query changes what kind of database it is. -/
def Database.KeepsType {δ : Type} (db : Database δ) : Prop :=
  ∀ (statement : String) (timeout : Binary64) (state : Clocked δ),
    db.dbtype (run (db.query statement timeout) state).state.inner = db.dbtype state.inner

namespace Link

variable {ε α β : Type}

/-- The action leaves what is known about the connection as it is. -/
def KeepsConnection (action : LinkAction ε α) : Prop :=
  ∀ state, (run action state).state.inner.connection = state.inner.connection

theorem keepsConnection_pure (a : α) : KeepsConnection (pure a : LinkAction ε α) := fun _ => rfl

theorem keepsConnection_fail (failure : Failure) :
    KeepsConnection (Action.fail failure : LinkAction ε α) := fun _ => rfl

theorem keepsConnection_ofExcept (result : Except Failure α) :
    KeepsConnection (Action.ofExcept result : LinkAction ε α) := fun _ => rfl

theorem keepsConnection_gets (part : Clocked (Link ε) → α) :
    KeepsConnection (Action.gets part : LinkAction ε α) := fun _ => rfl

theorem keepsConnection_advance (seconds : Binary64) :
    KeepsConnection (Action.modify (·.advance seconds) : LinkAction ε Unit) := fun _ => rfl

theorem keepsConnection_call (action : DriverAction ε α) : KeepsConnection (call action) :=
  fun _ => rfl

/-- What is known about the connection is the same. -/
def SameConnection (s t : Clocked (Link ε)) : Prop := t.inner.connection = s.inner.connection

theorem SameConnection.trans {s t u : Clocked (Link ε)} (h : SameConnection s t)
    (h' : SameConnection t u) : SameConnection s u :=
  Eq.trans h' h

theorem KeepsConnection.bind {action : LinkAction ε α} {next : α → LinkAction ε β}
    (h : KeepsConnection action) (h' : ∀ a, KeepsConnection (next a)) :
    KeepsConnection (action >>= next) :=
  Leads.bind (R := SameConnection) h h' SameConnection.trans

theorem KeepsConnection.andFinally {action : LinkAction ε α} {last : LinkAction ε Unit}
    (h : KeepsConnection action) (h' : KeepsConnection last) :
    KeepsConnection (action.andFinally last) :=
  Leads.andFinally (R := SameConnection) h h' SameConnection.trans

theorem KeepsConnection.mapFailure {action : LinkAction ε α} (h : KeepsConnection action)
    (change : Failure → Failure) : KeepsConnection (action.mapFailure change) :=
  h

theorem keepsConnection_requirePool : KeepsConnection (requirePool : LinkAction ε PoolId) := by
  refine (keepsConnection_gets _).bind fun pool => ?_
  split
  · exact keepsConnection_pure _
  · exact keepsConnection_fail _

theorem keepsConnection_withSession (driver : Driver ε) (pool : PoolId)
    {use : SessionId → LinkAction ε α} (h : ∀ session, KeepsConnection (use session)) :
    KeepsConnection (withSession driver pool use) :=
  (keepsConnection_call _).bind fun session => (h session).andFinally (keepsConnection_call _)

/-- Fetching lets time pass, and that is all. -/
theorem keepsConnection_fetchAll (names : List String) (deadline timeout : Binary64)
    (ending : Option Failure) (arrivals : List Arrival) :
    KeepsConnection (fetchAll names deadline timeout ending arrivals : LinkAction ε (List Row)) := by
  induction arrivals with
  | nil =>
    cases ending with
    | some failure => exact keepsConnection_fail failure
    | none => exact keepsConnection_pure []
  | cons arrival rest ih =>
    rw [fetchAll]
    refine (keepsConnection_advance _).bind fun _ => ?_
    refine (keepsConnection_ofExcept _).bind fun row => ?_
    refine (keepsConnection_gets _).bind fun now => ?_
    split
    · exact keepsConnection_fail _
    · exact ih.bind fun _ => keepsConnection_pure _

/-- A query leaves what is known about the connection as it is. -/
theorem keepsConnection_query (driver : Driver ε) (statement : String) (timeout : Binary64) :
    KeepsConnection (query driver statement timeout) := by
  refine keepsConnection_requirePool.bind fun pool => ?_
  refine (keepsConnection_gets _).bind fun deadline => ?_
  refine (keepsConnection_withSession driver pool fun session => ?_).mapFailure _
  refine (keepsConnection_ofExcept _).bind fun limit => ?_
  refine KeepsConnection.andFinally ?_ (keepsConnection_call _)
  exact (keepsConnection_call _).bind fun results => keepsConnection_fetchAll _ _ _ _ _

end Link

/-- Whatever the driver is, no query changes what kind of database it is. -/
theorem Driver.keepsType_database {ε : Type} (driver : Driver ε) : driver.database.KeepsType :=
  fun statement timeout state =>
    congrArg Connection.dbtype (Link.keepsConnection_query driver statement timeout state)

/-- The same holds of a database that follows a script. -/
theorem Scripted.keepsType_database : Scripted.database.KeepsType := by
  intro statement timeout state
  change (run (queryDatabase statement timeout) state).state.inner.dbtype = state.inner.dbtype
  rw [queryDatabase]
  simp only [recordCall, run_bind, run_modify, run_get, Clocked.advance]
  cases state.inner.failures.find? statement with
  | some failure => rfl
  | none => rfl

end QueryMetrics
