import QueryMetrics.Connection.Driver
import QueryMetrics.Log.Record

/-!
# Connections

The exporter holds at most one pool of sessions. It is passive: it connects when asked and
connects anew only when asked.

* **Connecting** creates a pool and holds it. Reading what kind of database it is and which role
  the session has is done as well as possible: errors of the driver are reported and leave the
  values of before.
* **Closing** lets go of the pool before the driver is asked to close it, so that a pool is closed
  at most once, whatever the driver answers.
* **Reconnecting** is closing and then connecting.
-/

namespace QueryMetrics

/-- What a connection reports. -/
inductive ConnectionEvent where
  | launching (dsn : String)
  | externalAuth
  | passwordAuth
  | poolFailed (dsn : String)
  | poolConfigured (dsn : String) (minSessions maxSessions : Int)
  | clientInfoNotSet
  | dbtypeUnread (failure : Failure)
  | roleUnread (failure : Failure)
  | metadataUnread (failure : Failure)
  | connected (dsn : String) (dbtype : Int) (sysdba : Content)
  | reconnecting (dsn : String)
  | closeFailed (failure : Failure)
  deriving DecidableEq

/-- The event as a log record. -/
def ConnectionEvent.record : ConnectionEvent → Log.Record
  | launching dsn => ⟨.debug, "Launching connection", [("dsn", .text dsn)], false⟩
  | externalAuth =>
    ⟨.info, "Database password not specified; using external authentication " ++
      "and ignoring the configured user", [], false⟩
  | passwordAuth => ⟨.info, "Using username/password authentication", [], false⟩
  | poolFailed dsn => ⟨.error, "Failed to create connection pool", [("dsn", .text dsn)], true⟩
  | poolConfigured dsn minSessions maxSessions =>
    ⟨.debug, "Configured connection pool",
      [("dsn", .text dsn), ("max_idle_conns", .integer minSessions),
        ("max_open_conns", .integer maxSessions)], false⟩
  | clientInfoNotSet => ⟨.info, "Could not set CLIENT_INFO", [], false⟩
  | dbtypeUnread failure =>
    ⟨.info, "Could not read database type", [("error", .text failure.message)], false⟩
  | roleUnread failure =>
    ⟨.info, "Could not check database role", [("error", .text failure.message)], false⟩
  | metadataUnread failure =>
    ⟨.info, "Could not read session metadata", [("error", .text failure.message)], false⟩
  | connected dsn dbtype sysdba =>
    ⟨.info, "Connected to database",
      [("dsn", .text dsn), ("dbtype", .integer dbtype), ("sysdba", sysdba.toValue)], false⟩
  | reconnecting dsn => ⟨.info, "Reconnecting to database", [("dsn", .text dsn)], false⟩
  | closeFailed failure =>
    ⟨.warning, "Error while closing connection pool", [("error", .text failure.message)], false⟩

/-- What is known about the connection. -/
structure Connection where
  settings : ConnectionSettings
  /-- The pool that is held. -/
  pool : Option PoolId := none
  /-- The kind of the database: 0 without containers, 1 for the root, above that a container. -/
  dbtype : Int := 0
  /-- Whether the session has the administrative role, as the database puts it. -/
  isSysdba : Content := .text ""
  deriving DecidableEq

/-- A connection with the driver behind it. -/
structure Link (ε : Type) where
  driver : ε
  connection : Connection

/-- An action of a connection whose driver has states `ε`. -/
abbrev LinkAction (ε : Type) := Action (Clocked (Link ε)) ConnectionEvent

namespace Link

variable {ε α : Type}

/-! ### Parts of a link -/

/-- A part of what is known about the connection. -/
def known (part : Connection → α) : LinkAction ε α :=
  Action.gets fun state => part state.inner.connection

/-- Changes what is known about the connection. -/
def update (change : Connection → Connection) : LinkAction ε Unit :=
  Action.modify fun state =>
    { state with inner := { state.inner with connection := change state.inner.connection } }

/-- An action of the driver. -/
def call (action : DriverAction ε α) : LinkAction ε α :=
  action.silently (fun state => ⟨state.clock, state.inner.driver⟩)
    (fun state ran => ⟨ran.clock, { state.inner with driver := ran.inner }⟩)

/-- Uses a session of a pool, which is given back whichever way this ends. -/
def withSession (driver : Driver ε) (pool : PoolId) (use : SessionId → LinkAction ε α) :
    LinkAction ε α := do
  let session ← call (driver.acquire pool)
  (use session).andFinally (call (driver.release session))

/-- Uses a cursor of a session, which is closed whichever way this ends. -/
def withCursor (driver : Driver ε) (session : SessionId) (use : LinkAction ε α) :
    LinkAction ε α :=
  use.andFinally (call (driver.closeCursor session))

/-! ### Metadata -/

/-- The name under which sessions announce themselves. -/
def clientInfo : String := "oracledb_exporter"

/-- The procedure that takes the name of a client. -/
def clientInfoProcedure : String := "dbms_application_info.set_client_info"

/-- The statement that asks for the kind of the database. -/
def containerQuery : String := "select sys_context('USERENV', 'CON_ID') from dual"

/-- The statement that asks for the role of the session. -/
def roleQuery : String := "select sys_context('USERENV', 'ISDBA') from dual"

/-- The first row of a result. -/
def firstRow (results : ResultSet) : LinkAction ε (Option (List Cell)) :=
  match results.arrivals, results.ending with
  | arrival :: _, _ => do
    Action.modify (·.advance arrival.wait)
    pure (some arrival.cells)
  | [], some failure => Action.fail failure
  | [], none => pure none

/-- The only cell of a row. -/
def onlyCell : Option (List Cell) → Except Failure Cell
  | some [cell] => .ok cell
  | some cells => .error (.row (.width cells.length))
  | none => .error (.row .noRow)

/-- The only cell of the first row of a statement. -/
def askCell (driver : Driver ε) (session : SessionId) (statement : String) :
    LinkAction ε Cell := do
  let results ← call (driver.execute session statement none)
  let row ← firstRow results
  Action.ofExcept (onlyCell row)

/-- Failures after which the kind of the database stays as it was. -/
def isDbtypeFailure : Failure → Bool
  | .driver _ => true
  | .row _ => true
  | .whole .infinite => false
  | .whole .decimalInfinite => false
  | .whole _ => true
  | .foreign .value _ => true
  | _ => false

/-- Failures after which the role stays as it was. -/
def isRoleFailure : Failure → Bool
  | .driver _ => true
  | .row .noRow => true
  | _ => false

/-- The session announces itself. -/
def announce (driver : Driver ε) (session : SessionId) : LinkAction ε Unit :=
  (call (driver.callProcedure session clientInfoProcedure [clientInfo])).catching
    Failure.isDriver fun _ => Action.report [.clientInfoNotSet]

/-- Reads the kind of the database. -/
def readDbtype (driver : Driver ε) (session : SessionId) : LinkAction ε Unit :=
  Action.catching isDbtypeFailure (fun failure => Action.report [.dbtypeUnread failure]) do
    let cell ← askCell driver session containerQuery
    let dbtype ← Action.ofExcept (cell.toInt.mapError .whole)
    update fun connection => { connection with dbtype }

/-- Reads the role of the session. -/
def readRole (driver : Driver ε) (session : SessionId) : LinkAction ε Unit :=
  Action.catching isRoleFailure (fun failure => Action.report [.roleUnread failure]) do
    let cell ← askCell driver session roleQuery
    update fun connection => { connection with isSysdba := cell.content }

/-- Announces the first session of a pool and reads what is known about it. -/
def readMetadata (driver : Driver ε) (pool : PoolId) : LinkAction ε Unit :=
  withSession driver pool fun session =>
    withCursor driver session do
      announce driver session
      readDbtype driver session
      readRole driver session

/-! ### Connecting and closing -/

/-- Creates the pool that the settings ask for. -/
def createPool (driver : Driver ε) (settings : ConnectionSettings) : LinkAction ε PoolId :=
  (call (driver.createPool settings.poolParameters)).catching Failure.isDriver fun failure => do
    Action.report [.poolFailed settings.maskedDsn]
    Action.fail failure.interpreted

/-- Reports the connection as it is now. -/
def reportConnected : LinkAction ε Unit := do
  let connection ← known id
  Action.report
    [.connected connection.settings.maskedDsn connection.dbtype connection.isSysdba]

/-- Opens a pool and reads what is known about the database. -/
def connect (driver : Driver ε) : LinkAction ε Unit := do
  let settings ← known (·.settings)
  Action.report [.launching settings.maskedDsn,
    if settings.externalAuth then .externalAuth else .passwordAuth]
  let pool ← createPool driver settings
  update fun connection => { connection with pool := some pool }
  Action.report [.poolConfigured settings.maskedDsn settings.maxIdle settings.maxOpen]
  Action.catching Failure.isDriver (fun failure => Action.report [.metadataUnread failure]) do
    readMetadata driver pool
    reportConnected

/-- Closes the pool if one is held. -/
def close (driver : Driver ε) : LinkAction ε Unit := do
  let held ← known (·.pool)
  update fun connection => { connection with pool := none }
  match held with
  | none => pure ()
  | some pool =>
    (call (driver.closePool pool)).catching Failure.isDriver fun failure =>
      Action.report [.closeFailed failure]

/-- Drops the pool and connects again. -/
def reconnect (driver : Driver ε) : LinkAction ε Unit := do
  let settings ← known (·.settings)
  Action.report [.reconnecting settings.maskedDsn]
  close driver
  connect driver

end Link

end QueryMetrics
