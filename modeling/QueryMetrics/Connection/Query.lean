import QueryMetrics.Connection.Lifecycle

/-!
# Queries

A query runs on a session of the pool that is held, within a time. The driver limits every round
trip; besides, every row that has been decoded is checked against the deadline of the whole query.
A query gives all rows of its result or fails, never a part of them.

The first step that fails decides the failure: acquiring a session, the limit for round trips,
running the statement, then row by row fetching, decoding and the deadline.
-/

namespace QueryMetrics

/-- What is asked of a database during a cycle; `δ` are the states of the database. -/
structure Database (δ : Type) where
  /-- Checks that the database answers. -/
  ping : Action (Clocked δ) ConnectionEvent Unit
  /-- Connects anew. -/
  reconnect : Action (Clocked δ) ConnectionEvent Unit
  /-- Runs a query within a number of seconds. -/
  query : String → Binary64 → Action (Clocked δ) ConnectionEvent (List Row)
  /-- The kind of the database. -/
  dbtype : δ → Int

namespace Link

variable {ε : Type}

/-- The pool that is held; without one the session counts as closed. -/
def requirePool : LinkAction ε PoolId := do
  match ← known (·.pool) with
  | some pool => pure pool
  | none => Action.fail (.database .sessionClosed "connection pool is not open")

/-- Checks that a session can be acquired and answers. -/
def ping (driver : Driver ε) : LinkAction ε Unit := do
  let pool ← requirePool
  Action.mapFailure Failure.interpreted <| withSession driver pool fun session =>
    call (driver.ping session)

/-- The limit for a round trip in milliseconds: the time for the query, at least one. -/
def roundTripLimit (timeout : Binary64) : Except WholeFault Int :=
  match (timeout * 1000).truncate? with
  | some limit => .ok (max 1 limit)
  | none => .error (if timeout = .nan then .nan else .infinite)

/-- The failure of a query that took too long. -/
def overdue (timeout : Binary64) : Failure :=
  .database .timedOut ("query exceeded its " ++ timeout.text ++ "s timeout while fetching rows")

/-- Fetches rows to the end of the result, unless one is decoded behind the deadline. -/
def fetchAll (names : List String) (deadline timeout : Binary64) (ending : Option Failure) :
    List Arrival → LinkAction ε (List Row)
  | [] =>
    match ending with
    | some failure => Action.fail failure
    | none => pure []
  | arrival :: arrivals => do
    Action.modify (·.advance arrival.wait)
    let row ← Action.ofExcept (decodeRow names arrival.cells)
    let now ← Action.gets (·.clock)
    if deadline < now then Action.fail (overdue timeout)
    else
      let rows ← fetchAll names deadline timeout ending arrivals
      pure (row :: rows)

/-- The decoded rows of a statement, in the order of the result. -/
def query (driver : Driver ε) (statement : String) (timeout : Binary64) :
    LinkAction ε (List Row) := do
  let pool ← requirePool
  let deadline ← Action.gets fun state => state.clock + timeout
  Action.mapFailure Failure.interpreted <| withSession driver pool fun session => do
    let limit ← Action.ofExcept ((roundTripLimit timeout).mapError .whole)
    withCursor driver session do
      let results ← call (driver.execute session statement (some limit))
      fetchAll (columnNames results.columns) deadline timeout results.ending results.arrivals

end Link

/-- The connection as a database. -/
def Driver.database {ε : Type} (driver : Driver ε) : Database (Link ε) where
  ping := Link.ping driver
  reconnect := Link.reconnect driver
  query := Link.query driver
  dbtype := fun link => link.connection.dbtype

end QueryMetrics
