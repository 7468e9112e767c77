import QueryMetrics.Connection.Lifecycle

/-!
# A driver that follows a script

A driver without a database: a script says for every pool how it behaves, and every call is
recorded. When the scripts are used up, pools behave well and their queries have no rows.

A session is named by the pool that it comes from, since all sessions of a pool share its script.
-/

namespace QueryMetrics.Scripted

/-- A call of the driver. -/
inductive DriverCall where
  | createPool (parameters : PoolParameters)
  | closePool
  | acquire
  | release
  | ping
  | callProcedure (name : String) (arguments : List String)
  | execute (statement : String) (limit : Option Int)
  | closeCursor
  deriving DecidableEq

/-- How a query behaves. -/
structure QueryScript where
  columns : List String := []
  rows : List (List Cell) := []
  /-- The failure of running it. -/
  failure : Option Failure := none
  /-- The failure behind the last row. -/
  ending : Option Failure := none
  /-- The time it takes to run it. -/
  cost : Binary64 := 0
  /-- The time it takes to fetch a row. -/
  rowCost : Binary64 := 0
  deriving DecidableEq

/-- The result of a query that is run. -/
def QueryScript.results (script : QueryScript) : ResultSet where
  columns := script.columns
  arrivals := script.rows.map fun cells => { wait := script.rowCost, cells }
  ending := script.ending

/-- The answer to one of the statements that ask about the session. -/
inductive MetadataScript where
  | failure (failure : Failure)
  | row (cells : List Cell)
  | noRow
  deriving DecidableEq

/-- How a pool behaves. Lists of failures are used up one by one. -/
structure PoolScript where
  createFailure : Option Failure := none
  closeFailure : Option Failure := none
  acquireFailures : List (Option Failure) := []
  pingFailures : List (Option Failure) := []
  procedureFailure : Option Failure := none
  metadata : List MetadataScript := [.row [.value (.text "0")], .row [.value (.text "FALSE")]]
  queries : Entries String QueryScript := []
  deriving DecidableEq

/-- The states of a scripted driver. -/
structure DriverState where
  /-- Scripts of the pools that are still to be created. -/
  scripts : List PoolScript := []
  /-- The pools that were created, each under its position. -/
  pools : List PoolScript := []
  calls : List DriverCall := []
  deriving DecidableEq

/-- The script of a pool. -/
def DriverState.pool (state : DriverState) (pool : PoolId) : PoolScript :=
  (state.pools[pool]?).getD {}

namespace DriverState

/-- Changes the script of a pool. -/
def setPool (state : DriverState) (pool : PoolId) (script : PoolScript) : DriverState :=
  { state with pools := state.pools.set pool script }

end DriverState

/-- Records a call. -/
def record (call : DriverCall) : DriverAction DriverState Unit :=
  Action.modify fun state =>
    { state with inner := { state.inner with calls := state.inner.calls ++ [call] } }

/-- The script of a pool at the moment. -/
def script (pool : PoolId) : DriverAction DriverState PoolScript :=
  Action.gets fun state => state.inner.pool pool

/-- Changes the script of a pool. -/
def setScript (pool : PoolId) (next : PoolScript) : DriverAction DriverState Unit :=
  Action.modify fun state => { state with inner := state.inner.setPool pool next }

/-- Fails if there is a failure. -/
def failIf {σ : Type} : Option Failure → Action σ Empty Unit
  | some failure => Action.fail failure
  | none => pure ()

/-- Creates a pool by the next script. -/
def createPool (parameters : PoolParameters) : DriverAction DriverState PoolId := do
  record (.createPool parameters)
  let state ← Action.get
  let next := state.inner.scripts.headD {}
  Action.modify fun state =>
    { state with inner := { state.inner with scripts := state.inner.scripts.drop 1 } }
  failIf next.createFailure
  Action.modify fun state =>
    { state with inner := { state.inner with pools := state.inner.pools ++ [next] } }
  pure state.inner.pools.length

/-- Closes a pool. -/
def closePool (pool : PoolId) : DriverAction DriverState Unit := do
  record .closePool
  let current ← script pool
  failIf current.closeFailure

/-- Acquires a session. -/
def acquire (pool : PoolId) : DriverAction DriverState SessionId := do
  record .acquire
  let current ← script pool
  setScript pool { current with acquireFailures := current.acquireFailures.drop 1 }
  failIf (current.acquireFailures.headD none)
  pure pool

/-- A round trip. -/
def ping (session : SessionId) : DriverAction DriverState Unit := do
  record .ping
  let current ← script session
  setScript session { current with pingFailures := current.pingFailures.drop 1 }
  failIf (current.pingFailures.headD none)

/-- Calls a procedure. -/
def callProcedure (session : SessionId) (name : String) (arguments : List String) :
    DriverAction DriverState Unit := do
  record (.callProcedure name arguments)
  let current ← script session
  failIf current.procedureFailure

/-- Answers a statement about the session by the next entry of the script. -/
def answerMetadata (session : SessionId) : DriverAction DriverState ResultSet := do
  let current ← script session
  setScript session { current with metadata := current.metadata.drop 1 }
  match current.metadata.headD .noRow with
  | .failure failure => Action.fail failure
  | .row cells => pure { arrivals := [{ cells }] }
  | .noRow => pure {}

/-- Runs a query. -/
def runQuery (session : SessionId) (statement : String) : DriverAction DriverState ResultSet := do
  let current ← script session
  let query := (current.queries.find? statement).getD {}
  Action.modify (·.advance query.cost)
  failIf query.failure
  pure query.results

/-- Runs a statement: one about the session or a query. -/
def execute (session : SessionId) (statement : String) (limit : Option Int) :
    DriverAction DriverState ResultSet := do
  record (.execute statement limit)
  if statement = Link.containerQuery ∨ statement = Link.roleQuery then answerMetadata session
  else runQuery session statement

/-- The driver that follows scripts. -/
def driver : Driver DriverState where
  createPool := createPool
  closePool := closePool
  acquire := acquire
  release := fun _ => record .release
  ping := ping
  callProcedure := callProcedure
  execute := execute
  closeCursor := fun _ => record .closeCursor

end QueryMetrics.Scripted
