import QueryMetrics.Connection.Query

/-!
# A database that follows a script

A database that answers queries from tables: rows, failures and costs by statement. Every call is
recorded. A query takes its time before it fails or answers; a query without rows in the script
has none.
-/

namespace QueryMetrics.Scripted

/-- A call of the database. -/
inductive DatabaseCall where
  | ping
  | reconnect
  | query (statement : String) (timeout : Binary64)
  deriving DecidableEq

/-- The states of a scripted database. -/
structure DatabaseState where
  rows : Entries String (List Row) := []
  failures : Entries String Failure := []
  costs : Entries String Binary64 := []
  /-- The ends of the next pings. -/
  pingFailures : List (Option Failure) := []
  reconnectFailure : Option Failure := none
  dbtype : Int := 0
  calls : List DatabaseCall := []
  deriving DecidableEq

/-- An action of a scripted database. -/
abbrev DatabaseAction := Action (Clocked DatabaseState) ConnectionEvent

/-- Records a call. -/
def recordCall (call : DatabaseCall) : DatabaseAction Unit :=
  Action.modify fun state =>
    { state with inner := { state.inner with calls := state.inner.calls ++ [call] } }

/-- Ends with a failure if there is one. -/
def endWith : Option Failure → DatabaseAction Unit
  | some failure => Action.fail failure
  | none => pure ()

/-- Answers a ping by the next entry of the script. -/
def pingDatabase : DatabaseAction Unit := do
  recordCall .ping
  let state ← Action.get
  Action.modify fun state =>
    { state with inner := { state.inner with pingFailures := state.inner.pingFailures.drop 1 } }
  endWith (state.inner.pingFailures.headD none)

/-- Reconnects. -/
def reconnectDatabase : DatabaseAction Unit := do
  recordCall .reconnect
  let state ← Action.get
  endWith state.inner.reconnectFailure

/-- Answers a query. -/
def queryDatabase (statement : String) (timeout : Binary64) : DatabaseAction (List Row) := do
  recordCall (.query statement timeout)
  let state ← Action.get
  Action.modify (·.advance ((state.inner.costs.find? statement).getD 0))
  endWith (state.inner.failures.find? statement)
  pure ((state.inner.rows.find? statement).getD [])

/-- The database that follows a script. -/
def database : Database DatabaseState where
  ping := pingDatabase
  reconnect := reconnectDatabase
  query := queryDatabase
  dbtype := fun state => state.dbtype

end QueryMetrics.Scripted
