import QueryMetrics.Action
import QueryMetrics.Clock
import QueryMetrics.Connection.Settings
import QueryMetrics.Row.Decode

/-!
# The database driver

What is asked of the driver package: pools of sessions, and statements on a session. Any operation
may fail and may take time. Drivers are values, so that everything above them can be run and
reasoned about without a database.

A result set is described by how it arrives: after how much time each row is there, and how
fetching ends behind the last row.
-/

namespace QueryMetrics

/-- A pool that the driver created. -/
abbrev PoolId := Nat

/-- A session that was acquired from a pool. -/
abbrev SessionId := Nat

/-- A row that is fetched. -/
structure Arrival where
  /-- The time it takes until the row is there. -/
  wait : Binary64 := 0
  cells : List Cell
  deriving DecidableEq

/-- The result of a statement. -/
structure ResultSet where
  columns : List String := []
  arrivals : List Arrival := []
  /-- The failure behind the last row; without it the result is complete. -/
  ending : Option Failure := none
  deriving DecidableEq

/-- An action of a driver with states `ε`. -/
abbrev DriverAction (ε : Type) := Action (Clocked ε) Empty

/-- A driver with states `ε`. -/
structure Driver (ε : Type) where
  createPool : PoolParameters → DriverAction ε PoolId
  /-- Closes a pool with everything in it. -/
  closePool : PoolId → DriverAction ε Unit
  acquire : PoolId → DriverAction ε SessionId
  release : SessionId → DriverAction ε Unit
  /-- A round trip to the database. -/
  ping : SessionId → DriverAction ε Unit
  /-- Calls a procedure of the database. -/
  callProcedure : SessionId → String → List String → DriverAction ε Unit
  /-- Runs a statement; round trips may be limited to a number of milliseconds. -/
  execute : SessionId → String → Option Int → DriverAction ε ResultSet
  closeCursor : SessionId → DriverAction ε Unit

/-! ### Driver errors -/

/-- Codes saying that the session or the pool is gone for good. -/
def sessionClosedCodes : List String :=
  ["DPY-1001", "DPY-1002", "DPY-4011", "DPI-1010", "DPI-1080", "ORA-03113", "ORA-03114",
   "ORA-03135"]

/-- Codes saying that the time for a round trip ran out. -/
def timeoutCodes : List String := ["DPY-4024", "DPI-1067", "ORA-03156"]

/-- What an error of the driver means. -/
def DriverError.fault (error : DriverError) : DatabaseFault :=
  if error.code ∈ sessionClosedCodes then .sessionClosed
  else if error.code ∈ timeoutCodes then .timedOut
  else .other

/-- Errors of the driver as failures of the database; other failures stay as they are. -/
def Failure.interpreted : Failure → Failure
  | .driver error => .database error.fault error.text
  | failure => failure

/-- An interpreted failure is none of the driver. -/
theorem Failure.isDriver_interpreted (failure : Failure) : failure.interpreted.isDriver = false := by
  cases failure <;> rfl

end QueryMetrics
