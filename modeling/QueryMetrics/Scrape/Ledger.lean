import QueryMetrics.Definition.Basic
import QueryMetrics.Metric.Sample

/-!
# What outlives a cycle

Between scrape cycles the exporter remembers how many cycles were started, how many errors each
context had, and how the last cycle ended. For definitions with a least interval it remembers the
tick of the last successful scheduled run and the samples of that run, both under the identity of
the definition.
-/

namespace QueryMetrics

/-- What is remembered between cycles. -/
structure Ledger where
  /-- The number of cycles that were started. -/
  scrapes : Nat := 0
  /-- The number of reported errors of each context. -/
  errors : Entries String Nat := []
  /-- The ticks of the last successful scheduled runs. -/
  lastRun : Entries String Binary64 := []
  /-- The samples of those runs. -/
  lastSamples : Entries String (List Sample) := []
  /-- The duration of the last completed cycle. -/
  lastDuration : Binary64 := 0
  /-- The last completed cycle had an error. -/
  lastError : Bool := false
  /-- The database answered in the last completed cycle. -/
  up : Bool := false
  deriving DecidableEq

namespace Ledger

/-- Counts one more cycle. -/
def begin (ledger : Ledger) : Ledger := { ledger with scrapes := ledger.scrapes + 1 }

/-- Counts one more error of a context. -/
def countError (ledger : Ledger) (context : String) : Ledger :=
  { ledger with
    errors := ledger.errors.put context ((ledger.errors.find? context).getD 0 + 1) }

/-- Counts errors, one for each context of the list. -/
def countErrors (ledger : Ledger) (contexts : List String) : Ledger :=
  contexts.foldl countError ledger

/-- Takes down how a cycle ended. -/
def finish (ledger : Ledger) (duration : Binary64) (error up : Bool) : Ledger :=
  { ledger with lastDuration := duration, lastError := error, up := up }

/-- Forgets the runs of definitions that are no longer active. -/
def forgetRemoved (ledger : Ledger) (active : List Definition) : Ledger :=
  let kept (identity : String) : Bool := identity ∈ active.map Definition.identity
  { ledger with
    lastRun := ledger.lastRun.keep kept
    lastSamples := ledger.lastSamples.keep kept }

/-- Remembers a successful scheduled run. -/
def remember (ledger : Ledger) (identity : String) (tick : Binary64) (samples : List Sample) :
    Ledger :=
  { ledger with
    lastRun := ledger.lastRun.put identity tick
    lastSamples := ledger.lastSamples.put identity samples }

/-- The samples of the last successful scheduled run. -/
def samplesOf (ledger : Ledger) (identity : String) : List Sample :=
  (ledger.lastSamples.find? identity).getD []

/-- The least interval has passed since the last run. -/
def hasElapsed (ledger : Ledger) (identity : String) (tick interval : Binary64) : Bool :=
  match ledger.lastRun.find? identity with
  | none => true
  | some last => interval ≤ tick - last

/-- A definition is to be run: always without a tick or without a least interval, otherwise when
the interval has passed. -/
def isDue (ledger : Ledger) (d : Definition) : Option Binary64 → Except DurationError Bool
  | none => .ok true
  | some tick =>
    d.minInterval.map fun interval =>
      match interval with
      | none => true
      | some interval => ledger.hasElapsed d.identity tick interval

end Ledger

end QueryMetrics
