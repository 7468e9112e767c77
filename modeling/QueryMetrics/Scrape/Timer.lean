import QueryMetrics.Action
import QueryMetrics.Clock
import QueryMetrics.Log.Record

/-!
# The timer of scheduled cycles

A timer fires at once when it is started and then at a fixed interval. The ticks are deadlines:
each is one interval after the one before, so slow firings do not make the ticks drift. When a
deadline has already passed, the tick is the present moment, and the firings that were missed are
dropped.

Between firings the timer waits. A definitions file that cannot be loaded stops the timer; any
other failure of a firing is reported, and the timer goes on.
-/

namespace QueryMetrics

/-- What a timer reports. -/
inductive TimerEvent where
  | started (interval : Binary64)
  | stopped
  | reloadFailed (failure : Failure)
  | firingFailed (failure : Failure)
  /-- The timer ended, and nobody else was told. -/
  | gaveUp (failure : Failure)
  deriving DecidableEq

/-- The event as a log record. -/
def TimerEvent.record : TimerEvent → Log.Record
  | started interval =>
    ⟨.info, "Started scheduled scrapes", [("interval_seconds", .number interval)], false⟩
  | stopped => ⟨.info, "Stopped scheduled scrapes", [], false⟩
  | reloadFailed _ => ⟨.error, "Failed to reload metric definitions", [], true⟩
  | firingFailed _ => ⟨.error, "Scheduled scrape failed", [], true⟩
  | gaveUp failure =>
    ⟨.critical, "Scheduled scrapes stopped", [("error", .text failure.message)], false⟩

/-- What a timer does when it fires. -/
structure Firing (σ ε : Type) where
  /-- The work of one firing, given its tick. -/
  work : Binary64 → Action (Clocked σ) ε Unit
  /-- Told the failure that ends the timer. -/
  onFatal : Failure → Action (Clocked σ) ε Unit
  /-- How the timer's own reports are seen. -/
  event : TimerEvent → ε

/-- Fires once, and says whether the timer goes on. -/
def Firing.fire {σ ε : Type} (firing : Firing σ ε) (tick : Binary64) :
    Action (Clocked σ) ε Bool := do
  match ← (firing.work tick).attempt with
  | .ok () => pure true
  | .error failure =>
    if failure.isReload then
      Action.report [firing.event (.reloadFailed failure)]
      firing.onFatal failure
      pure false
    else
      Action.report [firing.event (.firingFailed failure)]
      pure true

/-- A wait for the next firing. -/
structure Wait where
  /-- The tick of the next firing. -/
  tick : Binary64
  /-- The length of the wait. -/
  timeout : Binary64
  deriving DecidableEq

/-- The wait after a firing, given its tick and the time at which it ended. -/
def Wait.after (interval tick ended : Binary64) : Wait :=
  let due := tick + interval
  let next := if due < ended then ended else due
  ⟨next, next - ended⟩

/-- A timer; it runs while it waits. -/
structure Timer where
  interval : Binary64
  waiting : Option Wait := none
  deriving DecidableEq

namespace Timer

variable {σ ε : Type}

/-- The timer runs. -/
def running (timer : Timer) : Bool := timer.waiting.isSome

/-- A timer that does not run yet, for a collector that is in scheduled mode or not. -/
def create (interval : Binary64) (scheduled : Bool) : Except BadArgument Timer :=
  if interval ≤ 0 then .error .nonpositiveInterval
  else if scheduled then .ok { interval }
  else .error .collectorOnDemand

/-- Fires at a tick and begins the next wait, unless the firing ended the timer. -/
def fireAt (firing : Firing σ ε) (timer : Timer) (tick : Binary64) :
    Action (Clocked σ) ε Timer := do
  if ← firing.fire tick then
    let ended ← Action.gets (·.clock)
    pure { timer with waiting := some (.after timer.interval tick ended) }
  else pure { timer with waiting := none }

/-- Starts the timer; a timer that runs is left alone. -/
def start (firing : Firing σ ε) (timer : Timer) : Action (Clocked σ) ε Timer := do
  if timer.running then pure timer
  else
    let now ← Action.gets (·.clock)
    let timer ← fireAt firing timer now
    Action.report [firing.event (.started timer.interval)]
    pure timer

/-- Lets the wait end and fires; without a wait nothing happens. -/
def expire (firing : Firing σ ε) (timer : Timer) : Action (Clocked σ) ε Timer := do
  match timer.waiting with
  | none => pure timer
  | some wait =>
    Action.modify (·.advance wait.timeout)
    fireAt firing timer wait.tick

/-- Stops the timer. -/
def stop (firing : Firing σ ε) (timer : Timer) : Action (Clocked σ) ε Timer := do
  Action.report [firing.event .stopped]
  pure { timer with waiting := none }

end Timer

end QueryMetrics
