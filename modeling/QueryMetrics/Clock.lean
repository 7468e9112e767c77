import QueryMetrics.Number.Binary64

/-!
# The clock

Time is a number of seconds. All parts of the exporter read one clock, and it moves only when
something outside takes time: a query, a row that has to be waited for, a timer.
-/

namespace QueryMetrics

/-- A part of the world together with the clock. -/
structure Clocked (σ : Type) where
  clock : Binary64
  inner : σ

namespace Clocked

variable {σ : Type}

/-- Lets time pass. -/
def advance (seconds : Binary64) (state : Clocked σ) : Clocked σ :=
  { state with clock := state.clock + seconds }

end Clocked

end QueryMetrics
