import QueryMetrics.Proofs.View
import QueryMetrics.Scrape.Timer

/-!
# What a firing asks for

A timer asks others for two things: the work of a firing, and that the failure that ends the timer
be told. A firing that keeps a journal (`Firing.journaled`) writes both down as they are asked for,
the work with its tick, how it went, and the clock before and after it.

A firing asks for its work once and, if that is refused, tells the refusal once; what it leaves the
timer with depends on nothing else. A refusal ends the timer, and after anything else the timer
waits (`recorded_fireAt`).
-/

namespace QueryMetrics

open QueryMetrics.Action

variable {σ ε : Type}

/-! ### Firings -/

/-- A firing whose work succeeds does no more, and the timer goes on. -/
theorem Firing.run_fire_of_ok {firing : Firing σ ε} {tick : Binary64} {s : Clocked σ}
    (h : (run (firing.work tick) s).result = .ok ()) :
    run (firing.fire tick) s =
      ⟨.ok true, (run (firing.work tick) s).state, (run (firing.work tick) s).events⟩ := by
  have hended : (run (firing.work tick).attempt s).result = .ok (.ok ()) := by
    rw [run_attempt, h]
  rw [Firing.fire, run_bind_ok hended, run_attempt]
  simp

/-- A firing whose work fails tells a refusal to its handler, once, and ends the timer. Any other
failure is reported, and the timer goes on. -/
theorem Firing.run_fire_of_error {firing : Firing σ ε} {tick : Binary64}
    {s : Clocked σ} {failure : Failure}
    (h : (run (firing.work tick) s).result = .error failure) :
    run (firing.fire tick) s =
      let worked := run (firing.work tick) s
      if failure.isReload then
        let told := run (firing.onFatal failure) worked.state
        ⟨told.result.map fun _ => false, told.state,
          worked.events ++ firing.event (.reloadFailed failure) :: told.events⟩
      else ⟨.ok true, worked.state, worked.events ++ [firing.event (.firingFailed failure)]⟩ := by
  have hended : (run (firing.work tick).attempt s).result = .ok (.error failure) := by
    rw [run_attempt, h]
  rw [Firing.fire, run_bind_ok hended, run_attempt]
  dsimp only
  split
  · simp [run_bind, run_map]
  · simp [run_map, Except.map]

/-- The failure that ends the timer, if the work ended with one. -/
def Firing.refusal? (result : Except Failure Unit) : Option Failure :=
  match result with
  | .ok () => none
  | .error failure => if failure.isReload then some failure else none

/-- Unless the work is refused, the firing leaves what the work left, and the timer goes on. -/
theorem Firing.fire_of_refusal_eq_none (firing : Firing σ ε) {tick : Binary64} {s : Clocked σ}
    (h : refusal? (run (firing.work tick) s).result = none) :
    (run (firing.fire tick) s).result = .ok true ∧
      (run (firing.fire tick) s).state = (run (firing.work tick) s).state := by
  cases hresult : (run (firing.work tick) s).result with
  | ok done =>
    rw [run_fire_of_ok hresult]
    exact ⟨rfl, rfl⟩
  | error failure =>
    have hkind : failure.isReload = false := by
      rw [hresult] at h
      simpa [refusal?] using h
    rw [run_fire_of_error hresult, hkind]
    exact ⟨rfl, rfl⟩

/-- If it is refused, the firing leaves what the handler left, and the timer does not go on. -/
theorem Firing.fire_of_refusal_eq_some (firing : Firing σ ε) {tick : Binary64} {s : Clocked σ}
    {failure : Failure} (h : refusal? (run (firing.work tick) s).result = some failure) :
    (run (firing.fire tick) s).result ≠ .ok true ∧
      (run (firing.fire tick) s).state =
        (run (firing.onFatal failure) (run (firing.work tick) s).state).state := by
  cases hresult : (run (firing.work tick) s).result with
  | ok done =>
    rw [hresult] at h
    cases h
  | error other =>
    have hkind : other.isReload = true ∧ other = failure := by
      rw [hresult] at h
      simpa [refusal?] using h
    obtain ⟨hreload, rfl⟩ := hkind
    rw [run_fire_of_error hresult, hreload]
    refine ⟨?_, rfl⟩
    cases htold : (run (firing.onFatal other) (run (firing.work tick) s).state).result <;>
      simp [htold, Except.map]

/-! ### The journal -/

/-- A firing as it went. -/
structure Fired where
  /-- How often the timer had been started by then. -/
  start : Nat
  tick : Binary64
  /-- The clock when the work began. -/
  began : Binary64
  result : Except Failure Unit
  /-- The clock when the work ended. -/
  ended : Binary64

namespace Fired

/-- The failure that ends the timer, if the firing had one. -/
def refusal? (fired : Fired) : Option Failure := Firing.refusal? fired.result

/-- The wait that follows the firing, unless it ends the timer. -/
def wait? (interval : Binary64) (fired : Fired) : Option Wait :=
  match fired.refusal? with
  | none => some (.after interval fired.tick fired.ended)
  | some _ => none

end Fired

/-- What a timer asks for. -/
inductive TimerCall where
  | worked (fired : Fired)
  | told (failure : Failure)

/-- All that a firing asks for: its work, and then that its refusal be told. -/
def Fired.calls (fired : Fired) : List TimerCall :=
  .worked fired :: (fired.refusal?.map TimerCall.told).toList

/-- The firing that a call asked for, if it did. -/
def TimerCall.fired? : TimerCall → Option Fired
  | worked fired => some fired
  | told _ => none

@[simp] theorem Fired.filterMap_calls (fired : Fired) :
    fired.calls.filterMap TimerCall.fired? = [fired] := by
  unfold Fired.calls
  cases fired.refusal? <;> rfl

/-- A part of the world, and what a timer has asked of it. -/
structure Journaled (σ : Type) where
  world : σ
  /-- How often the timer was started. -/
  starts : Nat := 0
  /-- What was asked for, in that order. -/
  calls : List TimerCall := []

/-- Writes down what was asked for. -/
def Journaled.note (call : TimerCall) (state : Clocked (Journaled σ)) : Clocked (Journaled σ) :=
  { state with inner := { state.inner with calls := state.inner.calls ++ [call] } }

/-- An action on the world, which leaves the journal alone. -/
def Action.inWorld {α : Type} (action : Action (Clocked σ) ε α) :
    Action (Clocked (Journaled σ)) ε α :=
  action.on (Clocked.view Journaled.world)
    (fun state new => ⟨new.clock, { state.inner with world := new.inner }⟩) id

/-- The firing with a journal of what is asked of it. -/
def Firing.journaled (firing : Firing σ ε) : Firing (Journaled σ) ε where
  work tick := do
    let before ← Action.get
    let result ← (firing.work tick).inWorld.attempt
    let ended ← Action.gets (·.clock)
    Action.modify (Journaled.note (.worked
      ⟨before.inner.starts, tick, before.clock, result, ended⟩))
    Action.ofExcept result
  onFatal failure := do
    Action.modify (Journaled.note (.told failure))
    (firing.onFatal failure).inWorld
  event := firing.event

/-- The firing that takes place at a tick in a state. -/
def Firing.fired (firing : Firing σ ε) (tick : Binary64) (s : Clocked (Journaled σ)) : Fired :=
  let worked := run (firing.work tick) (s.view Journaled.world)
  ⟨s.inner.starts, tick, s.clock, worked.result, worked.state.clock⟩

theorem Firing.run_work_journaled (firing : Firing σ ε) (tick : Binary64)
    (s : Clocked (Journaled σ)) :
    run (firing.journaled.work tick) s =
      let worked := run (firing.work tick) (s.view Journaled.world)
      ⟨worked.result,
        ⟨worked.state.clock, { s.inner with
          world := worked.state.inner
          calls := s.inner.calls ++ [.worked (firing.fired tick s)] }⟩,
        worked.events⟩ := by
  simp [Firing.journaled, Action.inWorld, Journaled.note, Firing.fired, run_bind]

/-- Telling a failure is written down before it is done, and nothing else is. -/
theorem Firing.journal_onFatal (firing : Firing σ ε) (failure : Failure)
    (s : Clocked (Journaled σ)) :
    let told := (run (firing.journaled.onFatal failure) s).state.inner
    told.starts = s.inner.starts ∧ told.calls = s.inner.calls ++ [.told failure] := by
  simp [Firing.journaled, Action.inWorld, Journaled.note, run_bind]

/-! ### The timer after a firing -/

/-- The timer that a run leaves. If the run fails, nobody is left to wait. -/
def Timer.afterRun (timer : Timer) (ran : Ran (Clocked σ) ε Timer) : Timer :=
  match ran.result with
  | .ok timer => timer
  | .error _ => { timer with waiting := none }

/-- If the firing does not end the timer, the next wait begins. -/
theorem Timer.run_fireAt_of_true {firing : Firing σ ε} {tick : Binary64} {s : Clocked σ}
    (timer : Timer) (h : (run (firing.fire tick) s).result = .ok true) :
    let fired := run (firing.fire tick) s
    timer.afterRun (run (fireAt firing timer tick) s) =
        { timer with waiting := some (.after timer.interval tick fired.state.clock) } ∧
      (run (fireAt firing timer tick) s).state = fired.state := by
  rw [fireAt, run_bind_ok h]
  exact ⟨rfl, rfl⟩

/-- If it ends the timer, or breaks off, there is no wait. -/
theorem Timer.run_fireAt_of_not_true {firing : Firing σ ε} {tick : Binary64} {s : Clocked σ}
    (timer : Timer) (h : (run (firing.fire tick) s).result ≠ .ok true) :
    timer.afterRun (run (fireAt firing timer tick) s) = { timer with waiting := none } ∧
      (run (fireAt firing timer tick) s).state = (run (firing.fire tick) s).state := by
  cases hfire : (run (firing.fire tick) s).result with
  | error failure =>
    rw [fireAt, run_bind_error hfire]
    exact ⟨rfl, rfl⟩
  | ok more =>
    cases more with
    | true => exact absurd hfire h
    | false =>
      rw [fireAt, run_bind_ok hfire]
      exact ⟨rfl, rfl⟩

/-- A run asked for one firing, and left the timer as that firing says. -/
structure Fired.Recorded (fired : Fired) (timer : Timer) (s : Clocked (Journaled σ))
    (ran : Ran (Clocked (Journaled σ)) ε Timer) : Prop where
  timer : timer.afterRun ran = { timer with waiting := fired.wait? timer.interval }
  starts : ran.state.inner.starts = s.inner.starts
  calls : ran.state.inner.calls = s.inner.calls ++ fired.calls

/-- Firing at a tick asks for one firing. -/
theorem Timer.recorded_fireAt (firing : Firing σ ε) (timer : Timer) (tick : Binary64)
    (s : Clocked (Journaled σ)) :
    (firing.fired tick s).Recorded timer s (run (fireAt firing.journaled timer tick) s) := by
  have hwork := firing.run_work_journaled tick s
  have hresult : (run (firing.journaled.work tick) s).result = (firing.fired tick s).result := by
    rw [hwork]
    rfl
  cases hrefusal : (firing.fired tick s).refusal? with
  | none =>
    obtain ⟨hends, hfire⟩ := firing.journaled.fire_of_refusal_eq_none
      (by rw [hresult]; exact hrefusal)
    obtain ⟨htimer, hstate⟩ := run_fireAt_of_true timer hends
    rw [hfire, hwork] at htimer hstate
    refine ⟨?_, by rw [hstate], ?_⟩
    · rw [htimer, Fired.wait?, hrefusal]
      rfl
    · rw [hstate, Fired.calls, hrefusal]
      rfl
  | some failure =>
    obtain ⟨hends, hfire⟩ := firing.journaled.fire_of_refusal_eq_some
      (by rw [hresult]; exact hrefusal)
    obtain ⟨htimer, hstate⟩ := run_fireAt_of_not_true timer hends
    obtain ⟨hstarts, htold⟩ :=
      firing.journal_onFatal failure (run (firing.journaled.work tick) s).state
    rw [hfire] at hstate
    rw [hwork] at hstarts htold
    refine ⟨?_, ?_, ?_⟩
    · rw [htimer, Fired.wait?, hrefusal]
    · rw [hstate, hwork, hstarts]
    · rw [hstate, hwork, htold, Fired.calls, hrefusal, List.append_assoc]
      rfl

end QueryMetrics
