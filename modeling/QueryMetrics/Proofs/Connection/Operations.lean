import QueryMetrics.Proofs.Connection.Custody
import QueryMetrics.Scripted.Driver

/-!
# Operations on a connection

A connection is opened, renewed, closed, pinged and queried, in any order; only that nobody connects
while a pool is held (`Link.Permitted`). Every operation keeps its pools in custody
(`Link.inCustody_operate`), and so do operations one after another (`Link.inCustody_operations`).

So no pool is leaked, and none is closed twice (`Link.pools_closed_once`).
-/

namespace QueryMetrics

open QueryMetrics.Action

/-- What is done with a connection. -/
inductive LinkOperation where
  | connect
  | reconnect
  | close
  | ping
  | query (statement : String) (timeout : Binary64)

/-- The operation only asks whether the database answers, or for rows. -/
def LinkOperation.onlyAsks : LinkOperation → Bool
  | connect => false
  | reconnect => false
  | close => false
  | ping => true
  | query _ _ => true

namespace Link

variable {ε ε' : Type}

/-- Carries an operation out; the rows of a query are not looked at. -/
def operate (driver : Driver ε) : LinkOperation → LinkAction ε Unit
  | .connect => connect driver
  | .reconnect => reconnect driver
  | .close => close driver
  | .ping => ping driver
  | .query statement timeout => (fun _ => ()) <$> query driver statement timeout

/-- The link after operations, whichever way they end. -/
def afterOperations (driver : Driver ε) :
    List LinkOperation → Clocked (Link ε) → Clocked (Link ε)
  | [], s => s
  | operation :: rest, s => afterOperations driver rest (run (operate driver operation) s).state

/-- Nobody connects while a pool is held. -/
def Permitted (driver : Driver ε) : List LinkOperation → Clocked (Link ε) → Prop
  | [], _ => True
  | operation :: rest, s =>
    (operation = .connect → s.inner.connection.pool = none) ∧
      Permitted driver rest (run (operate driver operation) s).state

/-- The calls that operations make. -/
def madeBy (driver : Driver ε) (operations : List LinkOperation) (s : Clocked (Link ε)) :
    List PoolCall :=
  (afterOperations driver.recorded operations (recorded s)).inner.driver.calls

theorem state_operate_unrecorded (driver : Driver ε) (operation : LinkOperation)
    (s : Clocked (Link (Recorded ε))) :
    (run (operate driver operation) (unrecorded s)).state =
      unrecorded (run (operate driver.recorded operation) s).state := by
  have hseen : Action.SeenAs (Clocked.view (viewed Recorded.inner))
      (operate driver.recorded operation) (operate driver operation) := by
    cases operation with
    | connect => exact seenAs_connect driver.seenAs_recorded
    | reconnect => exact seenAs_reconnect driver.seenAs_recorded
    | close => exact seenAs_close driver.seenAs_recorded
    | ping => exact seenAs_ping driver.seenAs_recorded
    | query statement timeout => exact (seenAs_query driver.seenAs_recorded _ _).map _
  exact congrArg Ran.state (hseen s)

/-- Writing the calls down changes nothing. -/
theorem afterOperations_unrecorded (driver : Driver ε) (operations : List LinkOperation)
    (s : Clocked (Link (Recorded ε))) :
    afterOperations driver operations (unrecorded s) =
      unrecorded (afterOperations driver.recorded operations s) := by
  induction operations generalizing s with
  | nil => rfl
  | cons operation rest ih => rw [afterOperations, state_operate_unrecorded, ih, afterOperations]

theorem permitted_unrecorded (driver : Driver ε) (operations : List LinkOperation)
    (s : Clocked (Link (Recorded ε))) :
    Permitted driver operations (unrecorded s) ↔ Permitted driver.recorded operations s := by
  induction operations generalizing s with
  | nil => rfl
  | cons operation rest ih =>
    rw [Permitted, Permitted, state_operate_unrecorded, ih]
    rfl

/-- From one state to another, pools were in custody. -/
def InCustody (s t : Clocked (Link (Recorded ε))) : Prop :=
  ∃ made, t.inner.driver.calls = s.inner.driver.calls ++ made ∧
    Custody s.inner.connection.pool made t.inner.connection.pool

theorem InCustody.refl (s : Clocked (Link (Recorded ε))) : InCustody s s :=
  ⟨[], (List.append_nil _).symm, .idle _⟩

theorem InCustody.trans {s t u : Clocked (Link (Recorded ε))} (h : InCustody s t)
    (h' : InCustody t u) : InCustody s u := by
  obtain ⟨made, hcalls, hcustody⟩ := h
  obtain ⟨made', hcalls', hcustody'⟩ := h'
  exact ⟨made ++ made', by rw [hcalls', hcalls, List.append_assoc], hcustody.append hcustody'⟩

/-- An operation that only asks visits the pool that is held, or does nothing. -/
theorem asks_cases (driver : Driver ε) {operation : LinkOperation}
    (h : operation.onlyAsks = true) (s : Clocked (Link (Recorded ε))) :
    let t := (run (operate driver.recorded operation) s).state
    (s.inner.connection.pool = none ∧ t = s) ∨
    ∃ pool made, s.inner.connection.pool = some pool ∧ Visit pool made ∧ Asked s t made := by
  intro t
  cases operation with
  | connect => cases h
  | reconnect => cases h
  | close => cases h
  | ping =>
    cases hheld : s.inner.connection.pool with
    | none => exact .inl ⟨rfl, congrArg Ran.state (run_ping_of_none driver.recorded hheld)⟩
    | some pool =>
      obtain ⟨made, hvisit, hasked⟩ := visits_ping driver hheld
      exact .inr ⟨pool, made, rfl, hvisit, hasked⟩
  | query statement timeout =>
    have ht : t = (run (query driver.recorded statement timeout) s).state :=
      congrArg Ran.state (run_map (fun _ => ()) _ s)
    rw [ht]
    cases hheld : s.inner.connection.pool with
    | none =>
      exact .inl ⟨rfl, congrArg Ran.state (run_query_of_none driver.recorded _ _ hheld)⟩
    | some pool =>
      obtain ⟨made, hvisit, hasked⟩ := visits_query driver statement timeout hheld
      exact .inr ⟨pool, made, rfl, hvisit, hasked⟩

theorem inCustody_asks (driver : Driver ε) {operation : LinkOperation}
    (h : operation.onlyAsks = true) (s : Clocked (Link (Recorded ε))) :
    InCustody s (run (operate driver.recorded operation) s).state := by
  obtain ⟨-, hsame⟩ | ⟨pool, made, hheld, hvisit, hasked⟩ := asks_cases driver h s
  · rw [hsame]
    exact .refl s
  · refine ⟨made, hasked.calls, ?_⟩
    rw [hasked.pool, hheld]
    exact .visited hvisit

theorem inCustody_connect (driver : Driver ε) {s : Clocked (Link (Recorded ε))}
    (h : s.inner.connection.pool = none) :
    InCustody s (run (connect driver.recorded) s).state := by
  obtain ⟨failure, -, hasked⟩ | ⟨pool, made, -, hvisit, hcalls, hpool⟩ := made_connect driver s
  · refine ⟨_, hasked.calls, ?_⟩
    rw [hasked.pool, h]
    exact .refused failure
  · refine ⟨_, hcalls, ?_⟩
    rw [hpool, h]
    exact (Custody.opened pool).append (.visited hvisit)

theorem inCustody_close (driver : Driver ε) (s : Clocked (Link (Recorded ε))) :
    InCustody s (run (close driver.recorded) s).state := by
  obtain ⟨hcalls, hpool⟩ := made_close driver s
  refine ⟨_, hcalls, ?_⟩
  rw [hpool]
  cases s.inner.connection.pool with
  | none => exact .idle none
  | some pool => exact .closed pool

/-- **The step of an operation.** Pools stay in custody, unless someone connects while a pool is
held. -/
theorem inCustody_operate (driver : Driver ε) {operation : LinkOperation}
    {s : Clocked (Link (Recorded ε))}
    (h : operation = .connect → s.inner.connection.pool = none) :
    InCustody s (run (operate driver.recorded operation) s).state := by
  cases operation with
  | connect => exact inCustody_connect driver (h rfl)
  | reconnect =>
    have hclose := inCustody_close driver s
    obtain ⟨-, hpool⟩ := made_close driver s
    obtain ⟨failure, -, -, hstate⟩ | ⟨-, -, hstate⟩ := reconnect_cases driver.recorded s
    · rw [operate, hstate]
      exact hclose
    · rw [operate, hstate]
      exact hclose.trans (inCustody_connect driver hpool)
  | close => exact inCustody_close driver s
  | ping => exact inCustody_asks driver rfl s
  | query statement timeout => exact inCustody_asks driver rfl s

/-- **Runs.** Pools stay in custody along any operations. -/
theorem inCustody_operations (driver : Driver ε) (operations : List LinkOperation)
    {s : Clocked (Link (Recorded ε))} (h : Permitted driver.recorded operations s) :
    InCustody s (afterOperations driver.recorded operations s) := by
  induction operations generalizing s with
  | nil => exact .refl s
  | cons operation rest ih => exact (inCustody_operate driver h.1).trans (ih h.2)

/-- When the creation of a pool was refused while connecting, none is held. -/
theorem pool_connect_of_refused (driver : Driver ε) {s : Clocked (Link (Recorded ε))}
    (h : s.inner.connection.pool = none) {made : List PoolCall} {failure : Failure}
    (hcalls : (run (connect driver.recorded) s).state.inner.driver.calls =
      s.inner.driver.calls ++ made) (hrefused : .create (.error failure) ∈ made) :
    (run (connect driver.recorded) s).state.inner.connection.pool = none := by
  obtain ⟨failure', -, hasked⟩ | ⟨pool, visit, -, hvisit, hopened, -⟩ := made_connect driver s
  · exact hasked.pool.trans h
  · -- a visit creates no pool
    have hmade : made = .create (.ok pool) :: visit :=
      List.append_cancel_left (hcalls.symm.trans hopened)
    rw [hmade] at hrefused
    obtain hfirst | hrest := List.mem_cons.mp hrefused
    · cases hfirst
    · have hfits : some pool = none := (hvisit.fits _ hrest).1
      cases hfits

theorem pool_operate_of_refused (driver : Driver ε) {operation : LinkOperation}
    {s : Clocked (Link (Recorded ε))} (h : operation = .connect → s.inner.connection.pool = none)
    {made : List PoolCall} {failure : Failure}
    (hcalls : (run (operate driver.recorded operation) s).state.inner.driver.calls =
      s.inner.driver.calls ++ made) (hrefused : .create (.error failure) ∈ made) :
    (run (operate driver.recorded operation) s).state.inner.connection.pool = none := by
  have hasks : operation.onlyAsks = true →
      (run (operate driver.recorded operation) s).state.inner.connection.pool = none := by
    intro hasks
    obtain ⟨hheld, hsame⟩ | ⟨pool, visit, -, hvisit, hasked⟩ := asks_cases driver hasks s
    · rw [hsame]
      exact hheld
    · have hmade : made = visit := List.append_cancel_left (hcalls.symm.trans hasked.calls)
      rw [hmade] at hrefused
      have hfits : some pool = none := (hvisit.fits _ hrefused).1
      cases hfits
  cases operation with
  | connect => exact pool_connect_of_refused driver (h rfl) hcalls hrefused
  | reconnect =>
    obtain ⟨hclosed, hpool⟩ := made_close driver s
    obtain ⟨failure, -, -, hstate⟩ | ⟨-, -, hstate⟩ := reconnect_cases driver.recorded s
    · rw [operate, hstate]
      exact hpool
    · rw [operate, hstate] at hcalls ⊢
      obtain ⟨connecting, hconnecting, -⟩ := inCustody_connect driver hpool
      -- the refusal is none of the calls that closed the pool of before
      have hmade : made = (s.inner.connection.pool.map PoolCall.close).toList ++ connecting := by
        rw [hconnecting, hclosed, List.append_assoc] at hcalls
        exact (List.append_cancel_left hcalls).symm
      rw [hmade] at hrefused
      obtain hclose | hrest := List.mem_append.mp hrefused
      · obtain ⟨pool, -, hcall⟩ := Option.map_eq_some_iff.mp (Option.mem_toList.mp hclose)
        cases hcall
      · exact pool_connect_of_refused driver hpool hconnecting hrest
  | close => exact (made_close driver s).2
  | ping => exact hasks rfl
  | query statement timeout => exact hasks rfl

theorem afterOperations_append (driver : Driver ε) (first second : List LinkOperation)
    (s : Clocked (Link ε)) :
    afterOperations driver (first ++ second) s =
      afterOperations driver second (afterOperations driver first s) := by
  induction first generalizing s with
  | nil => rfl
  | cons operation rest ih => exact ih _

/-- **No pool is leaked, and none is closed twice.** Let a connection without a pool go through any
operations, where nobody connects while a pool is held, and let the driver fail whenever it likes.

At every call of the driver, and when the operations have ended, the pools that were closed are
those that were created, in the same order, but for at most the last one, and that one is held.
Closing holds no pool, however it ends, and there is nothing to do for a second closing. When the
creation of a pool is refused, none is held. To ping and to query keeps the pool that is held, and
visits this pool only. -/
theorem pools_closed_once (driver : Driver ε) {s : Clocked (Link ε)}
    (hnone : s.inner.connection.pool = none) (past : List LinkOperation)
    (hpermitted : Permitted driver past s) :
    let t := afterOperations driver past s
    let calls := madeBy driver past s
    let closed := (run (close driver) t).state
    (∀ (n : Nat) (call : PoolCall), calls[n]? = some call →
      ∃ held : Option PoolId, call.Fits held ∧
        createdPools (calls.take n) = closedPools (calls.take n) ++ held.toList) ∧
    createdPools calls = closedPools calls ++ t.inner.connection.pool.toList ∧
    ((createdPools calls).Nodup → (closedPools calls).Nodup) ∧
    (closed.inner.connection.pool = none ∧ run (close driver) closed = ⟨.ok (), closed, []⟩ ∧
      madeBy driver (past ++ [.close, .close]) s = madeBy driver (past ++ [.close]) s) ∧
    (∀ (next : LinkOperation) (failure : Failure),
      (next = .connect → t.inner.connection.pool = none) →
      .create (.error failure) ∈ madeBy driver [next] t →
      (run (operate driver next) t).state.inner.connection.pool = none) ∧
    (∀ next : LinkOperation, next.onlyAsks = true →
      (run (operate driver next) t).state.inner.connection.pool = t.inner.connection.pool ∧
      (t.inner.connection.pool = none → madeBy driver [next] t = []) ∧
      ∀ pool, t.inner.connection.pool = some pool → Visit pool (madeBy driver [next] t)) := by
  intro t calls closed
  let u := afterOperations driver.recorded past (recorded s)
  have ht : t = unrecorded u := afterOperations_unrecorded driver past (recorded s)
  have hpool : t.inner.connection.pool = u.inner.connection.pool :=
    congrArg (·.inner.connection.pool) ht
  have hcustody : Custody none calls t.inner.connection.pool := by
    obtain ⟨made, hcalls, hmade⟩ := inCustody_operations driver past (s := recorded s)
      ((permitted_unrecorded driver past (recorded s)).mp hpermitted)
    have hmadeAll : calls = made := hcalls
    rw [hmadeAll, hpool, ← hnone]
    exact hmade
  have hnext : ∀ next : LinkOperation,
      (run (operate driver next) t).state =
        unrecorded (run (operate driver.recorded next) (recorded t)).state :=
    fun next => state_operate_unrecorded driver next (recorded t)
  refine ⟨fun n call hcall => hcustody.fits hcall, hcustody.balance, fun hcreated => ?_, ?_, ?_, ?_⟩
  · have hbalance : createdPools calls = _ := hcustody.balance
    rw [hbalance] at hcreated
    exact (List.nodup_append.mp hcreated).1
  · have hclosed : closed.inner.connection.pool = none := by
      change (run (operate driver .close) t).state.inner.connection.pool = none
      rw [hnext .close]
      exact (made_close driver (recorded t)).2
    refine ⟨hclosed, run_close_of_none driver hclosed, ?_⟩
    have hagain : (run (close driver.recorded) u).state.inner.connection.pool = none :=
      (made_close driver u).2
    rw [madeBy, madeBy, afterOperations_append, afterOperations_append]
    change (run (close driver.recorded)
        (run (close driver.recorded) u).state).state.inner.driver.calls =
      (run (close driver.recorded) u).state.inner.driver.calls
    rw [run_close_of_none driver.recorded hagain]
  · intro next failure hconnect hrefused
    rw [hnext next]
    exact pool_operate_of_refused driver (s := recorded t) hconnect rfl hrefused
  · intro next hasks
    rw [hnext next]
    obtain ⟨hheld, hsame⟩ | ⟨pool, made, hheld, hvisit, hasked⟩ :=
      asks_cases driver hasks (recorded t)
    · have hmade : madeBy driver [next] t = [] := congrArg (·.inner.driver.calls) hsame
      rw [hsame, hmade]
      refine ⟨rfl, fun _ => rfl, fun pool hpool => ?_⟩
      cases hheld.symm.trans hpool
    · have hmade : madeBy driver [next] t = made := hasked.calls
      rw [hmade]
      refine ⟨hasked.pool, fun hpool => ?_, fun pool' hpool => ?_⟩
      · cases hheld.symm.trans hpool
      · obtain rfl := Option.some.inj (hheld.symm.trans hpool)
        exact hvisit

/-- A link without a pool. The first pool cannot be pinged and cannot be closed, and the creation of
the second one is refused. -/
def unluckyLink : Link Scripted.DriverState where
  driver :=
    { scripts :=
        [{ pingFailures := [some (.driver { code := "ORA-03113" })]
           closeFailure := some (.driver { text := "busy" }) },
          { createFailure := some (.driver { code := "ORA-12541" }) }] }
  connection := { settings := { connectString := "db" } }

/-- Reconnecting fails twice over before there is a pool again. -/
def unluckyPast : List LinkOperation :=
  [.connect, .ping, .reconnect, .ping, .reconnect, .query "select 1" 5]

/-- Two pools were created, of which the first is closed and the second is held, until it is closed
in turn. -/
theorem pools_closed_once_unlucky :
    let s : Clocked (Link Scripted.DriverState) := ⟨0, unluckyLink⟩
    let t := afterOperations Scripted.driver unluckyPast s
    let calls := madeBy Scripted.driver unluckyPast s
    s.inner.connection.pool = none ∧ Permitted Scripted.driver unluckyPast s ∧
    createdPools calls = [0, 1] ∧ closedPools calls = [0] ∧ calls.length = 23 ∧
    t.inner.connection.pool = some 1 ∧
    (run (close Scripted.driver) t).state.inner.connection.pool = none ∧
    Visit 1 (madeBy Scripted.driver [.ping] t) := by
  intro s t calls
  have hpermitted : Permitted Scripted.driver unluckyPast s := by
    refine ⟨fun _ => rfl, ?_, ?_, ?_, ?_, ?_, trivial⟩ <;> exact nofun
  have hcreated : createdPools calls = [0, 1] := by decide +kernel
  have hpool : t.inner.connection.pool = some 1 := by decide +kernel
  have hclosed : closedPools calls = [0] := by decide +kernel
  have hlength : calls.length = 23 := by decide +kernel
  obtain ⟨-, -, -, ⟨hclosing, -⟩, -, hasks⟩ :=
    pools_closed_once Scripted.driver (s := s) rfl unluckyPast hpermitted
  obtain ⟨-, -, hvisit⟩ := hasks .ping rfl
  -- by name, so that the operations are not run once more
  have ht : afterOperations Scripted.driver unluckyPast s = t := rfl
  rw [ht] at hclosing hvisit
  exact ⟨rfl, hpermitted, hcreated, hclosed, hlength, hpool, hclosing, hvisit 1 hpool⟩

end Link

end QueryMetrics
