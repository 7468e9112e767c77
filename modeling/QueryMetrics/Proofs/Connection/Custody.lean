import QueryMetrics.Proofs.Connection.Recording

/-!
# Pools in custody

A connection holds at most one pool. Here the calls of its driver are followed while it connects,
closes and reconnects, with a driver that may fail at every call, in whichever way.

* `Link.connect_cases`, `Link.close_cases` and `Link.reconnect_cases` say how this goes, up to what
  is reported, and `Link.made_connect` and `Link.made_close` what is asked of the driver.
* `Custody first made last` says how the pool that is held changes along calls: one is created while
  none is held, and one that is held is visited or closed.
* Wherever pools are in custody, the pools that were closed are those that were created, in the same
  order, but for the one that is held (`Custody.balance`, `Custody.fits`).
-/

namespace QueryMetrics

open QueryMetrics.Action

namespace Link

variable {ε : Type}

/-! ### How the operations go -/

/-- The link that holds a pool. -/
def holding (pool : Option PoolId) (s : Clocked (Link ε)) : Clocked (Link ε) :=
  ⟨s.clock, { s.inner with connection := { s.inner.connection with pool } }⟩

/-- The creation of the pool that the settings ask for. -/
def creation (driver : Driver ε) (s : Clocked (Link ε)) :
    Ran (Clocked (Link ε)) ConnectionEvent PoolId :=
  run (call (driver.createPool s.inner.connection.settings.poolParameters)) s

/-- A failure that is none of the driver means what it says. -/
theorem interpreted_of_not_driver {failure : Failure} (h : failure.isDriver = false) :
    failure.interpreted = failure := by
  cases failure <;> first | rfl | cases h

/-- Creating a pool is one call, whose failures are interpreted. -/
theorem run_createPool (driver : Driver ε) (settings : ConnectionSettings)
    (s : Clocked (Link ε)) :
    let created := run (call (driver.createPool settings.poolParameters)) s
    (run (createPool driver settings) s).result = created.result.mapError Failure.interpreted ∧
      (run (createPool driver settings) s).state = created.state := by
  intro created
  rw [createPool]
  cases hresult : created.result with
  | ok pool =>
    rw [run_catching_ok hresult]
    exact ⟨hresult, rfl⟩
  | error failure =>
    cases hdriver : failure.isDriver with
    | false =>
      rw [run_catching_uncaught hresult hdriver]
      exact ⟨hresult.trans (congrArg _ (interpreted_of_not_driver hdriver).symm), rfl⟩
    | true =>
      rw [run_catching_caught hresult hdriver]
      exact ⟨rfl, rfl⟩

/-- **How connecting goes.** It fails as the creation of the pool does. A pool that is created is
held, whatever becomes of what is asked about the database then. -/
theorem connect_cases (driver : Driver ε) (s : Clocked (Link ε)) :
    let created := run (call (driver.createPool s.inner.connection.settings.poolParameters)) s
    let ran := run (connect driver) s
    (∃ failure, created.result = .error failure ∧ ran.result = .error failure.interpreted ∧
      ran.state = created.state) ∨
    ∃ pool, created.result = .ok pool ∧
      ran.state = (run (readMetadata driver pool) (holding (some pool) created.state)).state := by
  intro created ran
  obtain ⟨hcreated, hstate⟩ := run_createPool driver s.inner.connection.settings s
  cases hresult : created.result with
  | error failure =>
    rw [show (run (call _) s).result = _ from hresult] at hcreated
    refine .inl ⟨failure, rfl, ?_, ?_⟩
    · simp only [ran, connect, run_bind, known, run_gets, run_report, hcreated, mapError_error]
    · simp only [ran, connect, run_bind, known, run_gets, run_report, hcreated, mapError_error,
        hstate, created]
  | ok pool =>
    rw [show (run (call _) s).result = _ from hresult] at hcreated
    refine .inr ⟨pool, rfl, ?_⟩
    -- what is asked about the database, and the report after it
    let telling : LinkAction ε Unit := do
      readMetadata driver pool
      reportConnected
    have htelling : ∀ t, (run telling t).state = (run (readMetadata driver pool) t).state := by
      intro t
      cases htold : (run (readMetadata driver pool) t).result with
      | error failure => rw [run_bind_error htold]
      | ok _ =>
        rw [run_bind_ok htold]
        rfl
    have hcaught : ∀ t, (run (telling.catching Failure.isDriver fun failure =>
        Action.report [.metadataUnread failure]) t).state = (run telling t).state := by
      intro t
      cases htold : (run telling t).result with
      | ok _ => rw [run_catching_ok htold]
      | error failure =>
        cases hdriver : failure.isDriver with
        | false => rw [run_catching_uncaught htold hdriver]
        | true =>
          rw [run_catching_caught htold hdriver]
          rfl
    rw [← htelling, ← hcaught]
    simp only [ran, connect, run_bind, known, run_gets, run_report, hcreated, mapError_ok, hstate,
      update, run_modify]
    rfl

/-- Without a pool there is nothing to close. -/
theorem run_close_of_none (driver : Driver ε) {s : Clocked (Link ε)}
    (h : s.inner.connection.pool = none) : run (close driver) s = ⟨.ok (), s, []⟩ := by
  obtain ⟨clock, driverState, settings, pool, dbtype, isSysdba⟩ := s
  obtain rfl : pool = none := h
  rfl

/-- **How closing goes.** The pool is let go of before the driver is asked to close it, once. -/
theorem close_cases (driver : Driver ε) {s : Clocked (Link ε)} {pool : PoolId}
    (h : s.inner.connection.pool = some pool) :
    (run (close driver) s).state = (run (call (driver.closePool pool)) (holding none s)).state := by
  let closing : LinkAction ε Unit := call (driver.closePool pool)
  have hcaught : ∀ t, (run (closing.catching Failure.isDriver fun failure =>
      Action.report [.closeFailed failure]) t).state = (run closing t).state := by
    intro t
    cases hclosed : (run closing t).result with
    | ok _ => rw [run_catching_ok hclosed]
    | error failure =>
      cases hdriver : failure.isDriver with
      | false => rw [run_catching_uncaught hclosed hdriver]
      | true =>
        rw [run_catching_caught hclosed hdriver]
        rfl
  rw [← hcaught]
  simp only [close, known, update, run_bind, run_gets, h, run_modify]
  rfl

/-- **How reconnecting goes.** It is closing and, unless this fails, connecting. -/
theorem reconnect_cases (driver : Driver ε) (s : Clocked (Link ε)) :
    let closing := run (close driver) s
    let ran := run (reconnect driver) s
    (∃ failure, closing.result = .error failure ∧ ran.result = .error failure ∧
      ran.state = closing.state) ∨
    (closing.result = .ok () ∧ ran.result = (run (connect driver) closing.state).result ∧
      ran.state = (run (connect driver) closing.state).state) := by
  intro closing ran
  cases hresult : closing.result with
  | error failure =>
    refine .inl ⟨failure, rfl, ?_, ?_⟩ <;>
      simp only [ran, reconnect, known, run_bind, run_gets, run_report,
        show (run (close driver) s).result = _ from hresult, closing]
  | ok _ =>
    refine .inr ⟨rfl, ?_, ?_⟩ <;>
      simp only [ran, reconnect, known, run_bind, run_gets, run_report,
        show (run (close driver) s).result = _ from hresult, closing]

/-! ### What is asked of the driver -/

/-- Connecting creates a pool and visits it, or fails to create one. -/
theorem made_connect (driver : Driver ε) (s : Clocked (Link (Recorded ε))) :
    let created := run (call (driver.recorded.createPool
      s.inner.connection.settings.poolParameters)) s
    let t := (run (connect driver.recorded) s).state
    (∃ failure, created.result = .error failure ∧ Asked s t [.create (.error failure)]) ∨
    ∃ pool made, created.result = .ok pool ∧ Visit pool made ∧
      t.inner.driver.calls = s.inner.driver.calls ++ .create (.ok pool) :: made ∧
      t.inner.connection.pool = some pool := by
  intro created t
  have hasked : Asked s created.state [.create created.result] := asked_call ..
  obtain ⟨failure, hcreated, -, hstate⟩ | ⟨pool, hcreated, hstate⟩ :=
    connect_cases driver.recorded s
  · have hfailure : created.result = .error failure := hcreated
    rw [hfailure] at hasked
    rw [show t = created.state from hstate]
    exact .inl ⟨failure, hfailure, hasked⟩
  · have hpool : created.result = .ok pool := hcreated
    rw [hpool] at hasked
    obtain ⟨made, hvisit, hmade⟩ :=
      visits_readMetadata driver pool (holding (some pool) created.state)
    have hcalls := hmade.calls
    rw [show (holding (some pool) created.state).inner.driver.calls = _ from hasked.calls,
      List.append_assoc] at hcalls
    rw [show t = _ from hstate]
    exact .inr ⟨pool, made, hpool, hvisit, hcalls, hmade.pool⟩

/-- Closing asks the driver to close the pool that is held, and holds none afterwards. -/
theorem made_close (driver : Driver ε) (s : Clocked (Link (Recorded ε))) :
    let t := (run (close driver.recorded) s).state
    t.inner.driver.calls =
      s.inner.driver.calls ++ (s.inner.connection.pool.map PoolCall.close).toList ∧
    t.inner.connection.pool = none := by
  intro t
  cases hheld : s.inner.connection.pool with
  | none =>
    have ht : t = s := congrArg Ran.state (run_close_of_none driver.recorded hheld)
    rw [ht]
    exact ⟨(List.append_nil _).symm, hheld⟩
  | some pool =>
    have hasked := asked_call (fun _ => .close pool) (driver.closePool pool) (holding none s)
    rw [show t = _ from close_cases driver.recorded hheld]
    exact ⟨hasked.calls, hasked.pool⟩

end Link

/-! ### Custody -/

namespace PoolCall

/-- The pool that the call created. -/
def created? : PoolCall → Option PoolId
  | create (.ok pool) => some pool
  | create (.error _) => none
  | close _ => none
  | acquire _ _ => none
  | use _ => none
  | release _ => none

/-- The pool that the call was to close. -/
def closed? : PoolCall → Option PoolId
  | create _ => none
  | close pool => some pool
  | acquire _ _ => none
  | use _ => none
  | release _ => none

/-- The call may be made while this pool, or none, is held. -/
def Fits (held : Option PoolId) : PoolCall → Prop
  | create _ => held = none
  | close pool => held = some pool
  | acquire pool _ => held = some pool
  | use _ => held.isSome = true
  | release _ => held.isSome = true

end PoolCall

/-- The pools that were created along calls. -/
def createdPools (calls : List PoolCall) : List PoolId := calls.filterMap PoolCall.created?

/-- The pools that were closed along calls. -/
def closedPools (calls : List PoolCall) : List PoolId := calls.filterMap PoolCall.closed?

@[simp] theorem createdPools_append (calls calls' : List PoolCall) :
    createdPools (calls ++ calls') = createdPools calls ++ createdPools calls' :=
  List.filterMap_append

@[simp] theorem closedPools_append (calls calls' : List PoolCall) :
    closedPools (calls ++ calls') = closedPools calls ++ closedPools calls' :=
  List.filterMap_append

/-- Along these calls, the pool that is held at first becomes the one that is held at last. -/
inductive Custody : Option PoolId → List PoolCall → Option PoolId → Prop where
  | idle (held : Option PoolId) : Custody held [] held
  | refused (failure : Failure) : Custody none [.create (.error failure)] none
  | opened (pool : PoolId) : Custody none [.create (.ok pool)] (some pool)
  | visited {pool : PoolId} {made : List PoolCall} (visit : Visit pool made) :
    Custody (some pool) made (some pool)
  | closed (pool : PoolId) : Custody (some pool) [.close pool] none
  | append {first between last : Option PoolId} {made made' : List PoolCall}
      (h : Custody first made between) (h' : Custody between made' last) :
    Custody first (made ++ made') last

/-- The calls of a visit fit the pool that is visited. -/
theorem Visit.fits {pool : PoolId} {made : List PoolCall} (h : Visit pool made) :
    ∀ call ∈ made, call.Fits (some pool) ∧ call.created? = none ∧ call.closed? = none := by
  intro call hcall
  cases h with
  | refused failure =>
    obtain rfl := List.mem_singleton.mp hcall
    exact ⟨rfl, rfl, rfl⟩
  | done honly =>
    obtain rfl | hrest := List.mem_cons.mp hcall
    · exact ⟨rfl, rfl, rfl⟩
    · obtain huse | hrelease := List.mem_append.mp hrest
      · rw [honly call huse]
        exact ⟨rfl, rfl, rfl⟩
      · obtain rfl := List.mem_singleton.mp hrelease
        exact ⟨rfl, rfl, rfl⟩

/-- No pool is created or closed in any part of a visit. -/
theorem Visit.pools_take {pool : PoolId} {made : List PoolCall} (h : Visit pool made) (n : Nat) :
    createdPools (made.take n) = [] ∧ closedPools (made.take n) = [] := by
  refine ⟨List.filterMap_eq_nil_iff.mpr ?_, List.filterMap_eq_nil_iff.mpr ?_⟩
  · exact fun call hcall => (h.fits call (List.mem_of_mem_take hcall)).2.1
  · exact fun call hcall => (h.fits call (List.mem_of_mem_take hcall)).2.2

namespace Custody

variable {first last : Option PoolId} {made : List PoolCall}

/-- **Pools balance.** A pool that was held at first or created is closed or held at last. -/
theorem balance (h : Custody first made last) :
    first.toList ++ createdPools made = closedPools made ++ last.toList := by
  induction h with
  | idle held => exact List.append_nil _
  | refused failure => rfl
  | opened pool => rfl
  | @visited pool made visit =>
    obtain ⟨hcreated, hclosed⟩ := visit.pools_take made.length
    rw [List.take_length] at hcreated hclosed
    rw [hcreated, hclosed]
    rfl
  | closed pool => rfl
  | @append first between last made made' h h' ih ih' =>
    rw [createdPools_append, closedPools_append, ← List.append_assoc, ih, List.append_assoc, ih',
      List.append_assoc]

/-- A call that is the only one is made at first. -/
theorem fits_singleton {only call : PoolCall} {held : Option PoolId} {n : Nat}
    (hfits : only.Fits held) (hcall : [only][n]? = some call) :
    ∃ held' : Option PoolId, call.Fits held' ∧
      held.toList ++ createdPools ([only].take n) =
        closedPools ([only].take n) ++ held'.toList := by
  cases n with
  | zero =>
    obtain rfl := Option.some.inj hcall
    exact ⟨held, hfits, List.append_nil _⟩
  | succ n => cases hcall

/-- **At every call.** What was closed before a call is what was held at first or created before,
but for the pool that is held at the call, and the call fits it. -/
theorem fits (h : Custody first made last) {n : Nat} {call : PoolCall}
    (hcall : made[n]? = some call) :
    ∃ held : Option PoolId, call.Fits held ∧
      first.toList ++ createdPools (made.take n) = closedPools (made.take n) ++ held.toList := by
  induction h generalizing n with
  | idle held => cases hcall
  | refused failure => exact fits_singleton rfl hcall
  | opened pool => exact fits_singleton rfl hcall
  | @visited pool made visit =>
    obtain ⟨hcreated, hclosed⟩ := visit.pools_take n
    refine ⟨some pool, (visit.fits call (List.mem_of_getElem? hcall)).1, ?_⟩
    rw [hcreated, hclosed]
    rfl
  | closed pool => exact fits_singleton rfl hcall
  | @append first between last made made' h h' ih ih' =>
    rw [List.getElem?_append] at hcall
    rw [List.take_append]
    -- a call of the second part comes after all calls of the first
    split at hcall
    · rename_i hn
      have hnone : n - made.length = 0 := Nat.sub_eq_zero_of_le (Nat.le_of_lt hn)
      rw [hnone, List.take_zero, List.append_nil]
      exact ih hcall
    · rename_i hn
      obtain ⟨held, hfits, hbalance⟩ := ih' hcall
      refine ⟨held, hfits, ?_⟩
      rw [List.take_of_length_le (Nat.le_of_not_lt hn), createdPools_append, closedPools_append,
        ← List.append_assoc, h.balance, List.append_assoc, hbalance, List.append_assoc]

end Custody

end QueryMetrics
