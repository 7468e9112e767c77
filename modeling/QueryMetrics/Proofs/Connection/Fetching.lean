import QueryMetrics.Proofs.Connection.Recording
import QueryMetrics.Proofs.Row.Decoding
import QueryMetrics.Scripted.Driver

/-!
# Everything or a failure

A query acquires a session, runs its statement and fetches the rows of the result one after another.
Every row is decoded when it is there, and the clock is looked at when it is decoded. Any of these
steps can fail, and behind the last row fetching can fail as well.

* All that fails on the way, as if every step were taken, is a list in the order of the steps
  (`queryFailures`). The query fails with the first of them, the errors of the driver interpreted,
  and gives all rows if there is none (`result_query`).
* Nothing fails exactly if the session is acquired, the statement runs, the result is complete, and
  every row decodes and does not come behind the deadline (`Completes`).

Together this is `query_complete_or_failed`. What it assumes of the driver is that sessions and
cursors can be given back.
-/

namespace QueryMetrics

open QueryMetrics.Action

variable {ε α : Type}

/-- Sessions and cursors can always be given back. -/
structure Driver.GivesBack (driver : Driver ε) : Prop where
  release (session : SessionId) (s : Clocked ε) : (run (driver.release session) s).result = .ok ()
  closeCursor (session : SessionId) (s : Clocked ε) :
    (run (driver.closeCursor session) s).result = .ok ()

namespace Link

variable {driver : Driver ε}

/-! ### Giving back -/

theorem result_andFinally_of_ok {action : LinkAction ε α} {last : LinkAction ε Unit}
    (h : ∀ s, (run last s).result = .ok ()) (s : Clocked (Link ε)) :
    (run (action.andFinally last) s).result = (run action s).result := by
  rw [run_andFinally, h]

/-- A use of a session ends as the session is acquired or as it is used. -/
theorem result_withSession (h : driver.GivesBack) (pool : PoolId)
    (use : SessionId → LinkAction ε α) (s : Clocked (Link ε)) :
    (run (withSession driver pool use) s).result =
      (run (call (driver.acquire pool) >>= use) s).result := by
  cases hacquired : (run (call (driver.acquire pool)) s).result with
  | error failure => rw [withSession, run_bind_error hacquired, run_bind_error hacquired]
  | ok session =>
    rw [withSession, run_bind_ok hacquired, run_bind_ok hacquired]
    exact result_andFinally_of_ok (fun _ => h.release session _) _

theorem result_withCursor (h : driver.GivesBack) (session : SessionId) (use : LinkAction ε α)
    (s : Clocked (Link ε)) :
    (run (withCursor driver session use) s).result = (run use s).result :=
  result_andFinally_of_ok (fun _ => h.closeCursor session _) s

/-! ### Fetching -/

/-- The rows with the times at which they are there, the first of them awaited from a start. -/
def timed (start : Binary64) : List Arrival → List (Arrival × Binary64)
  | [] => []
  | arrival :: rest => (arrival, start + arrival.wait) :: timed (start + arrival.wait) rest

/-- What fails about a row: it is decoded, and then the clock is looked at. -/
def rowFailures (names : List String) (deadline timeout : Binary64) (row : Arrival × Binary64) :
    List Failure :=
  decodingFailures names row.1.cells ++ if deadline < row.2 then [overdue timeout] else []

/-- What fails while rows are fetched. -/
def fetchFailures (names : List String) (deadline timeout : Binary64) (ending : Option Failure)
    (rows : List (Arrival × Binary64)) : List Failure :=
  rows.flatMap (rowFailures names deadline timeout) ++ ending.toList

/-- Fetching gives every row, unless something fails. -/
theorem result_fetchAll (names : List String) (deadline timeout : Binary64)
    (ending : Option Failure) (arrivals : List Arrival) (s : Clocked (Link ε)) :
    (run (fetchAll names deadline timeout ending arrivals) s).result =
      unlessFailed (fetchFailures names deadline timeout ending (timed s.clock arrivals))
        (arrivals.map fun arrival =>
          Entries.ofList (names.zip (arrival.cells.map Cell.shown))) := by
  induction arrivals generalizing s with
  | nil => cases ending <;> rfl
  | cons arrival rest ih =>
    have hsplit : fetchFailures names deadline timeout ending (timed s.clock (arrival :: rest)) =
        decodingFailures names arrival.cells ++
          ((if deadline < s.clock + arrival.wait then [overdue timeout] else []) ++
            fetchFailures names deadline timeout ending (timed (s.clock + arrival.wait) rest)) := by
      simp only [fetchFailures, timed, rowFailures, List.flatMap_cons, List.append_assoc]
    rw [hsplit, fetchAll]
    simp only [run_bind, run_modify, run_ofExcept, run_gets, Clocked.advance, decodeRow_eq]
    cases decodingFailures names arrival.cells with
    | cons failure others => rfl
    | nil =>
      rw [unlessFailed_nil, List.nil_append]
      dsimp only
      split
      · rfl
      · -- the row is there in time, so the rest decides
        simp only [run_bind, ih, List.nil_append, List.map_cons, run_pure]
        cases fetchFailures names deadline timeout ending (timed (s.clock + arrival.wait) rest) <;>
          rfl

/-! ### Queries -/

/-- Acquires a session and runs a statement on it, round trips limited. -/
def execution (driver : Driver ε) (pool : PoolId) (statement : String) (limit : Int) :
    LinkAction ε ResultSet := do
  let session ← call (driver.acquire pool)
  call (driver.execute session statement (some limit))

/-- What fails in a query. -/
def queryFailures (driver : Driver ε) (pool : PoolId) (statement : String) (limit : Int)
    (timeout : Binary64) (s : Clocked (Link ε)) : List Failure :=
  let executed := run (execution driver pool statement limit) s
  match executed.result with
  | .error failure => [failure]
  | .ok results =>
    fetchFailures (columnNames results.columns) (s.clock + timeout) timeout results.ending
      (timed executed.state.clock results.arrivals)

/-- The query comes to its end: nothing fails before the end of the result is reached. -/
structure Completes (executed : Ran (Clocked (Link ε)) ConnectionEvent ResultSet)
    (deadline : Binary64) (results : ResultSet) : Prop where
  result : executed.result = .ok results
  ending : results.ending = none
  texts : ∀ arrival ∈ results.arrivals, HasTexts results.columns arrival.cells
  timely : ∀ row ∈ timed executed.state.clock results.arrivals, ¬ deadline < row.2

theorem exists_roundTripLimit {timeout : Binary64} (h : (timeout * 1000).isFinite = true) :
    ∃ limit, roundTripLimit timeout = .ok limit := by
  unfold roundTripLimit
  cases hscaled : timeout * 1000 with
  | nan => rw [hscaled] at h; cases h
  | infinite negative => rw [hscaled] at h; cases h
  | finite negative size => exact ⟨_, rfl⟩

/-- The rows of the executed statement as tables. -/
def queryRows (executed : Ran (Clocked (Link ε)) ConnectionEvent ResultSet) : List Row :=
  match executed.result with
  | .error _ => []
  | .ok results =>
    results.arrivals.map fun arrival =>
      Entries.ofList ((columnNames results.columns).zip (arrival.cells.map Cell.shown))

/-- A query gives all rows, unless something fails. -/
theorem result_query (h : driver.GivesBack) {s : Clocked (Link ε)} {pool : PoolId}
    (hheld : s.inner.connection.pool = some pool) (statement : String) {timeout : Binary64}
    {limit : Int} (hlimit : roundTripLimit timeout = .ok limit) :
    (run (query driver statement timeout) s).result =
      (unlessFailed (queryFailures driver pool statement limit timeout s)
        (queryRows (run (execution driver pool statement limit) s))).mapError
          Failure.interpreted := by
  have hrequire := run_requirePool_of_held hheld
  rw [query, run_bind_ok (congrArg Ran.result hrequire), hrequire]
  simp only [run_bind, run_gets, run_mapFailure]
  rw [result_withSession h, queryFailures, queryRows, execution]
  congr 1
  cases hacquired : (run (call (driver.acquire pool)) s).result with
  | error failure =>
    rw [run_bind_error hacquired, run_bind_error hacquired]
    rfl
  | ok session =>
    rw [run_bind_ok hacquired, run_bind_ok hacquired]
    -- the limit is computed when there is a session; as it exists, this is no step that can fail
    simp only [hlimit, mapError_ok, run_bind, run_ofExcept, result_withCursor h]
    cases (run (call (driver.execute session statement (some limit)))
        (run (call (driver.acquire pool)) s).state).result with
    | error failure => rfl
    | ok results => exact result_fetchAll ..

theorem map_fst_timed (start : Binary64) (arrivals : List Arrival) :
    (timed start arrivals).map (·.1) = arrivals := by
  induction arrivals generalizing start with
  | nil => rfl
  | cons arrival rest ih => rw [timed, List.map_cons, ih]

/-- What can be said of rows with their times can be said of the rows. -/
theorem forall_mem_timed {start : Binary64} {arrivals : List Arrival} {P : Arrival → Prop} :
    (∀ row ∈ timed start arrivals, P row.1) ↔ ∀ arrival ∈ arrivals, P arrival := by
  rw [← List.forall_mem_map, map_fst_timed]

/-- Nothing fails about a row that decodes and is there by the deadline. -/
theorem rowFailures_eq_nil_iff {columns : List String} {deadline timeout : Binary64}
    {row : Arrival × Binary64} :
    rowFailures (columnNames columns) deadline timeout row = [] ↔
      HasTexts columns row.1.cells ∧ ¬ deadline < row.2 := by
  rw [rowFailures, List.append_eq_nil_iff, decodingFailures_eq_nil_iff]
  split <;> simp [*]

/-- Nothing fails exactly if the query comes to its end. -/
theorem queryFailures_eq_nil_iff {pool : PoolId} {statement : String} {limit : Int}
    {timeout : Binary64} {s : Clocked (Link ε)} :
    queryFailures driver pool statement limit timeout s = [] ↔
      ∃ results,
        Completes (run (execution driver pool statement limit) s) (s.clock + timeout) results := by
  rw [queryFailures]
  cases h : (run (execution driver pool statement limit) s).result with
  | error failure =>
    refine ⟨nofun, fun ⟨results, hcompletes⟩ => ?_⟩
    rw [hcompletes.result] at h
    cases h
  | ok results =>
    simp only [fetchFailures, List.append_eq_nil_iff, List.flatMap_eq_nil_iff,
      rowFailures_eq_nil_iff, Option.toList_eq_nil_iff]
    constructor
    · rintro ⟨hrows, hending⟩
      exact ⟨results, h, hending, forall_mem_timed.mp fun row hrow => (hrows row hrow).1,
        fun row hrow => (hrows row hrow).2⟩
    · rintro ⟨other, hcompletes⟩
      obtain rfl : other = results := by
        rw [hcompletes.result] at h
        exact Except.ok.inj h
      exact ⟨fun row hrow => ⟨forall_mem_timed.mpr hcompletes.texts row hrow,
        hcompletes.timely row hrow⟩, hcompletes.ending⟩

/-- The rows of a query that comes to its end show what was fetched. -/
theorem Completes.forall₂_queryRows {executed : Ran (Clocked (Link ε)) ConnectionEvent ResultSet}
    {deadline : Binary64} {results : ResultSet} (h : Completes executed deadline results) :
    List.Forall₂ (fun arrival row => IsTable results.columns arrival.cells row) results.arrivals
      (queryRows executed) := by
  rw [queryRows, h.result]
  dsimp only
  rw [List.forall₂_map_right_iff, List.forall₂_same]
  exact fun arrival harrival => (h.texts arrival harrival).isTable

/-- **Everything or a failure.** A query gives rows exactly if a session is acquired, the statement
runs, its result is fetched to the end, and every row has a readable cell for every column and is
there by the deadline. Then it gives one table for every row, in order. Otherwise it fails with the
first step that fails, errors of the driver interpreted. -/
theorem query_complete_or_failed (h : driver.GivesBack) {s : Clocked (Link ε)} {pool : PoolId}
    (hheld : s.inner.connection.pool = some pool) (statement : String) {timeout : Binary64}
    (hfinite : (timeout * 1000).isFinite = true) :
    ∃ limit, roundTripLimit timeout = .ok limit ∧
      let executed := run (execution driver pool statement limit) s
      let result := (run (query driver statement timeout) s).result
      ((∃ rows, result = .ok rows) ↔ ∃ results, Completes executed (s.clock + timeout) results) ∧
      (∀ rows, result = .ok rows → ∃ results, Completes executed (s.clock + timeout) results ∧
        List.Forall₂ (fun arrival row => IsTable results.columns arrival.cells row)
          results.arrivals rows) ∧
      ∀ failure, result = .error failure →
        ∃ first, (queryFailures driver pool statement limit timeout s).head? = some first ∧
          failure = first.interpreted := by
  obtain ⟨limit, hlimit⟩ := exists_roundTripLimit hfinite
  refine ⟨limit, hlimit, ?_⟩
  intro executed result
  have hresult : result = _ := result_query h hheld statement hlimit
  have hcompletes : queryFailures driver pool statement limit timeout s = [] ↔
      ∃ results, Completes executed (s.clock + timeout) results :=
    queryFailures_eq_nil_iff
  rw [hresult, ← hcompletes]
  cases hfailures : queryFailures driver pool statement limit timeout s with
  | nil =>
    obtain ⟨results, hdone⟩ := hcompletes.mp hfailures
    refine ⟨⟨fun _ => rfl, fun _ => ⟨_, rfl⟩⟩, ?_, nofun⟩
    rintro _ ⟨⟩
    exact ⟨results, hdone, hdone.forall₂_queryRows⟩
  | cons first rest =>
    refine ⟨⟨nofun, nofun⟩, nofun, ?_⟩
    rintro _ ⟨⟩
    exact ⟨first, rfl, rfl⟩

/-- The driver that follows scripts takes everything back. -/
theorem givesBack_scripted : Scripted.driver.GivesBack := ⟨fun _ _ => rfl, fun _ _ => rfl⟩

/-- A pool is held on which a query has two rows, which take two seconds each. The names of two of
its columns differ in their spelling only. -/
def slowLink : Link Scripted.DriverState where
  driver :=
    { pools :=
        [{ queries := [("select",
            { columns := ["Job", "load", "JOB"]
              rows := [[.value (.text "a"), .value (.integer 1), .largeObject (.text "b")],
                [.value (.text "c"), .value .null, .value (.text "d")]]
              rowCost := 2 })] }] }
  connection := { settings := { connectString := "db" }, pool := some 0 }

/-- Five seconds are enough for both rows; within three seconds only one of them would come, and
then there is none. -/
theorem query_complete_or_failed_slow :
    let s : Clocked (Link Scripted.DriverState) := ⟨0, slowLink⟩
    let rows : List Row := [[("job", "b"), ("load", "1")], [("job", "d"), ("load", "")]]
    s.inner.connection.pool = some 0 ∧ ((5 : Binary64) * 1000).isFinite = true ∧
    ((3 : Binary64) * 1000).isFinite = true ∧
    (run (query Scripted.driver "select" 5) s).result = .ok rows ∧
    (∃ results,
      Completes (run (execution Scripted.driver 0 "select" 5000) s) (s.clock + 5) results ∧
      List.Forall₂ (fun arrival row => IsTable results.columns arrival.cells row)
        results.arrivals rows) ∧
    (run (query Scripted.driver "select" 3) s).result = .error (overdue 3) ∧
    ∃ first, (queryFailures Scripted.driver 0 "select" 3000 3 s).head? = some first ∧
      overdue 3 = first.interpreted := by
  intro s rows
  have hfive : ((5 : Binary64) * 1000).isFinite = true := by decide +kernel
  have hthree : ((3 : Binary64) * 1000).isFinite = true := by decide +kernel
  have hrows : (run (query Scripted.driver "select" 5) s).result = .ok rows := by decide +kernel
  have hlate : (run (query Scripted.driver "select" 3) s).result = .error (overdue 3) := by
    decide +kernel
  obtain ⟨limit, hlimit, -, hcomplete, -⟩ :=
    query_complete_or_failed givesBack_scripted (s := s) rfl "select" hfive
  obtain ⟨limit', hlimit', -, -, hfails⟩ :=
    query_complete_or_failed givesBack_scripted (s := s) rfl "select" hthree
  have hseconds : roundTripLimit 5 = .ok 5000 := by decide +kernel
  have hseconds' : roundTripLimit 3 = .ok 3000 := by decide +kernel
  obtain rfl : limit = 5000 := Except.ok.inj (hlimit.symm.trans hseconds)
  obtain rfl : limit' = 3000 := Except.ok.inj (hlimit'.symm.trans hseconds')
  exact ⟨rfl, hfive, hthree, hrows, hcomplete rows hrows, hlate, hfails _ hlate⟩

end Link

end QueryMetrics
