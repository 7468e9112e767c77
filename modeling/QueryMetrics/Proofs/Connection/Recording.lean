import QueryMetrics.Proofs.Connection.Alike
import QueryMetrics.Proofs.Leads
import QueryMetrics.Proofs.View

/-!
# What a connection asks of its driver

Which pools are created, used and closed is no part of what a connection gives. Here a driver is
recorded: every call is written down as far as pools and sessions are concerned, and otherwise the
recorded driver does what it did. A connection with the recorded driver is, through the view that
forgets the record, the connection with the driver itself (`Link.seenAs_ping` and its companions).

Whoever uses a session makes a `Visit`: the session is acquired from a pool, used, and given back.
A ping and a query are a visit of the pool that is held, or nothing at all
(`Link.visits_ping`, `Link.visits_query`). Connecting is the creation of a pool and, if this
succeeds, a visit of it (`Link.made_connect`).
-/

namespace QueryMetrics

open QueryMetrics.Action

variable {ε ε' α β : Type}

/-! ### Recorded drivers -/

/-- A call of a driver, as far as pools and sessions are concerned. -/
inductive PoolCall where
  | create (reply : Except Failure PoolId)
  | close (pool : PoolId)
  | acquire (pool : PoolId) (reply : Except Failure SessionId)
  /-- A session is used in whichever way. -/
  | use (session : SessionId)
  | release (session : SessionId)

/-- The state of a driver with the calls that were made. -/
structure Recorded (ε : Type) where
  inner : ε
  calls : List PoolCall := []

/-- The call, written down with its reply. -/
def recording (entry : Except Failure α → PoolCall) (action : DriverAction ε α) :
    DriverAction (Recorded ε) α := fun state =>
  let ran := run action ⟨state.clock, state.inner.inner⟩
  ⟨ran.result,
   ⟨ran.state.clock, ran.state.inner, state.inner.calls ++ [entry ran.result]⟩, ran.events⟩

/-- The driver, every call of which is written down. -/
def Driver.recorded (driver : Driver ε) : Driver (Recorded ε) where
  createPool parameters := recording .create (driver.createPool parameters)
  closePool pool := recording (fun _ => .close pool) (driver.closePool pool)
  acquire pool := recording (.acquire pool) (driver.acquire pool)
  release session := recording (fun _ => .release session) (driver.release session)
  ping session := recording (fun _ => .use session) (driver.ping session)
  callProcedure session name arguments :=
    recording (fun _ => .use session) (driver.callProcedure session name arguments)
  execute session statement limit :=
    recording (fun _ => .use session) (driver.execute session statement limit)
  closeCursor session := recording (fun _ => .use session) (driver.closeCursor session)

/-! ### Connections seen through a view of their driver -/

/-- Through the view, the detailed driver does what the plain one does. -/
structure Driver.SeenAs (view : ε' → ε) (detailed : Driver ε') (plain : Driver ε) : Prop where
  createPool (parameters : PoolParameters) :
    Action.SeenAs (Clocked.view view) (detailed.createPool parameters) (plain.createPool parameters)
  closePool (pool : PoolId) :
    Action.SeenAs (Clocked.view view) (detailed.closePool pool) (plain.closePool pool)
  acquire (pool : PoolId) :
    Action.SeenAs (Clocked.view view) (detailed.acquire pool) (plain.acquire pool)
  release (session : SessionId) :
    Action.SeenAs (Clocked.view view) (detailed.release session) (plain.release session)
  ping (session : SessionId) :
    Action.SeenAs (Clocked.view view) (detailed.ping session) (plain.ping session)
  callProcedure (session : SessionId) (name : String) (arguments : List String) :
    Action.SeenAs (Clocked.view view) (detailed.callProcedure session name arguments)
      (plain.callProcedure session name arguments)
  execute (session : SessionId) (statement : String) (limit : Option Int) :
    Action.SeenAs (Clocked.view view) (detailed.execute session statement limit)
      (plain.execute session statement limit)
  closeCursor (session : SessionId) :
    Action.SeenAs (Clocked.view view) (detailed.closeCursor session) (plain.closeCursor session)

/-- A recorded driver is seen as the driver that it records. -/
theorem Driver.seenAs_recorded (driver : Driver ε) :
    Driver.SeenAs Recorded.inner driver.recorded driver :=
  ⟨fun _ _ => rfl, fun _ _ => rfl, fun _ _ => rfl, fun _ _ => rfl, fun _ _ => rfl,
    fun _ _ _ _ => rfl, fun _ _ _ _ => rfl, fun _ _ => rfl⟩

/-- A driver behaves as the one that it is seen as. -/
theorem Driver.SeenAs.behavesAs {view : ε' → ε} {detailed : Driver ε'} {plain : Driver ε}
    (h : Driver.SeenAs view detailed plain) (parameters : PoolParameters) :
    Driver.BehavesAs (fun d e => view d = e) parameters parameters detailed plain := by
  have hagree {β : Type} {action : DriverAction ε' β} {action' : DriverAction ε β}
      (hseen : Action.SeenAs (Clocked.view view) action action') :
      Agree (Clocked.Related fun d e => view d = e) action action' := by
    intro s t hrelated
    have ht : t = s.view view := by
      obtain ⟨clock, state⟩ := t
      obtain ⟨hclock, hstate⟩ := hrelated
      cases hclock
      cases hstate
      rfl
    rw [ht, hseen s]
    exact ⟨rfl, ⟨rfl, rfl⟩, rfl⟩
  exact ⟨hagree (h.createPool _), fun _ => hagree (h.closePool _), fun _ => hagree (h.acquire _),
    fun _ => hagree (h.release _), fun _ => hagree (h.ping _),
    fun _ _ _ => hagree (h.callProcedure _ _ _), fun _ _ _ => hagree (h.execute _ _ _),
    fun _ => hagree (h.closeCursor _)⟩

namespace Link

/-- The link with another view of its driver. -/
def viewed (view : ε' → ε) (link : Link ε') : Link ε := ⟨view link.driver, link.connection⟩

variable {view : ε' → ε} {detailed : Driver ε'} {plain : Driver ε}

/-- A state is related to the view of it. -/
theorem alike_viewed (s : Clocked (Link ε')) :
    Alike (fun d e => view d = e) s.inner.connection.settings s.inner.connection.settings s
      (s.view (viewed view)) :=
  ⟨rfl, rfl, rfl, rfl, rfl, rfl, rfl⟩

/-- Connections that look alike through the view are the view of each other. -/
theorem Alike.view_eq {settings : ConnectionSettings} {s : Clocked (Link ε')} {t : Clocked (Link ε)}
    (h : Alike (fun d e => view d = e) settings settings s t) : s.view (viewed view) = t := by
  obtain ⟨clock, driver, settings, pool, dbtype, isSysdba⟩ := s
  obtain ⟨clock', driver', settings', pool', dbtype', isSysdba'⟩ := t
  obtain ⟨hclock, hdriver, hfirst, hsecond, hpool, hdbtype, hsysdba⟩ := h
  cases hclock
  cases hdriver
  cases hfirst
  cases hsecond
  cases hpool
  cases hdbtype
  cases hsysdba
  rfl

/-- What does the same to all connections that look alike is seen through the view. -/
theorem seenAs_of_agree {action : LinkAction ε' α} {action' : LinkAction ε α}
    (h : ∀ settings, Agree (Alike (fun d e => view d = e) settings settings) action action') :
    Action.SeenAs (Clocked.view (viewed view)) action action' := by
  intro s
  obtain ⟨hresult, hstate, hevents⟩ := h _ _ _ (alike_viewed s)
  rw [hresult, hevents, hstate.view_eq]

theorem seenAs_connect (h : Driver.SeenAs view detailed plain) :
    Action.SeenAs (Clocked.view (viewed view)) (connect detailed) (connect plain) :=
  seenAs_of_agree fun _ => agree_connect (h.behavesAs _) (.refl _)

theorem seenAs_close (h : Driver.SeenAs view detailed plain) :
    Action.SeenAs (Clocked.view (viewed view)) (close detailed) (close plain) :=
  seenAs_of_agree fun _ => agree_close (h.behavesAs _)

theorem seenAs_reconnect (h : Driver.SeenAs view detailed plain) :
    Action.SeenAs (Clocked.view (viewed view)) (reconnect detailed) (reconnect plain) :=
  seenAs_of_agree fun _ => agree_reconnect (h.behavesAs _) (.refl _)

theorem seenAs_ping (h : Driver.SeenAs view detailed plain) :
    Action.SeenAs (Clocked.view (viewed view)) (ping detailed) (ping plain) :=
  seenAs_of_agree fun _ => agree_ping (h.behavesAs _)

theorem seenAs_query (h : Driver.SeenAs view detailed plain) (statement : String)
    (timeout : Binary64) :
    Action.SeenAs (Clocked.view (viewed view)) (query detailed statement timeout)
      (query plain statement timeout) :=
  seenAs_of_agree fun _ => agree_query (h.behavesAs _) statement timeout

/-! ### Uses of a session -/

/-- The link before any call is written down. -/
def recorded (s : Clocked (Link ε)) : Clocked (Link (Recorded ε)) :=
  ⟨s.clock, ⟨{ inner := s.inner.driver }, s.inner.connection⟩⟩

/-- The link without the calls that are written down. -/
def unrecorded (s : Clocked (Link (Recorded ε))) : Clocked (Link ε) :=
  s.view (viewed Recorded.inner)

/-- What the link holds and what its driver was asked. -/
structure Asked (s t : Clocked (Link (Recorded ε))) (made : List PoolCall) : Prop where
  calls : t.inner.driver.calls = s.inner.driver.calls ++ made
  pool : t.inner.connection.pool = s.inner.connection.pool

theorem Asked.refl (s : Clocked (Link (Recorded ε))) : Asked s s [] :=
  ⟨(List.append_nil _).symm, rfl⟩

theorem Asked.trans {s t u : Clocked (Link (Recorded ε))} {made made' : List PoolCall}
    (h : Asked s t made) (h' : Asked t u made') : Asked s u (made ++ made') :=
  ⟨by rw [h'.calls, h.calls, List.append_assoc], h'.pool.trans h.pool⟩

/-- A recorded call is written down. -/
theorem asked_call (entry : Except Failure α → PoolCall) (action : DriverAction ε α)
    (s : Clocked (Link (Recorded ε))) :
    Asked s (run (call (recording entry action)) s).state
      [entry (run (call (recording entry action)) s).result] :=
  ⟨rfl, rfl⟩

/-- From one state to another, nothing was asked of the driver but to use the session. -/
def Using (session : SessionId) (s t : Clocked (Link (Recorded ε))) : Prop :=
  ∃ made, (∀ call ∈ made, call = .use session) ∧ Asked s t made

theorem Using.trans {session : SessionId} {s t u : Clocked (Link (Recorded ε))}
    (h : Using session s t) (h' : Using session t u) : Using session s u := by
  obtain ⟨made, huses, hasked⟩ := h
  obtain ⟨made', huses', hasked'⟩ := h'
  exact ⟨made ++ made', List.forall_mem_append.mpr ⟨huses, huses'⟩, hasked.trans hasked'⟩

/-- The action asks nothing of the driver but to use the session, and keeps the pool held. -/
def UsesOnly (session : SessionId) (action : LinkAction (Recorded ε) α) : Prop :=
  Leads (Using session) action

variable {session : SessionId}

/-- An action that leaves the driver and the pool as they are uses nothing. -/
theorem usesOnly_of_quiet {action : LinkAction (Recorded ε) α}
    (h : ∀ s, (run action s).state.inner.driver = s.inner.driver ∧
      (run action s).state.inner.connection.pool = s.inner.connection.pool) :
    UsesOnly session action := by
  intro s
  obtain ⟨hdriver, hpool⟩ := h s
  exact ⟨[], nofun, by rw [hdriver, List.append_nil], hpool⟩

theorem usesOnly_call (action : DriverAction ε α) :
    UsesOnly session (call (recording (fun _ => .use session) action)) :=
  fun s => ⟨[.use session], fun _ => List.mem_singleton.mp, asked_call _ action s⟩

theorem UsesOnly.bind {action : LinkAction (Recorded ε) α} {next : α → LinkAction (Recorded ε) β}
    (h : UsesOnly session action) (hnext : ∀ a, UsesOnly session (next a)) :
    UsesOnly session (action >>= next) :=
  Leads.bind h hnext Using.trans

/-- A handler that only reports uses nothing more. -/
theorem UsesOnly.reporting {action : LinkAction (Recorded ε) Unit} (h : UsesOnly session action)
    (caught : Failure → Bool) (events : Failure → List ConnectionEvent) :
    UsesOnly session (action.catching caught fun failure => Action.report (events failure)) :=
  Leads.catching h (fun _ => usesOnly_of_quiet fun _ => ⟨rfl, rfl⟩) Using.trans

theorem usesOnly_withCursor (driver : Driver ε) {use : LinkAction (Recorded ε) α}
    (h : UsesOnly session use) : UsesOnly session (withCursor driver.recorded session use) :=
  Leads.andFinally h (usesOnly_call (driver.closeCursor session)) Using.trans

theorem usesOnly_askCell (driver : Driver ε) (statement : String) :
    UsesOnly session (askCell driver.recorded session statement) := by
  have hfirst (results : ResultSet) :
      UsesOnly session (firstRow results : LinkAction (Recorded ε) _) := by
    refine usesOnly_of_quiet fun s => ?_
    rw [firstRow]
    split <;> exact ⟨rfl, rfl⟩
  refine (usesOnly_call _).bind fun results => (hfirst results).bind fun row => ?_
  exact usesOnly_of_quiet fun _ => ⟨rfl, rfl⟩

theorem usesOnly_fetchAll (names : List String) (deadline timeout : Binary64)
    (ending : Option Failure) (arrivals : List Arrival) :
    UsesOnly session
      (fetchAll names deadline timeout ending arrivals : LinkAction (Recorded ε) (List Row)) := by
  induction arrivals with
  | nil => cases ending <;> exact usesOnly_of_quiet fun _ => ⟨rfl, rfl⟩
  | cons arrival rest ih =>
    refine (usesOnly_of_quiet fun _ => ⟨rfl, rfl⟩).bind fun _ => ?_
    refine (usesOnly_of_quiet fun _ => ⟨rfl, rfl⟩).bind fun row => ?_
    refine (usesOnly_of_quiet fun _ => ⟨rfl, rfl⟩).bind fun now => ?_
    split
    · exact usesOnly_of_quiet fun _ => ⟨rfl, rfl⟩
    · exact ih.bind fun _ => usesOnly_of_quiet fun _ => ⟨rfl, rfl⟩

end Link

/-! ### Visits -/

/-- The calls of someone who uses a session of a pool. No session is acquired if this is refused,
and one that is acquired is given back at the end. -/
inductive Visit (pool : PoolId) : List PoolCall → Prop where
  | refused (failure : Failure) : Visit pool [.acquire pool (.error failure)]
  | done {session : SessionId} {uses : List PoolCall}
      (only : ∀ call ∈ uses, call = .use session) :
    Visit pool (.acquire pool (.ok session) :: (uses ++ [.release session]))

namespace Link

theorem visits_withSession (driver : Driver ε) (pool : PoolId)
    {use : SessionId → LinkAction (Recorded ε) α} (h : ∀ session, UsesOnly session (use session))
    (s : Clocked (Link (Recorded ε))) :
    ∃ made, Visit pool made ∧
      Asked s (run (withSession driver.recorded pool use) s).state made := by
  have hacquired := asked_call (.acquire pool) (driver.acquire pool) s
  rw [withSession]
  cases hresult : (run (call (driver.recorded.acquire pool)) s).result with
  | error failure =>
    rw [show (run (call (recording _ _)) s).result = _ from hresult] at hacquired
    rw [run_bind_error hresult]
    exact ⟨_, .refused failure, hacquired⟩
  | ok session =>
    rw [show (run (call (recording _ _)) s).result = _ from hresult] at hacquired
    obtain ⟨uses, honly, hused⟩ := h session (run (call (driver.recorded.acquire pool)) s).state
    have hreleased := asked_call (fun _ => .release session) (driver.release session)
      (run (use session) (run (call (driver.recorded.acquire pool)) s).state).state
    rw [run_bind_ok hresult]
    exact ⟨_, .done honly, hacquired.trans (hused.trans hreleased)⟩

theorem run_requirePool_of_held {s : Clocked (Link ε)} {pool : PoolId}
    (h : s.inner.connection.pool = some pool) : run requirePool s = ⟨.ok pool, s, []⟩ := by
  simp only [requirePool, known, run_bind, run_gets, h, run_pure, List.nil_append]

/-- The failure of an action that needs a pool while none is held. -/
def notOpen : Failure := .database .sessionClosed "connection pool is not open"

theorem run_requirePool_of_none {s : Clocked (Link ε)} (h : s.inner.connection.pool = none) :
    run (requirePool : LinkAction ε PoolId) s = ⟨.error notOpen, s, []⟩ := by
  simp only [requirePool, known, run_bind, run_gets, h, run_fail, List.nil_append, notOpen]

/-- Without a pool, a ping asks nothing of the driver. -/
theorem run_ping_of_none (driver : Driver ε) {s : Clocked (Link ε)}
    (h : s.inner.connection.pool = none) : run (ping driver) s = ⟨.error notOpen, s, []⟩ := by
  have hrequire := run_requirePool_of_none h
  rw [ping, run_bind_error (congrArg Ran.result hrequire), hrequire]

theorem run_query_of_none (driver : Driver ε) (statement : String) (timeout : Binary64)
    {s : Clocked (Link ε)} (h : s.inner.connection.pool = none) :
    run (query driver statement timeout) s = ⟨.error notOpen, s, []⟩ := by
  have hrequire := run_requirePool_of_none h
  rw [query, run_bind_error (congrArg Ran.result hrequire), hrequire]

/-- A ping visits the pool that is held. -/
theorem visits_ping (driver : Driver ε) {s : Clocked (Link (Recorded ε))} {pool : PoolId}
    (h : s.inner.connection.pool = some pool) :
    ∃ made, Visit pool made ∧ Asked s (run (ping driver.recorded) s).state made := by
  have hrequire := run_requirePool_of_held h
  rw [ping, run_bind_ok (congrArg Ran.result hrequire), hrequire]
  exact visits_withSession driver pool (fun session => usesOnly_call _) s

theorem visits_query (driver : Driver ε) (statement : String) (timeout : Binary64)
    {s : Clocked (Link (Recorded ε))} {pool : PoolId} (h : s.inner.connection.pool = some pool) :
    ∃ made, Visit pool made ∧
      Asked s (run (query driver.recorded statement timeout) s).state made := by
  have hrequire := run_requirePool_of_held h
  rw [query, run_bind_ok (congrArg Ran.result hrequire), hrequire]
  refine visits_withSession driver pool (fun session => ?_) s
  refine (usesOnly_of_quiet fun _ => ⟨rfl, rfl⟩).bind fun limit => usesOnly_withCursor driver ?_
  exact (usesOnly_call _).bind fun results => usesOnly_fetchAll _ _ _ _ _

theorem visits_readMetadata (driver : Driver ε) (pool : PoolId)
    (s : Clocked (Link (Recorded ε))) :
    ∃ made, Visit pool made ∧ Asked s (run (readMetadata driver.recorded pool) s).state made := by
  refine visits_withSession driver pool (fun session => usesOnly_withCursor driver ?_) s
  have hannounce : UsesOnly session (announce driver.recorded session) :=
    (usesOnly_call _).reporting _ _
  have hdbtype : UsesOnly session (readDbtype driver.recorded session) := by
    refine UsesOnly.reporting ?_ _ _
    refine (usesOnly_askCell driver _).bind fun cell => ?_
    refine (usesOnly_of_quiet fun _ => ⟨rfl, rfl⟩).bind fun dbtype => ?_
    exact usesOnly_of_quiet fun _ => ⟨rfl, rfl⟩
  have hrole : UsesOnly session (readRole driver.recorded session) := by
    refine UsesOnly.reporting ?_ _ _
    exact (usesOnly_askCell driver _).bind fun cell => usesOnly_of_quiet fun _ => ⟨rfl, rfl⟩
  exact hannounce.bind fun _ => hdbtype.bind fun _ => hrole

end Link

end QueryMetrics
