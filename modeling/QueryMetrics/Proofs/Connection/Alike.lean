import QueryMetrics.Connection.Query
import QueryMetrics.Proofs.Agreement

/-!
# Connections that look alike

Two connections look alike if the same is known about their databases and the same pool is held,
while their settings and the states of their drivers may differ (`Link.Alike`). Let the drivers
behave alike: related states give the same replies and stay related (`Driver.BehavesAs`). Let the
settings show alike: what a connection reads off them besides the parameters of its pool is the same
(`ConnectionSettings.ShowsAs`). Then every operation gives the same result, takes the same time and
reports the same events for both connections, and they still look alike afterwards.
-/

namespace QueryMetrics

open QueryMetrics.Action

variable {ε ε' α : Type}

/-- The same moment, with related states. -/
def Clocked.Related {σ τ : Type} (related : σ → τ → Prop) (s : Clocked σ) (t : Clocked τ) : Prop :=
  s.clock = t.clock ∧ related s.inner t.inner

/-- From related states, the drivers give the same replies and reach related states, in the same
time. They are asked to create pools with parameters of their own. -/
structure Driver.BehavesAs (related : ε → ε' → Prop) (parameters parameters' : PoolParameters)
    (first : Driver ε) (second : Driver ε') : Prop where
  createPool : Agree (Clocked.Related related) (first.createPool parameters)
    (second.createPool parameters')
  closePool (pool : PoolId) :
    Agree (Clocked.Related related) (first.closePool pool) (second.closePool pool)
  acquire (pool : PoolId) :
    Agree (Clocked.Related related) (first.acquire pool) (second.acquire pool)
  release (session : SessionId) :
    Agree (Clocked.Related related) (first.release session) (second.release session)
  ping (session : SessionId) :
    Agree (Clocked.Related related) (first.ping session) (second.ping session)
  callProcedure (session : SessionId) (name : String) (arguments : List String) :
    Agree (Clocked.Related related) (first.callProcedure session name arguments)
      (second.callProcedure session name arguments)
  execute (session : SessionId) (statement : String) (limit : Option Int) :
    Agree (Clocked.Related related) (first.execute session statement limit)
      (second.execute session statement limit)
  closeCursor (session : SessionId) :
    Agree (Clocked.Related related) (first.closeCursor session) (second.closeCursor session)

/-- What a connection reads off the settings is the same, but for the parameters of its pool. -/
structure ConnectionSettings.ShowsAs (first second : ConnectionSettings) : Prop where
  maskedDsn : first.maskedDsn = second.maskedDsn
  externalAuth : first.externalAuth = second.externalAuth
  maxIdle : first.maxIdle = second.maxIdle
  maxOpen : first.maxOpen = second.maxOpen

theorem ConnectionSettings.ShowsAs.refl (settings : ConnectionSettings) :
    settings.ShowsAs settings :=
  ⟨rfl, rfl, rfl, rfl⟩

namespace Link

/-- The connections have these settings, and otherwise nothing tells them apart. -/
structure Alike (related : ε → ε' → Prop) (settings settings' : ConnectionSettings)
    (s : Clocked (Link ε)) (t : Clocked (Link ε')) : Prop where
  clock : s.clock = t.clock
  driver : related s.inner.driver t.inner.driver
  first : s.inner.connection.settings = settings
  second : t.inner.connection.settings = settings'
  pool : s.inner.connection.pool = t.inner.connection.pool
  dbtype : s.inner.connection.dbtype = t.inner.connection.dbtype
  isSysdba : s.inner.connection.isSysdba = t.inner.connection.isSysdba

variable {related : ε → ε' → Prop} {settings settings' : ConnectionSettings}
  {first : Driver ε} {second : Driver ε'}

/-! ### Parts of operations -/

theorem agree_call {action : DriverAction ε α} {action' : DriverAction ε' α}
    (h : Agree (Clocked.Related related) action action') :
    Agree (Alike related settings settings') (call action) (call action') := by
  rw [call, call, silently, silently]
  exact h.on _ (fun _ _ halike => ⟨halike.clock, halike.driver⟩)
    fun _ _ _ _ halike hnew => { halike with clock := hnew.1, driver := hnew.2 }

theorem agree_pool : Agree (Alike related settings settings')
    (known (·.pool) : LinkAction ε (Option PoolId)) (known (·.pool)) :=
  agree_gets fun _ _ halike => halike.pool

theorem agree_advance (seconds : Binary64) : Agree (Alike related settings settings')
    (Action.modify (·.advance seconds) : LinkAction ε Unit) (Action.modify (·.advance seconds)) :=
  agree_modify fun _ _ halike =>
    { halike with clock := congrArg (· + seconds) halike.clock }

theorem agree_hold (pool : Option PoolId) : Agree (Alike related settings settings')
    (update fun connection => { connection with pool } : LinkAction ε Unit)
    (update fun connection => { connection with pool }) :=
  agree_modify fun _ _ halike => { halike with pool := rfl }

theorem agree_withSession (h : Driver.BehavesAs related settings.poolParameters
      settings'.poolParameters first second) (pool : PoolId) {use : SessionId → LinkAction ε α}
    {use' : SessionId → LinkAction ε' α}
    (huse : ∀ session, Agree (Alike related settings settings') (use session) (use' session)) :
    Agree (Alike related settings settings') (withSession first pool use)
      (withSession second pool use') :=
  (agree_call (h.acquire pool)).bind fun session =>
    (huse session).andFinally (agree_call (h.release session))

theorem agree_withCursor (h : Driver.BehavesAs related settings.poolParameters
      settings'.poolParameters first second) (session : SessionId) {use : LinkAction ε α}
    {use' : LinkAction ε' α} (huse : Agree (Alike related settings settings') use use') :
    Agree (Alike related settings settings') (withCursor first session use)
      (withCursor second session use') :=
  huse.andFinally (agree_call (h.closeCursor session))

theorem agree_askCell (h : Driver.BehavesAs related settings.poolParameters
      settings'.poolParameters first second) (session : SessionId) (statement : String) :
    Agree (Alike related settings settings') (askCell first session statement)
      (askCell second session statement) := by
  have hrow (results : ResultSet) : Agree (Alike related settings settings')
      (firstRow results : LinkAction ε _) (firstRow results) := by
    rw [firstRow, firstRow]
    split
    · exact (agree_advance _).bind fun _ => agree_pure _
    · exact agree_fail _
    · exact agree_pure _
  refine (agree_call (h.execute session statement none)).bind fun results => ?_
  exact (hrow results).bind fun row => agree_ofExcept _

theorem agree_readMetadata (h : Driver.BehavesAs related settings.poolParameters
      settings'.poolParameters first second) (pool : PoolId) :
    Agree (Alike related settings settings') (readMetadata first pool)
      (readMetadata second pool) := by
  refine agree_withSession h pool fun session => agree_withCursor h session ?_
  have hannounce : Agree (Alike related settings settings') (announce first session)
      (announce second session) :=
    (agree_call (h.callProcedure _ _ _)).catching fun _ => agree_report _
  have hdbtype : Agree (Alike related settings settings') (readDbtype first session)
      (readDbtype second session) := by
    refine Agree.catching ?_ fun _ => agree_report _
    refine (agree_askCell h session _).bind fun cell => ?_
    refine (agree_ofExcept _).bind fun dbtype => ?_
    exact agree_modify fun _ _ halike => { halike with dbtype := rfl }
  have hrole : Agree (Alike related settings settings') (readRole first session)
      (readRole second session) := by
    refine Agree.catching ?_ fun _ => agree_report _
    refine (agree_askCell h session _).bind fun cell => ?_
    exact agree_modify fun _ _ halike => { halike with isSysdba := rfl }
  exact hannounce.bind fun _ => hdbtype.bind fun _ => hrole

/-! ### Operations -/

/-- What is reported about the connection shows the settings masked. -/
theorem agree_reportConnected (hshow : settings.ShowsAs settings') :
    Agree (Alike related settings settings') (reportConnected : LinkAction ε Unit)
      reportConnected := by
  intro s t halike
  refine ⟨rfl, halike, ?_⟩
  change [ConnectionEvent.connected _ _ _] = [ConnectionEvent.connected _ _ _]
  simp only [id, halike.first, halike.second, hshow.maskedDsn, halike.dbtype, halike.isSysdba]

theorem agree_createPool (h : Driver.BehavesAs related settings.poolParameters
      settings'.poolParameters first second) (hshow : settings.ShowsAs settings') :
    Agree (Alike related settings settings') (createPool first settings)
      (createPool second settings') := by
  refine (agree_call h.createPool).catching fun failure => ?_
  rw [hshow.maskedDsn]
  exact (agree_report _).bind fun _ => agree_fail _

/-- Both may go on with the settings of their own. -/
theorem agree_settings {next : ConnectionSettings → LinkAction ε α}
    {next' : ConnectionSettings → LinkAction ε' α}
    (h : Agree (Alike related settings settings') (next settings) (next' settings')) :
    Agree (Alike related settings settings') (known (·.settings) >>= next)
      (known (·.settings) >>= next') := by
  refine agree_gets_bind fun s t halike => ?_
  dsimp only
  rw [halike.first, halike.second]
  exact h s t halike

theorem agree_connect (h : Driver.BehavesAs related settings.poolParameters
      settings'.poolParameters first second) (hshow : settings.ShowsAs settings') :
    Agree (Alike related settings settings') (connect first) (connect second) := by
  refine agree_settings ?_
  rw [hshow.maskedDsn, hshow.externalAuth, hshow.maxIdle, hshow.maxOpen]
  refine (agree_report _).bind fun _ => ?_
  refine (agree_createPool h hshow).bind fun pool => ?_
  refine (agree_hold _).bind fun _ => (agree_report _).bind fun _ => ?_
  refine Agree.catching ?_ fun _ => agree_report _
  exact (agree_readMetadata h pool).bind fun _ => agree_reportConnected hshow

theorem agree_close (h : Driver.BehavesAs related settings.poolParameters
      settings'.poolParameters first second) :
    Agree (Alike related settings settings') (close first) (close second) := by
  refine agree_pool.bind fun held => (agree_hold _).bind fun _ => ?_
  cases held with
  | none => exact agree_pure ()
  | some pool => exact (agree_call (h.closePool pool)).catching fun _ => agree_report _

theorem agree_reconnect (h : Driver.BehavesAs related settings.poolParameters
      settings'.poolParameters first second) (hshow : settings.ShowsAs settings') :
    Agree (Alike related settings settings') (reconnect first) (reconnect second) := by
  refine agree_settings ?_
  rw [hshow.maskedDsn]
  exact (agree_report _).bind fun _ =>
    (agree_close h).bind fun _ => agree_connect h hshow

theorem agree_requirePool :
    Agree (Alike related settings settings') (requirePool : LinkAction ε PoolId)
      requirePool := by
  refine agree_pool.bind fun held => ?_
  cases held with
  | none => exact agree_fail _
  | some pool => exact agree_pure pool

theorem agree_ping (h : Driver.BehavesAs related settings.poolParameters
      settings'.poolParameters first second) :
    Agree (Alike related settings settings') (ping first) (ping second) :=
  agree_requirePool.bind fun pool =>
    (agree_withSession h pool fun session => agree_call (h.ping session)).mapFailure _

/-- Fetching only looks at the clock. -/
theorem agree_fetchAll (names : List String) (deadline timeout : Binary64)
    (ending : Option Failure) (arrivals : List Arrival) :
    Agree (Alike related settings settings')
      (fetchAll names deadline timeout ending arrivals : LinkAction ε (List Row))
      (fetchAll names deadline timeout ending arrivals) := by
  induction arrivals with
  | nil =>
    cases ending with
    | some failure => exact agree_fail failure
    | none => exact agree_pure []
  | cons arrival rest ih =>
    refine (agree_advance _).bind fun _ => ?_
    refine (agree_ofExcept _).bind fun row => ?_
    refine (agree_gets fun _ _ halike => halike.clock).bind fun now => ?_
    split
    · exact agree_fail _
    · exact ih.bind fun rows => agree_pure (row :: rows)

theorem agree_query (h : Driver.BehavesAs related settings.poolParameters
      settings'.poolParameters first second) (statement : String) (timeout : Binary64) :
    Agree (Alike related settings settings') (query first statement timeout)
      (query second statement timeout) := by
  refine agree_requirePool.bind fun pool => ?_
  refine (agree_gets fun _ _ halike => congrArg (· + timeout) halike.clock).bind fun deadline => ?_
  refine (agree_withSession h pool fun session => ?_).mapFailure _
  refine (agree_ofExcept _).bind fun limit => agree_withCursor h session ?_
  exact (agree_call (h.execute session statement _)).bind fun results =>
    agree_fetchAll _ _ _ _ _

end Link

end QueryMetrics
