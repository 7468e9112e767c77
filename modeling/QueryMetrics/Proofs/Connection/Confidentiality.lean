import QueryMetrics.Proofs.Connection.Operations

/-!
# Credentials stay with the driver

User, password and what stands before the last `@` of a connect string are credentials. They are
handed to the driver when a pool is created and show nowhere else: two connections whose settings
differ in credentials only look alike as long as their drivers behave alike
(`ConnectionSettings.SameButCredentials.showsAs`). So whatever is done with the two connections, it
ends the same way, and the same log records are written (`Link.shown_eq_of_sameButCredentials`).
-/

namespace QueryMetrics

open QueryMetrics.Action

/-- Password authentication with settings that differ in nothing but user, password and what stands
before the last `@` of the connect string. -/
structure ConnectionSettings.SameButCredentials (first second : ConnectionSettings) : Prop where
  others : second = { first with
    connectString := second.connectString, user := second.user, password := second.password }
  firstPassword : first.password ≠ ""
  secondPassword : second.password ≠ ""
  host : ∃ credentials credentials' host : String, '@' ∉ host.toList ∧
    first.connectString = credentials ++ "@" ++ host ∧
    second.connectString = credentials' ++ "@" ++ host

/-- The masked form shows what follows the last `@`. -/
theorem maskDsn_append_at (credentials : String) {host : String} (h : '@' ∉ host.toList) :
    maskDsn (credentials ++ "@" ++ host) = "***@" ++ host := by
  have htext : credentials ++ "@" ++ host =
      String.ofList (credentials.toList ++ '@' :: host.toList) := by
    apply String.toList_injective
    simp
  rw [htext, maskDsn_append _ _ h, String.ofList_toList]

/-- Credentials show nowhere in what a connection reads off the settings. -/
theorem ConnectionSettings.SameButCredentials.showsAs {first second : ConnectionSettings}
    (h : first.SameButCredentials second) : first.ShowsAs second := by
  obtain ⟨credentials, credentials', host, hat, hfirst, hsecond⟩ := h.host
  refine ⟨?_, ?_, by rw [h.others], by rw [h.others]⟩
  · rw [maskedDsn, maskedDsn, hfirst, hsecond, maskDsn_append_at _ hat, maskDsn_append_at _ hat]
  · have hexternal : first.externalAuth = false := by
      simpa [externalAuth, String.isEmpty_iff] using h.firstPassword
    have hexternal' : second.externalAuth = false := by
      simpa [externalAuth, String.isEmpty_iff] using h.secondPassword
    rw [hexternal, hexternal']

namespace Link

variable {ε ε' : Type}

/-- An operation with the rows that it gives; only a query gives rows. -/
def answer (driver : Driver ε) : LinkOperation → LinkAction ε (List Row)
  | .query statement timeout => query driver statement timeout
  | operation => (fun _ => []) <$> operate driver operation

/-- What shows of an operation. -/
structure Shown where
  result : Except Failure (List Row)
  records : List Log.Record

/-- What shows of operations one after another, whichever way they end. -/
def shown (driver : Driver ε) : List LinkOperation → Clocked (Link ε) → List Shown
  | [], _ => []
  | operation :: rest, s =>
    let ran := run (answer driver operation) s
    ⟨ran.result, ran.events.map ConnectionEvent.record⟩ :: shown driver rest ran.state

variable {related : ε → ε' → Prop} {settings settings' : ConnectionSettings} {first : Driver ε}
  {second : Driver ε'}

/-- **The step of an operation.** It does the same to connections that look alike. -/
theorem agree_answer (h : Driver.BehavesAs related settings.poolParameters
      settings'.poolParameters first second) (hshow : settings.ShowsAs settings')
    (operation : LinkOperation) :
    Agree (Alike related settings settings') (answer first operation)
      (answer second operation) := by
  cases operation with
  | connect => exact (agree_connect h hshow).map _
  | reconnect => exact (agree_reconnect h hshow).map _
  | close => exact (agree_close h).map _
  | ping => exact (agree_ping h).map _
  | query statement timeout => exact agree_query h statement timeout

/-- **Runs.** The same shows of connections that look alike. -/
theorem shown_eq_of_alike (h : Driver.BehavesAs related settings.poolParameters
      settings'.poolParameters first second) (hshow : settings.ShowsAs settings')
    (operations : List LinkOperation) {s : Clocked (Link ε)} {t : Clocked (Link ε')}
    (halike : Alike related settings settings' s t) :
    shown first operations s = shown second operations t := by
  induction operations generalizing s t with
  | nil => rfl
  | cons operation rest ih =>
    obtain ⟨hresult, hstate, hevents⟩ := agree_answer h hshow operation s t halike
    rw [shown, shown, hresult, hevents, ih hstate]

/-- **Credentials do not show.** Let two new connections have settings that differ in credentials
only, and let their drivers behave alike. Whatever is done with both of them, every operation ends
the same way, with the same rows or the same failure, and writes the same log records. -/
theorem shown_eq_of_sameButCredentials (h : settings.SameButCredentials settings')
    (hdriver : Driver.BehavesAs related settings.poolParameters settings'.poolParameters
      first second) {state : ε} {state' : ε'} (hstate : related state state') (clock : Binary64)
    (operations : List LinkOperation) :
    shown first operations ⟨clock, ⟨state, { settings }⟩⟩ =
      shown second operations ⟨clock, ⟨state', { settings := settings' }⟩⟩ :=
  shown_eq_of_alike hdriver h.showsAs operations ⟨rfl, hstate, rfl, rfl, rfl, rfl, rfl⟩

end Link

/-! ### Drivers that follow a script -/

namespace Scripted

/-- The states have the same scripts; the calls that were made may differ. -/
structure SameScripts (s t : DriverState) : Prop where
  scripts : s.scripts = t.scripts
  pools : s.pools = t.pools

theorem agree_record (call call' : DriverCall) :
    Agree (Clocked.Related SameScripts) (record call) (record call') :=
  agree_modify fun _ _ h => ⟨h.1, h.2.scripts, h.2.pools⟩

theorem agree_script (pool : PoolId) :
    Agree (Clocked.Related SameScripts) (script pool) (script pool) :=
  agree_gets fun s t h => by rw [DriverState.pool, DriverState.pool, h.2.pools]

theorem agree_setScript (pool : PoolId) (next : PoolScript) :
    Agree (Clocked.Related SameScripts) (setScript pool next) (setScript pool next) :=
  agree_modify fun s t h => ⟨h.1, h.2.scripts, by
    rw [DriverState.setPool, DriverState.setPool, h.2.pools]⟩

theorem agree_failIf (failure : Option Failure) :
    Agree (Clocked.Related SameScripts) (failIf failure) (failIf failure) := by
  cases failure with
  | none => exact agree_pure ()
  | some failure => exact agree_fail failure

/-- The script does not look at what a pool is created with. -/
theorem agree_createPool (parameters parameters' : PoolParameters) :
    Agree (Clocked.Related SameScripts) (createPool parameters) (createPool parameters') := by
  refine (agree_record _ _).bind fun _ => agree_gets_bind fun s t hrelated => ?_
  -- the next script and the place of the new pool are the same for both
  have hnext : s.inner.scripts.headD {} = t.inner.scripts.headD {} := by
    rw [hrelated.2.scripts]
  have hplace : s.inner.pools.length = t.inner.pools.length := by rw [hrelated.2.pools]
  rw [hnext, hplace]
  refine Agree.bind ?_ (fun _ => (agree_failIf _).bind fun _ => Agree.bind ?_ fun _ => agree_pure _)
    s t hrelated
  · exact agree_modify fun _ _ h => ⟨h.1, congrArg (List.drop 1) h.2.scripts, h.2.pools⟩
  · exact agree_modify fun _ _ h => ⟨h.1, h.2.scripts, congrArg (· ++ _) h.2.pools⟩

/-- A driver that follows a script behaves the same whatever its pools are created with. -/
theorem driver_behavesAs (parameters parameters' : PoolParameters) :
    Driver.BehavesAs SameScripts parameters parameters' driver driver where
  createPool := agree_createPool parameters parameters'
  closePool pool :=
    (agree_record _ _).bind fun _ => (agree_script pool).bind fun _ => agree_failIf _
  acquire pool := (agree_record _ _).bind fun _ => (agree_script pool).bind fun _ =>
    (agree_setScript pool _).bind fun _ => (agree_failIf _).bind fun _ => agree_pure pool
  release _ := agree_record _ _
  ping session := (agree_record _ _).bind fun _ => (agree_script session).bind fun _ =>
    (agree_setScript session _).bind fun _ => agree_failIf _
  callProcedure session _ _ :=
    (agree_record _ _).bind fun _ => (agree_script session).bind fun _ => agree_failIf _
  execute session statement limit := by
    refine (agree_record _ _).bind fun _ => ?_
    split
    · refine (agree_script session).bind fun current => (agree_setScript session _).bind fun _ => ?_
      cases current.metadata.headD .noRow with
      | failure failure => exact agree_fail failure
      | row cells => exact agree_pure _
      | noRow => exact agree_pure _
    · refine (agree_script session).bind fun current => ?_
      refine (agree_modify fun _ _ h => ⟨congrArg (· + _) h.1, h.2⟩).bind fun _ => ?_
      exact (agree_failIf _).bind fun _ => agree_pure _
  closeCursor _ := agree_record _ _

end Scripted

namespace Link

/-- Settings with a connect string that holds credentials of its own. -/
def settingsOf (user password credentials : String) : ConnectionSettings where
  connectString := credentials ++ "@db:1521/main"
  user := user
  password := password

/-- A driver whose first pool cannot be closed and whose second one cannot be created. -/
def stubbornDriver : Scripted.DriverState where
  scripts :=
    [{ closeFailure := some (.driver { text := "busy" }) },
      { createFailure := some (.driver { code := "ORA-12541", text := "no listener" }) }]

/-- Two users with different connect strings leave the same records, also where closing and
connecting fail. -/
theorem shown_eq_of_sameButCredentials_twoUsers :
    let ada := settingsOf "ada" "secret" "ada/secret"
    let bob := settingsOf "bob" "hidden" "bob@work/hidden"
    let operations : List LinkOperation :=
      [.connect, .ping, .reconnect, .query "select 1" 5, .close]
    ada.poolParameters ≠ bob.poolParameters ∧ ada.SameButCredentials bob ∧
    (shown Scripted.driver operations ⟨0, ⟨stubbornDriver, { settings := ada }⟩⟩).map
      (fun step => step.records.length) = [4, 0, 5, 0, 0] ∧
    shown Scripted.driver operations ⟨0, ⟨stubbornDriver, { settings := ada }⟩⟩ =
      shown Scripted.driver operations ⟨0, ⟨stubbornDriver, { settings := bob }⟩⟩ := by
  intro ada bob operations
  have hsame : ada.SameButCredentials bob :=
    ⟨rfl, by decide, by decide, "ada/secret", "bob@work/hidden", "db:1521/main", by decide, rfl,
      rfl⟩
  refine ⟨by decide, hsame, by decide +kernel, ?_⟩
  exact shown_eq_of_sameButCredentials hsame (Scripted.driver_behavesAs _ _) ⟨rfl, rfl⟩ 0 operations

end Link

end QueryMetrics
