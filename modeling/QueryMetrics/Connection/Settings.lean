import QueryMetrics.Failure
import QueryMetrics.Text.Case

/-!
# Connection settings

Who connects to which database, and how many connections are kept open. Without a password the
operating system or a wallet identifies the user, and a user name is ignored.

Connect strings may hold credentials in front of an `@`, so only their masked form is shown.
-/

namespace QueryMetrics

open Text

/-- Administrative roles to connect with. -/
inductive AdminRole where
  | sysdba
  | sysoper
  deriving DecidableEq, Repr

/-- The role with a name, in any case. -/
def AdminRole.ofName? (name : String) : Option AdminRole :=
  if spells "SYSDBA" name then some sysdba
  else if spells "SYSOPER" name then some sysoper
  else none

/-- The last `@` of a text splits it; the second part follows it. -/
def afterLastAt? (text : List Char) : Option (List Char) :=
  if '@' ∈ text then some (text.reverse.takeWhile (· ≠ '@')).reverse else none

/-- A connect string with everything in front of its last `@` hidden. -/
def maskDsn (dsn : String) : String :=
  match afterLastAt? dsn.toList with
  | some host => "***@" ++ String.ofList host
  | none => dsn

/-- The identity and the bounds of a connection. -/
structure ConnectionSettings where
  connectString : String
  user : String := ""
  password : String := ""
  /-- The name of an administrative role, or nothing. -/
  role : String := ""
  /-- A directory with further connection settings of the driver. -/
  configDirectory : Option String := none
  maxIdle : Int := 0
  maxOpen : Int := 10
  deriving DecidableEq, Repr

namespace ConnectionSettings

/-- The user is identified by the operating system or a wallet. -/
def externalAuth (settings : ConnectionSettings) : Bool := settings.password.isEmpty

/-- The connect string in the form that may be shown. -/
def maskedDsn (settings : ConnectionSettings) : String := maskDsn settings.connectString

/-- The first thing that is wrong with the settings. -/
def fault? (settings : ConnectionSettings) : Option BadArgument :=
  if settings.connectString.isEmpty then some .emptyConnectString
  else if !settings.role.isEmpty ∧ AdminRole.ofName? settings.role = none then
    some (.unsupportedRole settings.role)
  else if settings.maxOpen < 1 ∨ settings.maxIdle < 0 then some .poolBounds
  else if settings.maxOpen < settings.maxIdle then some .idleAboveOpen
  else none

end ConnectionSettings

/-! ### Pools -/

/-- How the user of a pool is identified. -/
inductive Credentials where
  | external
  | password (user password : String)
  deriving DecidableEq, Repr

/-- What a pool is created with. -/
structure PoolParameters where
  dsn : String
  minSessions : Int
  maxSessions : Int
  credentials : Credentials
  configDirectory : Option String := none
  role : Option AdminRole := none
  deriving DecidableEq, Repr

/-- The pool that the settings ask for. -/
def ConnectionSettings.poolParameters (settings : ConnectionSettings) : PoolParameters where
  dsn := settings.connectString
  minSessions := settings.maxIdle
  maxSessions := settings.maxOpen
  credentials :=
    if settings.externalAuth then .external else .password settings.user settings.password
  configDirectory := settings.configDirectory.filter fun directory => !directory.isEmpty
  role := AdminRole.ofName? settings.role

/-! ### Masked connect strings -/

/-- What stands in front of the last `@` does not show. -/
theorem maskDsn_append (credentials host : List Char) (h : '@' ∉ host) :
    maskDsn (String.ofList (credentials ++ '@' :: host)) = "***@" ++ String.ofList host := by
  have hcut : (host.reverse ++ '@' :: credentials.reverse).takeWhile (fun c => decide (c ≠ '@')) =
      host.reverse := by
    rw [List.takeWhile_append_of_pos]
    · simp
    · intro c hc
      have hne : c ≠ '@' := fun he => h (he ▸ List.mem_reverse.1 hc)
      simp [hne]
  have hafter : afterLastAt? (credentials ++ '@' :: host) = some host := by
    unfold afterLastAt?
    rw [if_pos (by simp), List.reverse_append, List.reverse_cons, List.append_assoc,
      List.singleton_append, hcut, List.reverse_reverse]
  simp [maskDsn, hafter]

end QueryMetrics
