import QueryMetrics.Connection.Settings
import QueryMetrics.Files
import QueryMetrics.Text.Blank
import QueryMetrics.Text.Loose
import QueryMetrics.Text.Quoted
import QueryMetrics.Text.Split
import QueryMetrics.Text.Utf8

/-!
# Configuration

What an operator says about the exporter: the database and how to log in, which definitions to
use, how to scrape, and how the metrics are served.

The password may stand in a file of its own, which is read when it is needed. Where the
configuration is displayed, stars stand in place of the password.
-/

namespace QueryMetrics

open Text

/-- A text that does not show. -/
structure Secret where
  value : String
  deriving DecidableEq

/-- What shows of a secret: whether there is one. -/
def Secret.shown (secret : Secret) : String :=
  "SecretStr('" ++ (if secret.value.isEmpty then "" else "**********") ++ "')"

/-- The configuration of an exporter. -/
structure Config where
  connectString : String
  user : String := ""
  password : Secret := ⟨""⟩
  /-- A file with the password, used when there is no password. -/
  passwordFile : Option String := none
  /-- The name of an administrative role. -/
  role : String := ""
  /-- A directory with further connection settings of the driver. -/
  configDirectory : Option String := none
  maxIdle : Int := 0
  maxOpen : Int := 10
  /-- The time allowed for queries of definitions that do not say, in seconds. -/
  queryTimeout : Binary64 := 5
  /-- Paths of definition files besides the defaults. -/
  customMetrics : List LooseText := []
  /-- A file that replaces the built-in definitions. -/
  defaultMetrics : Option LooseText := none
  /-- Seconds between scheduled cycles; without them every request runs a cycle. -/
  scrapeInterval : Binary64 := 0
  port : Int := 9161
  /-- The path under which metrics are served. -/
  metricsPath : LooseText := ⟨"/metrics", []⟩
  logLevel : String := "INFO"
  deriving DecidableEq

namespace Config

/-! ### Display -/

/-- A text that may be missing, in quotes. -/
def quotedOrNone : Option String → String
  | some text => quoted text
  | none => "None"

/-- The fields as they are displayed, each with its name. -/
def shownFields (config : Config) : List (String × String) :=
  [("connect_string", quoted config.connectString), ("user", quoted config.user),
   ("password", config.password.shown), ("password_file", quotedOrNone config.passwordFile),
   ("db_role", quoted config.role), ("config_dir", quotedOrNone config.configDirectory),
   ("max_idle_conns", toString config.maxIdle), ("max_open_conns", toString config.maxOpen),
   ("query_timeout", config.queryTimeout.text),
   ("custom_metrics", "[" ++ ", ".intercalate (config.customMetrics.map (quoted ·.text)) ++ "]"),
   ("default_metrics_file", quotedOrNone (config.defaultMetrics.map (·.text))),
   ("scrape_interval", config.scrapeInterval.text), ("port", toString config.port),
   ("metrics_path", quoted config.metricsPath.text), ("log_level", quoted config.logLevel)]

/-- The configuration as it is displayed. -/
def shown (config : Config) : String :=
  "ExporterConfig(" ++
    ", ".intercalate (config.shownFields.map fun field => field.1 ++ "=" ++ field.2) ++ ")"

/-- The password can be read, between single quotes, where the configuration is displayed. Then it
stands there as the value of another field. -/
def showsPassword (config : Config) : Bool :=
  !config.password.value.isEmpty &&
    occursIn ('\'' :: config.password.value.toList ++ ['\'']) config.shown.toList

/-! ### Password -/

/-- The password of a file: its text without blanks around it. -/
def passwordOfFile (files : FileTree) (path : String) : Except StartFault String :=
  match files.read path with
  | .error .missing | .error .nullCharacter => .error (.passwordMissing path)
  | .error fault => .error (.passwordUnreadable path fault)
  | .ok bytes =>
    match ofFile? bytes with
    | none => .error .passwordNotUtf8
    | some text => .ok (strip text)

/-- The password, from the file only if it is not given and a file is named. -/
def resolvePassword (config : Config) (files : FileTree) : Except StartFault String :=
  if !config.password.value.isEmpty then .ok config.password.value
  else
    match config.passwordFile with
    | none => .ok ""
    | some "" => .ok ""
    | some path => passwordOfFile files path

/-- The settings of the connection. -/
def connectionSettings (config : Config) (files : FileTree) :
    Except StartFault ConnectionSettings :=
  (config.resolvePassword files).map fun password =>
    { connectString := config.connectString, user := config.user, password
      role := config.role, configDirectory := config.configDirectory
      maxIdle := config.maxIdle, maxOpen := config.maxOpen }

end Config

end QueryMetrics
