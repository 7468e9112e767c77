import QueryMetrics.Config.Reading
import QueryMetrics.Http.Message
import QueryMetrics.Scrape.Collector
import QueryMetrics.Scrape.Timer

/-!
# The server

The exporter as a program: it is started from a configuration and serves its metrics over HTTP.

* **Starting** reads the configuration, connects, loads the definitions and registers the
  exporter, which takes one collection. A database that cannot be reached is only reported; it is
  tried again by every cycle. Anything else that goes wrong ends the start.
* **Serving** answers every request for the metrics by one collection. If definitions cannot be
  loaded, the request fails and the process is asked to terminate. After any other failure the
  request fails, and the failure goes on to whoever runs the server.
* In scheduled mode a **timer** runs from startup to shutdown. At shutdown the pool is closed.
-/

namespace QueryMetrics

open Http

/-! ### State and events -/

/-- Where a server is started: the files it finds and the driver it connects with. -/
structure Site (ε : Type) where
  files : FileTree
  driver : ε

/-- A server whose driver has states `ε`. -/
structure Server (ε : Type) where
  exporter : Exporter (Link ε)
  timer : Option Timer := none
  route : Route
  /-- The name of the least level that is logged. -/
  logLevel : String
  /-- How often the process was asked to terminate. -/
  terminations : Nat := 0

/-- What a server reports. -/
inductive ServerEvent where
  | exporter (event : ExporterEvent)
  | timer (event : TimerEvent)
  | unreachable (dsn : String)
  | loaded (count : Nat)
  | request (client method path : String)
  | reloadFailed (failure : Failure)
  | terminating (failure : Failure)
  deriving DecidableEq

/-- The event as a log record. -/
def ServerEvent.record : ServerEvent → Log.Record
  | exporter event => event.record
  | timer event => event.record
  | unreachable dsn =>
    ⟨.warning, "Database not reachable at startup", [("dsn", .text dsn)], false⟩
  | loaded count => ⟨.info, "Loaded metric definitions", [("count", .integer count)], false⟩
  | request client method path =>
    ⟨.info, "HTTP request",
      [("client_ip", .text client), ("method", .text method), ("path", .text path)], false⟩
  | reloadFailed _ => ⟨.error, "Failed to reload metric definitions", [], true⟩
  | terminating failure =>
    ⟨.critical, "Terminating exporter", [("error", .text failure.message)], false⟩

/-- An action at a site. -/
abbrev SiteAction (ε : Type) := Action (Clocked (Site ε)) ServerEvent

/-- An action of a server. -/
abbrev ServerAction (ε : Type) := Action (Clocked (Server ε)) ServerEvent

namespace Site

variable {ε α : Type}

/-! ### Starting -/

/-- An action of a link at a site: it begins with the given connection, and the link that it ends
with is part of the result. -/
def withLink (connection : Connection) (action : LinkAction ε α) : SiteAction ε (α × Link ε) :=
  Action.on
    (fun (state : Clocked (Site ε)) => ⟨state.clock, ⟨state.inner.driver, connection⟩⟩)
    (fun state ran => ⟨ran.clock, { state.inner with driver := ran.inner.driver }⟩)
    (fun event => ServerEvent.exporter (.connection event)) do
    let a ← action
    let state ← Action.get
    pure (a, state.inner)

/-- An action of an exporter at a site, which gives the exporter that it ends with. -/
def withExporter (exporter : Exporter (Link ε)) (action : ExporterAction (Link ε) Unit) :
    SiteAction ε (Exporter (Link ε)) :=
  Action.on
    (fun (state : Clocked (Site ε)) =>
      ⟨state.clock,
        { exporter with database := { exporter.database with driver := state.inner.driver } }⟩)
    (fun state ran => ⟨ran.clock, { state.inner with driver := ran.inner.database.driver }⟩)
    ServerEvent.exporter do
    action
    let state ← Action.get
    pure state.inner

/-- Connects; that the database cannot be reached is reported. -/
def connect (driver : Driver ε) (settings : ConnectionSettings) : SiteAction ε (Link ε) := do
  match settings.fault? with
  | some fault => Action.fail (.argument fault)
  | none =>
    let (result, link) ← withLink { settings } (Link.connect driver).attempt
    match result with
    | .ok () => pure link
    | .error failure =>
      if failure.isDatabase then
        Action.report [.unreachable settings.maskedDsn]
        pure link
      else Action.fail failure

/-- Code units in a path that no path may hold, where they stand once the path is normalised. -/
def strayUnits? (path : Text.LooseText) : Option Text.StrayUnits :=
  { path with text := normalizePath path.text : Text.LooseText }.stray?

/-- Fails because of code units in a path, if there are some. -/
def refuseStray {σ ε : Type} (stray : Option Text.StrayUnits) : Action σ ε Unit :=
  match stray with
  | some stray => Action.fail (.start (.strayUnits stray))
  | none => pure ()

/-- Loads the definitions. Stray code units in the path of a source are noticed when its turn to be
compared comes. -/
def loadDefinitions (config : Config) (files : FileTree) : SiteAction ε DefinitionStore := do
  refuseStray (config.defaultMetrics.bind strayUnits?)
  let sound := config.customMetrics.takeWhile fun path => (strayUnits? path).isNone
  let stray := config.customMetrics.findSome? strayUnits?
  let store ← Action.ofExcept
    (DefinitionStore.create files (sound.map (·.text)) (config.defaultMetrics.map (·.text)))
  let refreshed ← Action.on (fun (_ : Clocked (Site ε)) => store) (fun state _ => state)
    (fun event => ServerEvent.exporter (.store event)) do
    if stray.isSome then
      let _ ← DefinitionStore.changed files
      refuseStray stray
    let _ ← DefinitionStore.refresh files
    Action.get
  Action.report [.loaded refreshed.definitions.length]
  pure refreshed

/-- The timer that the configuration asks for. -/
def timerFor (config : Config) : Except BadArgument (Option Timer) :=
  if 0 < config.scrapeInterval then (Timer.create config.scrapeInterval true).map some
  else .ok none

/-- Starts a server from a configuration. -/
def startWith (driver : Driver ε) (config : Config) : SiteAction ε (Server ε) := do
  let site ← Action.get
  let files := site.inner.files
  let settings ← Action.ofExcept ((config.connectionSettings files).mapError .start)
  let link ← connect driver settings
  let store ← loadDefinitions config files
  let timer ← Action.ofExcept ((timerFor config).mapError .argument)
  let fresh ← Action.ofExcept
    ((Exporter.create { queryTimeout := config.queryTimeout } files store link
      timer.isSome).mapError .argument)
  let exporter ← withExporter fresh (Exporter.register driver.database .inTurn)
  let route ← Action.ofExcept ((Route.ofTemplate config.metricsPath).mapError .start)
  pure { exporter, timer, route, logLevel := config.logLevel }

/-- Where the configuration is found unless something else is said. -/
def defaultConfigPath : String := "/config.json"

/-- The path of the configuration: the one that is given, or that of the environment. -/
def configPath (given environment : Option String) : String :=
  (given.filter fun path => !path.isEmpty).getD (environment.getD defaultConfigPath)

/-- Starts a server from the configuration at a path. -/
def start (driver : Driver ε) (path : String) : SiteAction ε (Server ε) := do
  let site ← Action.get
  let config ← Action.ofExcept ((Config.load site.inner.files path).mapError .start)
  startWith driver config

end Site

namespace Server

variable {ε α : Type}

/-! ### Serving -/

/-- An action of the exporter. -/
def onExporter (action : ExporterAction (Link ε) α) : ServerAction ε α :=
  action.on (fun state => ⟨state.clock, state.inner.exporter⟩)
    (fun state ran => ⟨ran.clock, { state.inner with exporter := ran.inner }⟩)
    ServerEvent.exporter

/-- Asks the process to terminate. -/
def terminate (failure : Failure) : ServerAction ε Unit := do
  Action.report [.terminating failure]
  Action.modify fun state =>
    { state with inner := { state.inner with terminations := state.inner.terminations + 1 } }

/-- The answer to a request for the metrics. -/
def metrics (driver : Driver ε) (request : Request) : ServerAction ε Response := do
  Action.report [.request (request.client.getD "unknown") request.method request.shownPath]
  match ← (onExporter (Exporter.exposition driver.database .inTurn)).attempt with
  | .ok text => pure (.metrics text)
  | .error failure =>
    if failure.isReload then
      Action.report [.reloadFailed failure]
      terminate failure
      pure .reloadFailed
    else Action.fail failure

/-- The answer to a request. A failure that nobody expected is given beside the answer. -/
def respond (driver : Driver ε) (request : Request) :
    ServerAction ε (Response × Option Failure) := do
  let state ← Action.get
  match state.inner.route.refusal? request with
  | .error fault => pure (.serverError, some (.pathNumeral fault))
  | .ok (some response) => pure (response, none)
  | .ok none =>
    match ← (metrics driver request).attempt with
    | .ok response => pure (response, none)
    | .error failure => pure (.serverError, some failure)

/-! ### Running -/

/-- What the timer does: it scrapes, and it terminates the process if it has to end. -/
def firing (driver : Driver ε) : Firing (Server ε) ServerEvent where
  work tick := do
    let _ ← onExporter (Exporter.scrapeIntoSnapshot driver.database .inTurn (some tick))
  onFatal := terminate
  event := .timer

/-- Does something with the timer if there is one. -/
def withTimer (use : Timer → ServerAction ε Timer) : ServerAction ε Unit := do
  let state ← Action.get
  match state.inner.timer with
  | none => pure ()
  | some timer =>
    let timer ← use timer
    Action.modify fun state => { state with inner := { state.inner with timer := some timer } }

/-- The server is about to serve. -/
def startup (driver : Driver ε) : ServerAction ε Unit := withTimer (Timer.start (firing driver))

/-- A wait of the timer ends. -/
def expire (driver : Driver ε) : ServerAction ε Unit := withTimer (Timer.expire (firing driver))

/-- The server has stopped serving. -/
def shutdown (driver : Driver ε) : ServerAction ε Unit := do
  withTimer (Timer.stop (firing driver))
  onExporter (Exporter.ask (Link.close driver))

end Server

end QueryMetrics
