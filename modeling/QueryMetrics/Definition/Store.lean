import QueryMetrics.Action
import QueryMetrics.Definition.Builtin
import QueryMetrics.Files
import QueryMetrics.Fingerprint
import QueryMetrics.Log.Record

/-!
# The store of definitions

The active definitions are the defaults followed by the definitions of every source, in the order
of the sources. They are only ever replaced as a whole: a load that fails changes nothing.

* **Change detection** (`changed`) compares every source with the fingerprint it had when it was
  last readable, and takes the new one over. A source that cannot be read is reported and counts
  as unchanged. A path that can belong to no file ends the comparison.
* **Loading** (`load`) reads the defaults and every source. A source that cannot be loaded fails
  the load; when it is refused, this is reported.
* **Refreshing** (`refresh`) loads when some source changed. The fingerprints are taken over
  before the load, so a failed load is not tried again until a source changes once more.
-/

namespace QueryMetrics

open Text

/-- What the store reports. -/
inductive StoreEvent where
  | loadFailed (path : String)
  | loaded (path : String)
  | published (count : Nat)
  | unreadable (path : String) (fault : FileFault)
  | changed (path : String)
  deriving DecidableEq

/-- The event as a log record. -/
def StoreEvent.record : StoreEvent → Log.Record
  | loadFailed path => ⟨.error, "Failed to load custom metrics", [("path", .text path)], true⟩
  | loaded path => ⟨.info, "Loaded custom metrics", [("path", .text path)], false⟩
  | published count =>
    ⟨.info, "Published metric definitions", [("count", .integer count)], false⟩
  | unreadable path fault =>
    ⟨.error, "Unable to get file hash",
      [("path", .text path), ("error", .text fault.message)], false⟩
  | changed path => ⟨.info, "Metrics definition file changed", [("path", .text path)], false⟩

/-- The active definitions and where they come from. -/
structure DefinitionStore where
  /-- Paths of the files besides the defaults. -/
  sources : List String
  /-- The file that replaces the built-in definitions, if there is one. -/
  defaults : Option String
  /-- The fingerprints that sources had when they were last readable, by position. -/
  fingerprints : Entries Nat Fingerprint := []
  /-- The active definitions. -/
  definitions : List Definition
  deriving DecidableEq

/-- The definitions of a file. -/
def loadFile (files : FileTree) (path : String) : Except Failure (List Definition) :=
  match files.read path with
  | .error .nullCharacter => .error (.definitions path .badPath)
  | .error _ => .error (.definitions path .unreadable)
  | .ok bytes => (Definition.ofBytes bytes).mapError (.definitions path)

/-- The defaults: the file that replaces the built-in definitions, or those. -/
def loadDefaults (files : FileTree) : Option String → Except Failure (List Definition)
  | some path => loadFile files path
  | none => .ok Definition.builtin

namespace DefinitionStore

/-- An action on a store. -/
abbrev StoreAction := Action DefinitionStore StoreEvent

/-- The paths that count as sources: those with more than blanks, normalised. -/
def sourcePaths (paths : List String) : List String :=
  (paths.filter fun path => !isBlankText path).map normalizePath

/-- A store whose active definitions are the defaults. An empty path stands for the built-in
definitions. -/
def create (files : FileTree) (sources : List String) (defaults : Option String) :
    Except Failure DefinitionStore :=
  let defaults := (defaults.filter fun path => !path.isEmpty).map normalizePath
  (loadDefaults files defaults).map fun definitions =>
    { sources := sourcePaths sources, defaults, definitions }

/-! ### Loading -/

/-- The definitions of one source; a refusal is reported. -/
def loadSource (files : FileTree) (path : String) : StoreAction (List Definition) := do
  match loadFile files path with
  | .ok definitions =>
    Action.report [.loaded path]
    pure definitions
  | .error failure =>
    if failure.isReload then Action.report [.loadFailed path]
    Action.fail failure

/-- The definitions of sources, one source after another. -/
def loadSources (files : FileTree) : List String → StoreAction (List Definition)
  | [] => pure []
  | path :: rest => do
    let definitions ← loadSource files path
    let others ← loadSources files rest
    pure (definitions ++ others)

/-- Rebuilds the active definitions from the defaults and every source. -/
def load (files : FileTree) : StoreAction (List Definition) := do
  let store ← Action.get
  let defaults ← Action.ofExcept (loadDefaults files store.defaults)
  let others ← loadSources files store.sources
  let definitions := defaults ++ others
  Action.modify fun store => { store with definitions }
  Action.report [.published definitions.length]
  pure definitions

/-! ### Changes -/

/-- Compares one source with its last fingerprint. -/
def sourceChanged (files : FileTree) (position : Nat) (path : String) : StoreAction Bool := do
  match files.read path with
  | .error .nullCharacter => Action.fail (.definitions path .badPath)
  | .error fault =>
    Action.report [.unreadable path fault]
    pure false
  | .ok bytes =>
    let store ← Action.get
    let digest := fingerprint bytes
    if store.fingerprints.find? position = some digest then pure false
    else
      Action.modify fun store =>
        { store with fingerprints := store.fingerprints.put position digest }
      Action.report [.changed path]
      pure true

/-- Compares sources from a position on; every one is looked at. -/
def sourcesChanged (files : FileTree) : Nat → List String → StoreAction Bool
  | _, [] => pure false
  | position, path :: rest => do
    let first ← sourceChanged files position path
    let others ← sourcesChanged files (position + 1) rest
    pure (first || others)

/-- Some source differs from its last fingerprint. -/
def changed (files : FileTree) : StoreAction Bool := do
  let store ← Action.get
  sourcesChanged files 0 store.sources

/-- Loads the definitions if some source changed, and says whether it did. -/
def refresh (files : FileTree) : StoreAction Bool := do
  let found ← changed files
  if found then
    let _ ← load files
    pure true
  else pure false

end DefinitionStore

end QueryMetrics
