import QueryMetrics.Proofs.Definition.FirstRefresh
import QueryMetrics.Proofs.Scrape.Collector
import QueryMetrics.Scripted.Driver
import QueryMetrics.Server

/-!
# Definitions at startup

A server that starts has refreshed a new store, and the collection that registers it may have
refreshed it once more, with the same files. What it begins to serve with is decided by the sources
that can be read (`DefinitionStore.RestsOnReadable`): if there is one, the definitions of every
configured source are active; if there are sources and none of them can be read, the server starts
all the same, with the defaults alone.
-/

namespace QueryMetrics

open QueryMetrics.Action

namespace DefinitionStore

variable {files : FileTree} {store : DefinitionStore}

/-- The active definitions are complete exactly if there is no source or one that can be read. If
none can be read they are the defaults alone. -/
structure RestsOnReadable (files : FileTree) (store : DefinitionStore) : Prop where
  isComplete_iff : IsComplete files store.defaults store.sources store.definitions ↔
    store.sources = [] ∨ ∃ path ∈ store.sources, files.isReadable path = true
  defaultsAlone : (∀ path ∈ store.sources, files.isReadable path = false) →
    loadDefaults files store.defaults = .ok store.definitions

/-- Complete definitions rest on the sources that can be read. -/
theorem IsComplete.restsOnReadable
    (h : IsComplete files store.defaults store.sources store.definitions) :
    store.RestsOnReadable files where
  isComplete_iff := iff_of_true h h.readable
  defaultsAlone hunread := by
    obtain hnone | ⟨path, hmem, hread⟩ := h.readable
    · obtain ⟨base, sets, hbase, hsets, hdefinitions⟩ := h
      rw [hnone] at hsets
      cases hsets
      simpa [hdefinitions] using hbase
    · rw [hunread path hmem] at hread
      cases hread

/-- A new store whose first refresh succeeds rests on the sources that can be read. -/
theorem restsOnReadable_firstRefresh {paths : List String} {defaults : Option String}
    (hcreate : create files paths defaults = .ok store)
    (hok : (run (refresh files) store).result.isOk = true) :
    (run (refresh files) store).state.RestsOnReadable files := by
  obtain ⟨hsources, hdefaults⟩ := (refresh_cases files store).1
  have hgiven := sources_of_create hcreate
  obtain ⟨hfails, -⟩ | ⟨-, hstate, hunread⟩ | ⟨-, hcomplete, -⟩ := firstRefresh_cases hcreate
  · rw [hfails] at hok
    cases hok
  · constructor
    · rw [hsources, hdefaults, hgiven]
      exact firstRefresh_isComplete_iff hcreate hok
    · rw [hstate]
      exact fun _ => (create_eq_ok hcreate).2
  · rw [← hgiven, ← hsources, ← hdefaults] at hcomplete
    exact hcomplete.restsOnReadable

/-- Further refreshes with the same files change nothing about that. -/
theorem RestsOnReadable.refresh (h : store.RestsOnReadable files) :
    (run (DefinitionStore.refresh files) store).state.RestsOnReadable files := by
  obtain ⟨⟨hsources, hdefaults⟩, ⟨failure, -, hkept⟩ | ⟨-, hkept, -⟩ | ⟨-, -, hcomplete⟩⟩ :=
    refresh_cases files store
  · constructor
    · rw [hsources, hdefaults, hkept]
      exact h.isComplete_iff
    · rw [hsources, hdefaults, hkept]
      exact h.defaultsAlone
  · rw [hkept]
    exact h
  · rw [← hsources, ← hdefaults] at hcomplete
    exact hcomplete.restsOnReadable

end DefinitionStore

namespace Exporter

variable {δ : Type} {db : Database δ} {order : TaskOrder} {s : Clocked (Exporter δ)}

/-- A cycle refreshes the store or leaves it as it is. -/
theorem store_scrape_cases (tick : Option Binary64) :
    (run (scrape db order tick) s).state.inner.store = s.inner.store ∨
      (run (scrape db order tick) s).state.inner.store =
        (run (DefinitionStore.refresh s.inner.files) s.inner.store).state := by
  obtain ⟨ledger, -, hinner⟩ := exists_inner_scrape db order tick s
  have hafter := (undisturbed_afterTasks db tick (started db order s) (prepared db s)).store
  rw [hinner]
  dsimp only
  rw [hafter, prepared]
  split
  · rw [inner_refreshed]
    exact .inr rfl
  · rw [inner_pinged]
    exact .inl rfl

/-- A collection refreshes the store or leaves it as it is. -/
theorem store_collect_cases (db : Database δ) (order : TaskOrder) (s : Clocked (Exporter δ)) :
    (run (collect db order) s).state.inner.store = s.inner.store ∨
      (run (collect db order) s).state.inner.store =
        (run (DefinitionStore.refresh s.inner.files) s.inner.store).state := by
  cases hsnapshot : s.inner.snapshot with
  | some snapshot =>
    rw [run_collect_of_stored hsnapshot]
    exact .inl rfl
  | none =>
    rw [run_collect_of_onDemand (by rw [scheduled, hsnapshot]; rfl)]
    exact store_scrape_cases none

/-- To be registered keeps the sources of an exporter. -/
theorem sources_register :
    (run (register db order) s).state.inner.store.sources = s.inner.store.sources := by
  rw [state_register]
  obtain hkept | hrefreshed := store_collect_cases db order s
  · rw [hkept]
  · rw [hrefreshed]
    exact (DefinitionStore.refresh_cases s.inner.files s.inner.store).1.1

/-- An exporter that is registered keeps resting on the sources that can be read. -/
theorem restsOnReadable_register (h : s.inner.store.RestsOnReadable s.inner.files) :
    (run (register db order) s).state.inner.store.RestsOnReadable s.inner.files := by
  rw [state_register]
  obtain hkept | hrefreshed := store_collect_cases db order s
  · rw [hkept]
    exact h
  · rw [hrefreshed]
    exact h.refresh

end Exporter

namespace Site

variable {ε : Type} {driver : Driver ε} {config : Config} {s : Clocked (Site ε)}

/-- Without stray code units in their paths, all configured sources are compared. -/
private theorem takeWhile_sound (h : config.customMetrics.findSome? strayUnits? = none) :
    config.customMetrics.takeWhile (fun path => (strayUnits? path).isNone) =
      config.customMetrics := by
  rw [List.findSome?_eq_none_iff] at h
  generalize config.customMetrics = paths at h ⊢
  induction paths with
  | nil => rfl
  | cons path rest ih =>
    rw [List.forall_mem_cons] at h
    rw [List.takeWhile_cons_of_pos (by rw [h.1]; rfl), ih h.2]

/-- Loading the definitions at startup is the first refresh of a store with every configured
source. -/
theorem loadDefinitions_eq_ok {files : FileTree} {store : DefinitionStore}
    (h : (run (loadDefinitions config files) s).result = .ok store) :
    ∃ new, DefinitionStore.create files (config.customMetrics.map (·.text))
        (config.defaultMetrics.map (·.text)) = .ok new ∧
      (run (DefinitionStore.refresh files) new).result.isOk = true ∧
      (run (DefinitionStore.refresh files) new).state = store := by
  rw [loadDefinitions] at h
  obtain ⟨_, -, h⟩ := result_bind_eq_ok.mp h
  obtain ⟨new, hnew, h⟩ := result_bind_eq_ok.mp h
  obtain ⟨refreshed, hrefreshed, h⟩ := result_bind_eq_ok.mp h
  obtain ⟨_, -, h⟩ := result_bind_eq_ok.mp h
  obtain rfl := Except.ok.inj h
  rw [run_on] at hrefreshed
  cases hstray : config.customMetrics.findSome? strayUnits? with
  | some stray =>
    -- the stray code units end the start before the refresh
    simp only [hstray, Option.isSome_some, if_true, refuseStray] at hrefreshed
    obtain ⟨found, hfound, hrefreshed⟩ := result_bind_eq_ok.mp hrefreshed
    obtain ⟨refused, hrefused, -⟩ := result_bind_eq_ok.mp hrefreshed
    cases hrefused
  | none =>
    rw [takeWhile_sound hstray] at hnew
    simp only [hstray, Option.isSome_none, Bool.false_eq_true, if_false] at hrefreshed
    obtain ⟨found, hfound, hrefreshed⟩ := result_bind_eq_ok.mp hrefreshed
    exact ⟨new, hnew, by rw [hfound]; rfl, Except.ok.inj hrefreshed⟩

/-- A server that starts has the exporter that was registered with the definitions loaded at
startup. -/
theorem startWith_eq_ok {server : Server ε}
    (h : (run (startWith driver config) s).result = .ok server) :
    ∃ (loading : Clocked (Site ε)) (fresh : Clocked (Exporter (Link ε))),
      fresh.inner.files = s.inner.files ∧
      (run (loadDefinitions config s.inner.files) loading).result = .ok fresh.inner.store ∧
      (run (Exporter.register driver.database .inTurn) fresh).state.inner = server.exporter := by
  rw [startWith] at h
  obtain ⟨site, hsite, h⟩ := result_bind_eq_ok.mp h
  obtain rfl := Except.ok.inj hsite
  obtain ⟨settings, -, h⟩ := result_bind_eq_ok.mp h
  obtain ⟨link, -, h⟩ := result_bind_eq_ok.mp h
  obtain ⟨store, hstore, h⟩ := result_bind_eq_ok.mp h
  obtain ⟨timer, -, h⟩ := result_bind_eq_ok.mp h
  obtain ⟨fresh, hfresh, h⟩ := result_bind_eq_ok.mp h
  obtain ⟨exporter, hexporter, h⟩ := result_bind_eq_ok.mp h
  obtain ⟨route, -, h⟩ := result_bind_eq_ok.mp h
  obtain rfl := Except.ok.inj h
  rw [withExporter, run_on] at hexporter
  obtain ⟨_, -, hexporter⟩ := result_bind_eq_ok.mp hexporter
  obtain rfl := Except.ok.inj hexporter
  rw [run_ofExcept, Exporter.create] at hfresh
  split at hfresh
  · cases hfresh
  · obtain rfl := Except.ok.inj hfresh
    exact ⟨_, _, rfl, hstore, rfl⟩

/-- A server that starts has all configured sources, and rests on those that can be read. -/
theorem restsOnReadable_startWith {server : Server ε}
    (h : (run (startWith driver config) s).result = .ok server) :
    server.exporter.store.sources =
        DefinitionStore.sourcePaths (config.customMetrics.map (·.text)) ∧
      server.exporter.store.RestsOnReadable s.inner.files := by
  obtain ⟨loading, fresh, hfiles, hloaded, hregistered⟩ := startWith_eq_ok h
  obtain ⟨new, hnew, hok, hstore⟩ := loadDefinitions_eq_ok hloaded
  have hsources : fresh.inner.store.sources = new.sources := by
    rw [← hstore]
    exact (DefinitionStore.refresh_cases s.inner.files new).1.1
  rw [← hregistered]
  constructor
  · rw [Exporter.sources_register, hsources]
    exact DefinitionStore.sources_of_create hnew
  · have hrests : fresh.inner.store.RestsOnReadable fresh.inner.files := by
      rw [hfiles, ← hstore]
      exact DefinitionStore.restsOnReadable_firstRefresh hnew hok
    rw [← hfiles]
    exact Exporter.restsOnReadable_register hrests

/-- **Definitions at startup.** The first refresh of a new store succeeds exactly if every source
can be loaded, or if none can be read though each path could belong to a file. After a success the
definitions of every source are active exactly if there is no source or one that can be read, and
if none can be read the defaults alone are. A server that starts has all configured sources, and the
same holds of the definitions that it begins to serve with. -/
theorem startsComplete_iff (driver : Driver ε) (config : Config) (s : Clocked (Site ε)) :
    (∀ files paths defaults store, DefinitionStore.create files paths defaults = .ok store →
      let sources := DefinitionStore.sourcePaths paths
      let ran := run (DefinitionStore.refresh files) store
      (ran.result.isOk = true ↔ (∀ path ∈ sources, ∃ definitions, Defines files path definitions) ∨
        ∀ path ∈ sources, files.isReadable path = false ∧ '\x00' ∉ path.toList) ∧
      (ran.result.isOk = true → ran.state.sources = sources ∧ ran.state.RestsOnReadable files)) ∧
    ∀ server, (run (startWith driver config) s).result = .ok server →
      server.exporter.store.sources =
          DefinitionStore.sourcePaths (config.customMetrics.map (·.text)) ∧
        server.exporter.store.RestsOnReadable s.inner.files := by
  refine ⟨fun files paths defaults store hcreate => ⟨?_, fun hok => ⟨?_, ?_⟩⟩,
    fun server hserver => restsOnReadable_startWith hserver⟩
  · exact DefinitionStore.firstRefresh_isOk_iff hcreate
  · rw [(DefinitionStore.refresh_cases files store).1.1]
    exact DefinitionStore.sources_of_create hcreate
  · exact DefinitionStore.restsOnReadable_firstRefresh hcreate hok

/-- A site with these files, where the database can be reached. -/
def scriptedWith (files : FileTree) : Clocked (Site Scripted.DriverState) :=
  ⟨0, { files, driver := {} }⟩

/-- A configuration with these sources and an empty file for the defaults. -/
def configWith (sources : List String) : Config where
  connectString := "db"
  customMetrics := sources.map (⟨·, []⟩)
  defaultMetrics := some ⟨"defaults.toml", []⟩

/-- Files with an empty file for the defaults and two sources. -/
def twoSources : FileTree :=
  [(["defaults.toml"], .file []), (["a.toml"], .file (DefinitionStore.singleMetric "a")),
    (["b.toml"], .file (DefinitionStore.singleMetric "b"))]

/-- A store with the two sources, at its beginning. -/
def twoSourcesStore : DefinitionStore where
  sources := ["a.toml", "b.toml"]
  defaults := some "defaults.toml"
  definitions := []

/-- With two sources that can be read, the first refresh makes the definitions of both active, and
a server starts with them. -/
theorem startsComplete_iff_twoSources :
    DefinitionStore.create twoSources ["a.toml", "b.toml"] (some "defaults.toml") =
      .ok twoSourcesStore ∧
    (let ran := run (DefinitionStore.refresh twoSources) twoSourcesStore
     ran.result = .ok true ∧ DefinitionStore.IsComplete twoSources ran.state.defaults
       ["a.toml", "b.toml"] ran.state.definitions) ∧
    ∃ server, (run (startWith Scripted.driver (configWith ["a.toml", "b.toml"]))
        (scriptedWith twoSources)).result = .ok server ∧
      DefinitionStore.IsComplete twoSources server.exporter.store.defaults ["a.toml", "b.toml"]
        server.exporter.store.definitions := by
  have hcreate : DefinitionStore.create twoSources ["a.toml", "b.toml"] (some "defaults.toml") =
      .ok twoSourcesStore := by
    decide +kernel
  have hreadable : ∃ path ∈ ["a.toml", "b.toml"], twoSources.isReadable path = true :=
    ⟨"a.toml", by decide, by decide +kernel⟩
  obtain ⟨hfirst, hstarts⟩ := startsComplete_iff Scripted.driver
    (configWith ["a.toml", "b.toml"]) (scriptedWith twoSources)
  refine ⟨hcreate, ?_, ?_⟩
  · obtain ⟨-, hrests⟩ := hfirst twoSources ["a.toml", "b.toml"] (some "defaults.toml")
      twoSourcesStore hcreate
    have hresult : (run (DefinitionStore.refresh twoSources) twoSourcesStore).result = .ok true := by
      decide +kernel
    obtain ⟨hsources, hrests⟩ := hrests (by rw [hresult]; rfl)
    have hgiven : (run (DefinitionStore.refresh twoSources) twoSourcesStore).state.sources =
        ["a.toml", "b.toml"] :=
      hsources.trans (by decide +kernel)
    refine ⟨hresult, ?_⟩
    rw [← hgiven]
    exact hrests.isComplete_iff.mpr (.inr (hgiven ▸ hreadable))
  · have hok : (run (startWith Scripted.driver (configWith ["a.toml", "b.toml"]))
        (scriptedWith twoSources)).result.isOk = true := by
      decide +kernel
    obtain ⟨server, hserver⟩ := exists_of_isOk hok
    obtain ⟨hsources, hrests⟩ := hstarts server hserver
    have hgiven : server.exporter.store.sources = ["a.toml", "b.toml"] :=
      hsources.trans (by decide +kernel)
    refine ⟨server, hserver, ?_⟩
    rw [← hgiven]
    exact hrests.isComplete_iff.mpr (.inr (hgiven ▸ hreadable))

/-- Files with an empty file for the defaults alone. -/
def noSource : FileTree := [(["defaults.toml"], .file [])]

/-- A store with a source that is missing, at its beginning. -/
def missingSourceStore : DefinitionStore where
  sources := ["missing.toml"]
  defaults := some "defaults.toml"
  definitions := []

/-- If the only source is missing, the first refresh succeeds all the same, and a server starts
without it. -/
theorem not_startsComplete_missingSource :
    ¬ (∀ files paths defaults store, (∀ path ∈ paths, Text.isBlankText path = false) →
      DefinitionStore.create files paths defaults = .ok store →
      (run (DefinitionStore.refresh files) store).result.isOk = true →
      DefinitionStore.IsComplete files store.defaults (paths.map normalizePath)
        (run (DefinitionStore.refresh files) store).state.definitions) ∧
    ∃ server, (run (startWith Scripted.driver (configWith ["missing.toml"]))
        (scriptedWith noSource)).result = .ok server ∧
      ¬ DefinitionStore.IsComplete noSource server.exporter.store.defaults ["missing.toml"]
        server.exporter.store.definitions := by
  have hincomplete : ∀ defaults definitions,
      ¬ DefinitionStore.IsComplete noSource defaults ["missing.toml"] definitions := by
    intro defaults definitions hcomplete
    obtain ⟨found, bytes, hread, -⟩ := hcomplete.defines "missing.toml" List.mem_cons_self
    have hmissing : noSource.read "missing.toml" = .error .missing := by decide +kernel
    cases hmissing.symm.trans hread
  constructor
  · intro hall
    exact hincomplete _ _ (hall noSource ["missing.toml"] (some "defaults.toml")
      missingSourceStore (by decide +kernel) (by decide +kernel) (by decide +kernel))
  · have hok : (run (startWith Scripted.driver (configWith ["missing.toml"]))
        (scriptedWith noSource)).result.isOk = true := by
      decide +kernel
    obtain ⟨server, hserver⟩ := exists_of_isOk hok
    exact ⟨server, hserver, hincomplete _ _⟩

end Site

end QueryMetrics
