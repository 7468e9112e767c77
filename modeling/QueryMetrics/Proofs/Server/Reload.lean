import QueryMetrics.Proofs.Definition.Refusal
import QueryMetrics.Proofs.Scrape.Collector
import QueryMetrics.Proofs.Scrape.Firing
import QueryMetrics.Scripted.Driver
import QueryMetrics.Server

/-!
# When a reload fails

A cycle that finds a changed source loads every definition anew. If some file cannot be loaded, the
cycle fails as the first such file does (`Exporter.scrape_of_unloadable`), in either mode.

What the server makes of this depends on the failure. A file that is refused terminates the
exporter: the timer stops (`Server.run_fire_of_scrape_error`) or the request is answered with an
error (`Server.run_metrics_of_scrape_error`), and the process is asked to terminate once. If the
reader stumbles over the file instead, nobody is told, and the exporter goes on with the definitions
that it had.
-/

namespace QueryMetrics

open QueryMetrics.Action

namespace Exporter

variable {δ : Type}

/-- The next cycle reaches its refresh and finds a changed source, and this is the first file that
cannot be loaded. -/
structure FailsToReload (db : Database δ) (s : Clocked (Exporter δ)) (path : String) : Prop where
  up : (pinged db s).result = .ok true
  changed : (run (DefinitionStore.changed s.inner.files) s.inner.store).result = .ok true
  unloadable : s.inner.store.unloadable? s.inner.files = some path

variable {db : Database δ} {s : Clocked (Exporter δ)} {path : String}

/-- A cycle fails as the first file does that cannot be loaded, and keeps the definitions. -/
theorem scrape_of_unloadable (h : FailsToReload db s path) (order : TaskOrder)
    (tick : Option Binary64) :
    ∃ failure, loadFile s.inner.files path = .error failure ∧
      (run (scrape db order tick) s).result = .error failure ∧
      (run (scrape db order tick) s).state.inner.store.definitions = s.inner.store.definitions := by
  obtain ⟨failure, hfailure, hrefresh⟩ :=
    DefinitionStore.refresh_of_unloadable h.changed h.unloadable
  have hrefreshed : (refreshed db s).result = .error failure := by
    rw [refreshed, run_refresh, inner_pinged]
    dsimp only [begun]
    rw [hrefresh]
    rfl
  have hkept : (run (DefinitionStore.refresh s.inner.files) s.inner.store).state.definitions =
      s.inner.store.definitions :=
    DefinitionStore.definitions_refresh_of_not_loaded (by simp [hrefresh])
  refine ⟨failure, hfailure, ?_, ?_⟩
  · rw [run_scrape_of_refresh_error h.up hrefreshed]
  · rw [run_scrape_of_refresh_error h.up hrefreshed]
    dsimp only
    rw [inner_refreshed]
    exact hkept

end Exporter

namespace Server

variable {ε α : Type} {driver : Driver ε} {s : Clocked (Server ε)} {failure : Failure}

@[simp] theorem run_onExporter (action : ExporterAction (Link ε) α) (s : Clocked (Server ε)) :
    run (onExporter action) s =
      let ran := run action ⟨s.clock, s.inner.exporter⟩
      ⟨ran.result, ⟨ran.state.clock, { s.inner with exporter := ran.state.inner }⟩,
        ran.events.map .exporter⟩ := rfl

@[simp] theorem run_terminate (failure : Failure) (s : Clocked (Server ε)) :
    run (terminate failure) s =
      ⟨.ok (), ⟨s.clock, { s.inner with terminations := s.inner.terminations + 1 }⟩,
        [.terminating failure]⟩ := rfl

/-- What is left of a server whose exporter has run and which was told to terminate so often. -/
def afterScrape (s : Clocked (Server ε)) (scraped : Clocked (Exporter (Link ε))) (told : Nat) :
    Clocked (Server ε) :=
  ⟨scraped.clock, { s.inner with
    exporter := scraped.inner, terminations := s.inner.terminations + told }⟩

/-- A firing whose cycle fails ends the timer and terminates the process once if the definitions
were refused. Otherwise the timer goes on. -/
theorem run_fire_of_scrape_error (hmode : s.inner.exporter.scheduled = true) {tick : Binary64}
    (h : (run (Exporter.scrape driver.database .inTurn (some tick))
      ⟨s.clock, s.inner.exporter⟩).result = .error failure) :
    let scraped := (run (Exporter.scrape driver.database .inTurn (some tick))
      ⟨s.clock, s.inner.exporter⟩).state
    let fired := run ((firing driver).fire tick) s
    fired.result = .ok (!failure.isReload) ∧
      fired.state = afterScrape s scraped (if failure.isReload then 1 else 0) := by
  have hscrape :=
    Exporter.run_scrapeIntoSnapshot_of_error (s := ⟨s.clock, s.inner.exporter⟩) hmode h
  have hwork : run ((firing driver).work tick) s =
      let ran := run (Exporter.scrape driver.database .inTurn (some tick)) ⟨s.clock, s.inner.exporter⟩
      ⟨.error failure, afterScrape s ran.state 0, ran.events.map .exporter⟩ := by
    change run (onExporter _ >>= _) s = _
    simp only [run_bind, run_onExporter, hscrape]
    rfl
  rw [Firing.run_fire_of_error (by rw [hwork]), hwork]
  cases failure.isReload with
  | true => exact ⟨rfl, rfl⟩
  | false => exact ⟨rfl, rfl⟩

/-- A request whose cycle fails is answered with an error and terminates the process once if the
definitions were refused. Otherwise the failure goes on. -/
theorem run_metrics_of_scrape_error (hmode : s.inner.exporter.scheduled = false)
    (request : Http.Request)
    (h : (run (Exporter.scrape driver.database .inTurn none)
      ⟨s.clock, s.inner.exporter⟩).result = .error failure) :
    let scraped := (run (Exporter.scrape driver.database .inTurn none)
      ⟨s.clock, s.inner.exporter⟩).state
    let answered := run (metrics driver request) s
    answered.result = (if failure.isReload then .ok .reloadFailed else .error failure) ∧
      answered.state = afterScrape s scraped (if failure.isReload then 1 else 0) := by
  have hscrape := Exporter.run_exposition_of_error (s := ⟨s.clock, s.inner.exporter⟩) hmode h
  simp only [metrics, run_bind, run_report, run_attempt, run_onExporter, hscrape]
  split
  · exact ⟨rfl, rfl⟩
  · exact ⟨rfl, rfl⟩

/-- **Reloads that fail.** A file is loaded or refused exactly if the reader does not stumble over
it. When a cycle finds a changed source and some file cannot be loaded, the first such file decides:
if the reader does not stumble over it, a firing ends the timer and terminates the process once, and
a request is answered with an error and terminates the process once. If the reader stumbles, the
process is not terminated and the timer goes on. Either way the definitions stay what they were. -/
theorem terminates_iff_refused (driver : Driver ε) (s : Clocked (Server ε)) (path : String) :
    (∀ files, ((∃ definitions, loadFile files path = .ok definitions) ∨
        ∃ failure, loadFile files path = .error failure ∧ failure.isReload = true) ↔
      stumbles files path = false) ∧
    (Exporter.FailsToReload driver.database ⟨s.clock, s.inner.exporter⟩ path →
      let accident := stumbles s.inner.exporter.files path
      let told := s.inner.terminations + if accident then 0 else 1
      (s.inner.exporter.scheduled = true → ∀ tick,
        let fired := run ((firing driver).fire tick) s
        fired.result = .ok accident ∧ fired.state.inner.terminations = told ∧
          fired.state.inner.exporter.store.definitions = s.inner.exporter.store.definitions) ∧
      (s.inner.exporter.scheduled = false → ∀ request,
        let answered := run (metrics driver request) s
        (if accident then ∃ failure, answered.result = .error failure
          else answered.result = .ok .reloadFailed) ∧
          answered.state.inner.terminations = told ∧
          answered.state.inner.exporter.store.definitions =
            s.inner.exporter.store.definitions)) := by
  refine ⟨fun files => loads_or_refuses_iff files path, fun h => ?_⟩
  intro accident told
  -- the failure of the cycle is that of the file
  have hkind : ∀ failure, loadFile s.inner.exporter.files path = .error failure →
      failure.isReload = !accident := by
    intro failure hfailure
    obtain ⟨definitions, hok, -⟩ | ⟨other, herror, hreload⟩ :=
      loadFile_cases s.inner.exporter.files path
    · cases hfailure.symm.trans hok
    · obtain rfl := Except.error.inj (hfailure.symm.trans herror)
      exact hreload
  refine ⟨fun hmode tick => ?_, fun hmode request => ?_⟩
  · obtain ⟨failure, hfailure, hresult, hkept⟩ :=
      Exporter.scrape_of_unloadable h .inTurn (some tick)
    obtain ⟨hfired, hstate⟩ := run_fire_of_scrape_error hmode hresult
    rw [hkind failure hfailure] at hfired hstate
    refine ⟨by rw [hfired, Bool.not_not], ?_, by rw [hstate]; exact hkept⟩
    rw [hstate]
    cases haccident : accident <;> simp [afterScrape, told, haccident]
  · obtain ⟨failure, hfailure, hresult, hkept⟩ := Exporter.scrape_of_unloadable h .inTurn none
    obtain ⟨hanswered, hstate⟩ := run_metrics_of_scrape_error hmode request hresult
    rw [hkind failure hfailure] at hanswered hstate
    refine ⟨?_, ?_, by rw [hstate]; exact hkept⟩
    · rw [hanswered]
      cases accident with
      | true => exact ⟨failure, rfl⟩
      | false => rfl
    · rw [hstate]
      cases haccident : accident <;> simp [afterScrape, told, haccident]

/-- A server whose only source has appeared since it was started, with these bytes. -/
def withNewSource (bytes : List UInt8) (scheduled : Bool) : Server Scripted.DriverState where
  exporter :=
    { files := [(["source.toml"], .file bytes)]
      database :=
        { driver := { pools := [{}] }
          connection := { settings := { connectString := "db" }, pool := some 0 } }
      store := { sources := ["source.toml"], defaults := none, definitions := Definition.builtin }
      snapshot := if scheduled then some {} else none }
  route := ⟨[]⟩
  logLevel := "info"

/-- A server whose new source is no document. -/
def withBrokenSource : Bool → Server Scripted.DriverState :=
  withNewSource (Text.encode "metric = [")

/-- A source that is no document ends the timer, and is answered with an error; the process is
terminated once. -/
theorem terminates_iff_refused_brokenSource :
    (∀ scheduled, Exporter.FailsToReload Scripted.driver.database
      ⟨0, (withBrokenSource scheduled).exporter⟩ "source.toml") ∧
    ((run ((firing Scripted.driver).fire 0) ⟨0, withBrokenSource true⟩).result = .ok false ∧
      (run ((firing Scripted.driver).fire 0) ⟨0, withBrokenSource true⟩).state.inner.terminations =
        1) ∧
    ∀ request, (run (metrics Scripted.driver request) ⟨0, withBrokenSource false⟩).result =
        .ok .reloadFailed ∧
      (run (metrics Scripted.driver request) ⟨0, withBrokenSource false⟩).state.inner.terminations =
        1 := by
  have hfails : ∀ scheduled, Exporter.FailsToReload Scripted.driver.database
      ⟨0, (withBrokenSource scheduled).exporter⟩ "source.toml" :=
    fun scheduled => ⟨by cases scheduled <;> decide +kernel, by cases scheduled <;> decide +kernel,
      by cases scheduled <;> decide +kernel⟩
  have hrefused : ∀ scheduled,
      stumbles (withBrokenSource scheduled).exporter.files "source.toml" = false := by
    decide +kernel
  have hnever : ∀ scheduled, (withBrokenSource scheduled).terminations = 0 := fun _ => rfl
  refine ⟨hfails, ?_, fun request => ?_⟩
  · obtain ⟨-, hreload⟩ :=
      terminates_iff_refused Scripted.driver ⟨0, withBrokenSource true⟩ "source.toml"
    obtain ⟨hscheduled, -⟩ := hreload (hfails true)
    obtain ⟨hfired, htold, -⟩ := hscheduled rfl 0
    simp only [hrefused, hnever, Bool.false_eq_true, if_false, Nat.zero_add] at hfired htold
    exact ⟨hfired, htold⟩
  · obtain ⟨-, hreload⟩ :=
      terminates_iff_refused Scripted.driver ⟨0, withBrokenSource false⟩ "source.toml"
    obtain ⟨-, hdemand⟩ := hreload (hfails false)
    obtain ⟨hanswered, htold, -⟩ := hdemand rfl request
    simp only [hrefused, hnever, Bool.false_eq_true, if_false, Nat.zero_add] at hanswered htold
    exact ⟨hanswered, htold⟩

/-- Not every file is loaded or refused: over bytes that are not UTF-8 the reader stumbles, and the
timer goes on with the old definitions. -/
theorem not_refused_notUtf8 :
    ¬ (∀ files path, (∃ definitions, loadFile files path = .ok definitions) ∨
      ∃ failure, loadFile files path = .error failure ∧ failure.isReload = true) ∧
    Exporter.FailsToReload Scripted.driver.database ⟨0, (withNewSource [0xFF] true).exporter⟩
      "source.toml" ∧
    (run ((firing Scripted.driver).fire 0) ⟨0, withNewSource [0xFF] true⟩).result = .ok true ∧
    (run ((firing Scripted.driver).fire 0)
      ⟨0, withNewSource [0xFF] true⟩).state.inner.terminations = 0 ∧
    (run ((firing Scripted.driver).fire 0)
      ⟨0, withNewSource [0xFF] true⟩).state.inner.exporter.store.definitions =
        Definition.builtin := by
  have hfile : loadFile (withNewSource [0xFF] true).exporter.files "source.toml" =
      .error (.definitions "source.toml" .notUtf8) := by
    decide +kernel
  have hfails : Exporter.FailsToReload Scripted.driver.database
      ⟨0, (withNewSource [0xFF] true).exporter⟩ "source.toml" :=
    ⟨by decide +kernel, by decide +kernel, by decide +kernel⟩
  obtain ⟨failure, -, hresult, hkept⟩ := Exporter.scrape_of_unloadable hfails .inTurn (some 0)
  obtain ⟨-, hstate⟩ := run_fire_of_scrape_error (s := ⟨0, withNewSource [0xFF] true⟩) rfl hresult
  refine ⟨fun hall => ?_, hfails, by decide +kernel, by decide +kernel, by rw [hstate]; exact hkept⟩
  obtain ⟨definitions, hok⟩ | ⟨failure, herror, hreload⟩ :=
    hall (withNewSource [0xFF] true).exporter.files "source.toml"
  · cases hfile.symm.trans hok
  · obtain rfl := Except.error.inj (hfile.symm.trans herror)
    cases hreload

end Server

end QueryMetrics
