import Mathlib.Data.List.Induction
import QueryMetrics.Proofs.Definition.Refresh

/-!
# Active definitions over time

A store is refreshed again and again, and between two refreshes its files change in any way: a run
is given by the files that each refresh finds.

* **All or nothing.** After any run, the active definitions are the complete set of the last load
  (`DefinitionStore.lastLoad?`), or the defaults of the beginning if nothing was loaded. A refresh
  that fails or finds nothing new keeps them.
* **Up to date.** If no refresh failed, the fingerprint of every source is that of the content which
  the last load has read (`DefinitionStore.Recorded`). So a source with another content is noticed,
  provided that the two contents differ in their fingerprints, and after a refresh the active
  definitions are what the sources say.
-/

namespace QueryMetrics.DefinitionStore

open QueryMetrics.Action

variable {files : FileTree} {store : DefinitionStore}

/-! ### Runs of refreshes -/

/-- The store after refreshes; each of them finds its own files. -/
def afterRefreshes : List FileTree → DefinitionStore → DefinitionStore
  | [], store => store
  | files :: rest, store => afterRefreshes rest (run (refresh files) store).state

/-- The files as they stood at the last refresh that loaded. -/
def lastLoad? : List FileTree → DefinitionStore → Option FileTree
  | [], _ => none
  | files :: rest, store =>
    (lastLoad? rest (run (refresh files) store).state).or
      (match (run (refresh files) store).result with
        | .ok true => some files
        | _ => none)

/-- No refresh of the run fails. -/
def noneFails : List FileTree → DefinitionStore → Bool
  | [], _ => true
  | files :: rest, store =>
    (run (refresh files) store).result.isOk && noneFails rest (run (refresh files) store).state

theorem afterRefreshes_concat (past : List FileTree) (files : FileTree) (store : DefinitionStore) :
    afterRefreshes (past ++ [files]) store =
      (run (refresh files) (afterRefreshes past store)).state := by
  induction past generalizing store with
  | nil => rfl
  | cons first rest ih => exact ih _

theorem lastLoad?_concat (past : List FileTree) (files : FileTree) (store : DefinitionStore) :
    lastLoad? (past ++ [files]) store =
      match (run (refresh files) (afterRefreshes past store)).result with
      | .ok true => some files
      | _ => lastLoad? past store := by
  induction past generalizing store with
  | nil => rfl
  | cons first rest ih =>
    rw [List.cons_append, lastLoad?, ih, lastLoad?, afterRefreshes]
    split <;> rfl

theorem noneFails_concat (past : List FileTree) (files : FileTree) (store : DefinitionStore) :
    noneFails (past ++ [files]) store = true ↔
      noneFails past store = true ∧
        (run (refresh files) (afterRefreshes past store)).result.isOk = true := by
  induction past generalizing store with
  | nil => simp [noneFails, afterRefreshes]
  | cons first rest ih => simp [noneFails, afterRefreshes, ih, and_assoc]

theorem config_afterRefreshes (views : List FileTree) (store : DefinitionStore) :
    (afterRefreshes views store).sources = store.sources ∧
      (afterRefreshes views store).defaults = store.defaults := by
  induction views generalizing store with
  | nil => exact ⟨rfl, rfl⟩
  | cons files rest ih =>
    obtain ⟨⟨hsources, hdefaults⟩, -⟩ := refresh_cases files store
    exact ⟨(ih _).1.trans hsources, (ih _).2.trans hdefaults⟩

/-! ### All or nothing -/

/-- The active definitions are the complete set of what was loaded last, and before the first load
those of the beginning. -/
def Holds (store : DefinitionStore) (definitions : List Definition) : Option FileTree → Prop
  | none => definitions = store.definitions
  | some loaded => IsComplete loaded store.defaults store.sources definitions

theorem holds_afterRefreshes (views : List FileTree) (store : DefinitionStore) :
    store.Holds (afterRefreshes views store).definitions (lastLoad? views store) := by
  induction views using List.reverseRecOn with
  | nil => rfl
  | append_singleton past files ih =>
    obtain ⟨hsources, hdefaults⟩ := config_afterRefreshes past store
    rw [lastLoad?_concat, afterRefreshes_concat]
    obtain ⟨-, ⟨failure, hresult, hkept⟩ | ⟨hresult, hkept, -⟩ | ⟨hresult, -, hcomplete⟩⟩ :=
      refresh_cases files (afterRefreshes past store)
    · rw [hresult, hkept]
      exact ih
    · rw [hresult, hkept]
      exact ih
    · rw [hresult]
      rwa [hsources, hdefaults] at hcomplete

/-- What was loaded last was found by some refresh. -/
theorem mem_of_lastLoad? {views : List FileTree} {loaded : FileTree}
    (h : lastLoad? views store = some loaded) : loaded ∈ views := by
  induction views using List.reverseRecOn with
  | nil => cases h
  | append_singleton past files ih =>
    rw [lastLoad?_concat] at h
    split at h
    · simp [Option.some.inj h]
    · exact List.mem_append_left _ (ih h)

/-! ### Up to date -/

/-- The fingerprints are those of what was loaded last: none before the first load, and after it,
for every source, that of the content which the load has read. -/
def Recorded (store : DefinitionStore) : Option FileTree → Prop
  | none => ∀ i < store.sources.length, store.fingerprints.find? i = none
  | some files => ∀ (i : Nat) (path : String), store.sources[i]? = some path →
      ∃ bytes, files.read path = .ok bytes ∧ store.fingerprints.find? i = some (fingerprint bytes)

/-- After a load that succeeded, every source has the fingerprint of what was read. -/
theorem recorded_of_isComplete {definitions : List Definition} (hsees : store.Sees files)
    (h : IsComplete files store.defaults store.sources definitions) :
    store.Recorded (some files) := by
  intro i path hpath
  obtain ⟨base, sets, -, hsets, -⟩ := h
  obtain ⟨hlength, hdefines⟩ := List.forall₂_iff_get.mp hsets
  obtain ⟨hi, rfl⟩ := List.getElem?_eq_some_iff.mp hpath
  obtain ⟨bytes, hread, -⟩ := hdefines i hi (hlength ▸ hi)
  exact ⟨bytes, hread, hsees i _ bytes hpath hread⟩

/-- If no refresh of a run fails, the fingerprints are those of what was loaded last. -/
theorem recorded_afterRefreshes (views : List FileTree) (hstart : store.Recorded none)
    (h : noneFails views store = true) : (afterRefreshes views store).Recorded (lastLoad? views store) := by
  induction views using List.reverseRecOn with
  | nil => exact hstart
  | append_singleton past files ih =>
    rw [noneFails_concat] at h
    rw [lastLoad?_concat, afterRefreshes_concat]
    obtain ⟨⟨hsources, hdefaults⟩, ⟨failure, hresult, -⟩ | ⟨hresult, hkept, -⟩ |
      ⟨hresult, hsees, hcomplete⟩⟩ := refresh_cases files (afterRefreshes past store)
    · rw [hresult] at h
      cases h.2
    · rw [hresult, hkept]
      exact ih h.1
    · rw [hresult]
      rw [← hsources, ← hdefaults] at hcomplete
      exact recorded_of_isComplete hsees hcomplete

/-- No two contents of one source, among those that the refreshes find, have the same
fingerprint. -/
def Distinguishes (views : List FileTree) (sources : List String) : Prop :=
  ∀ path ∈ sources, ∀ files ∈ views, ∀ files' ∈ views, ∀ bytes bytes',
    files.read path = .ok bytes → files'.read path = .ok bytes' →
      fingerprint bytes = fingerprint bytes' → bytes = bytes'

/-- A refresh that does not fail has compared every source. -/
theorem sees_refresh {loaded : Bool} (h : (run (refresh files) store).result = .ok loaded) :
    (run (refresh files) store).state.Sees files := by
  obtain ⟨-, ⟨failure, hresult, -⟩ | ⟨-, hkept, hsees⟩ | ⟨-, hsees, -⟩⟩ := refresh_cases files store
  · cases h.symm.trans hresult
  · rwa [hkept]
  · exact hsees

/-- If the fingerprints are those of what was loaded last and also those of what the files hold now,
then every source holds what was loaded. -/
theorem read_eq_of_recorded {views : List FileTree} {loaded : FileTree}
    (hrecorded : store.Recorded (some loaded)) (hsees : store.Sees files)
    (hdistinct : Distinguishes views store.sources) (hloaded : loaded ∈ views)
    (hfiles : files ∈ views)
    (hreadable : ∀ path ∈ store.sources, ∃ bytes, files.read path = .ok bytes) :
    ∀ path ∈ store.sources, loaded.read path = files.read path := by
  intro path hpath
  obtain ⟨bytes, hbytes⟩ := hreadable path hpath
  obtain ⟨i, hi⟩ := List.mem_iff_getElem?.mp hpath
  obtain ⟨old, hold, hfingerprint⟩ := hrecorded i path hi
  have hsame : fingerprint old = fingerprint bytes :=
    Option.some.inj (hfingerprint.symm.trans (hsees i path bytes hi hbytes))
  rw [hold, hbytes, hdistinct path hpath loaded hloaded files hfiles old bytes hold hbytes hsame]

/-- If no refresh of a run fails and each source is readable at the last one, the sources are then
what they were at the last load. Nothing was loaded only if there are no sources. -/
theorem unchanged_since_lastLoad {past : List FileTree} (hempty : store.fingerprints = [])
    (hnone : noneFails (past ++ [files]) store = true)
    (hreadable : ∀ path ∈ store.sources, ∃ bytes, files.read path = .ok bytes)
    (hdistinct : Distinguishes (past ++ [files]) store.sources) :
    match lastLoad? (past ++ [files]) store with
    | none => store.sources = []
    | some loaded => ∀ path ∈ store.sources, loaded.read path = files.read path := by
  have hrecorded := recorded_afterRefreshes _ (fun i _ => by rw [hempty]; rfl) hnone
  have hsources := (config_afterRefreshes (past ++ [files]) store).1
  have hsees : (afterRefreshes (past ++ [files]) store).Sees files := by
    obtain ⟨loaded, hresult⟩ := exists_of_isOk ((noneFails_concat past files store).mp hnone).2
    rw [afterRefreshes_concat]
    exact sees_refresh hresult
  rw [← hsources] at hreadable hdistinct ⊢
  cases hlast : lastLoad? (past ++ [files]) store with
  | some loaded =>
    rw [hlast] at hrecorded
    exact read_eq_of_recorded hrecorded hsees hdistinct (mem_of_lastLoad? hlast) (by simp) hreadable
  | none =>
    rw [hlast] at hrecorded
    -- a readable source would have a fingerprint by now
    by_contra hne
    obtain ⟨path, rest, hcons⟩ := List.exists_cons_of_ne_nil hne
    obtain ⟨bytes, hbytes⟩ := hreadable path (by simp [hcons])
    have hunread := hrecorded 0 (by simp [hcons])
    cases hunread.symm.trans (hsees 0 path bytes (by simp [hcons]) hbytes)

/-- Files that read the same define the same. -/
theorem forall₂_defines_congr {loaded : FileTree} {sources : List String}
    {sets : List (List Definition)} (h : ∀ path ∈ sources, loaded.read path = files.read path)
    (hsets : List.Forall₂ (Defines loaded) sources sets) :
    List.Forall₂ (Defines files) sources sets := by
  refine ((List.forall₂_and_left _ _).mpr ⟨h, hsets⟩).imp ?_
  rintro path definitions ⟨hsame, bytes, hread, hdefinitions⟩
  exact ⟨bytes, hsame ▸ hread, hdefinitions⟩

/-! ### The result -/

/-- At the beginning the defaults are active, and no source has been compared. -/
theorem create_eq_ok {paths : List String} {defaults : Option String}
    (h : create files paths defaults = .ok store) :
    store.fingerprints = [] ∧ loadDefaults files store.defaults = .ok store.definitions := by
  unfold create at h
  extract_lets path at h
  cases hdefaults : loadDefaults files path with
  | error failure =>
    rw [hdefaults] at h
    cases h
  | ok definitions =>
    rw [hdefaults] at h
    obtain rfl := Except.ok.inj h
    exact ⟨rfl, hdefaults⟩

/-- **No stale and no partial set.** Whatever happens to the files between the refreshes of a run,
the active definitions are those which the last load has read, all of them, or the defaults of the
beginning; a refresh that fails or finds nothing new keeps them. If no refresh of the run fails and
each source is readable at the last one, then the active definitions of the sources are what the
sources say at that time. -/
theorem definitions_upToDate {atStart : FileTree} {paths : List String} {defaults : Option String}
    {store : DefinitionStore} (hcreate : create atStart paths defaults = .ok store)
    (views : List FileTree) :
    let after := afterRefreshes views store
    (lastLoad? views store = none →
      loadDefaults atStart store.defaults = .ok after.definitions) ∧
    (∀ loaded, lastLoad? views store = some loaded → loaded ∈ views ∧
      IsComplete loaded store.defaults store.sources after.definitions) ∧
    (∀ files, (run (refresh files) after).result ≠ .ok true →
      (run (refresh files) after).state.definitions = after.definitions) ∧
    ∀ past files, views = past ++ [files] → noneFails views store = true →
      (∀ path ∈ store.sources, ∃ bytes, files.read path = .ok bytes) →
      Distinguishes views store.sources →
      ∃ base sets, loadDefaults ((lastLoad? views store).getD atStart) store.defaults = .ok base ∧
        List.Forall₂ (Defines files) store.sources sets ∧
        after.definitions = base ++ sets.flatten := by
  intro after
  obtain ⟨hempty, hstart⟩ := create_eq_ok hcreate
  have hholds := holds_afterRefreshes views store
  refine ⟨fun hlast => ?_, fun loaded hlast => ?_, fun files hresult => ?_, ?_⟩
  · rw [hlast] at hholds
    exact hstart.trans (congrArg Except.ok hholds.symm)
  · rw [hlast] at hholds
    exact ⟨mem_of_lastLoad? hlast, hholds⟩
  · exact definitions_refresh_of_not_loaded hresult
  · rintro past files rfl hnone hreadable hdistinct
    have hsame := unchanged_since_lastLoad hempty hnone hreadable hdistinct
    cases hlast : lastLoad? (past ++ [files]) store with
    | some loaded =>
      rw [hlast] at hholds hsame
      obtain ⟨base, sets, hbase, hsets, hdefinitions⟩ := hholds
      exact ⟨base, sets, hbase, forall₂_defines_congr hsame hsets, hdefinitions⟩
    | none =>
      rw [hlast] at hholds hsame
      rw [show store.sources = [] from hsame]
      exact ⟨store.definitions, [], hstart, .nil, by rw [hholds]; simp⟩

/-- A file with one definition of the given context. -/
def singleMetric (context : String) : List UInt8 :=
  Text.encode ("[[metric]]\ncontext = \"" ++ context ++ "\"\n")

/-- Files with the defaults only. -/
def defaultsAlone : FileTree := [(["defaults.toml"], .file (singleMetric "base"))]

/-- Files with the defaults and one source. -/
def withSource (context : String) : FileTree :=
  (["source.toml"], .file (singleMetric context)) :: defaultsAlone

/-- A source that changes, disappears, and comes back as it was. -/
def restoredSource : List FileTree :=
  [withSource "a", withSource "b", defaultsAlone, withSource "b"]

/-- A store with one source, at its beginning. -/
def singleSource : DefinitionStore where
  sources := ["source.toml"]
  defaults := some "defaults.toml"
  definitions := [{ context := "base" }]

/-- When the source is back as it was, nothing is loaded anew, and its definitions are active. -/
theorem definitions_upToDate_restoredSource :
    create defaultsAlone ["source.toml"] (some "defaults.toml") = .ok singleSource ∧
    noneFails restoredSource singleSource = true ∧
    (run (refresh (withSource "b")) (afterRefreshes (restoredSource.take 3) singleSource)).result =
      .ok false ∧
    Distinguishes restoredSource singleSource.sources ∧
    ∃ base sets, loadFile (withSource "b") "defaults.toml" = .ok base ∧
      List.Forall₂ (Defines (withSource "b")) ["source.toml"] sets ∧
      (afterRefreshes restoredSource singleSource).definitions = base ++ sets.flatten := by
  have hcreate : create defaultsAlone ["source.toml"] (some "defaults.toml") = .ok singleSource := by
    decide +kernel
  have hnone : noneFails restoredSource singleSource = true := by decide +kernel
  have hdistinct : Distinguishes restoredSource singleSource.sources := by
    intro path hpath files hfiles files' hfiles' bytes bytes' hread hread' hsame
    obtain rfl := List.mem_singleton.mp hpath
    have hreads : ∀ files ∈ restoredSource, files.read "source.toml" = .ok (singleMetric "a") ∨
        files.read "source.toml" = .ok (singleMetric "b") ∨
        files.read "source.toml" = .error .missing := by
      decide +kernel
    have hcontent : ∀ files ∈ restoredSource, ∀ bytes, files.read "source.toml" = .ok bytes →
        bytes = singleMetric "a" ∨ bytes = singleMetric "b" := by
      intro files hfiles bytes hread
      obtain h | h | h := hreads files hfiles
      · exact .inl (Except.ok.inj (hread.symm.trans h))
      · exact .inr (Except.ok.inj (hread.symm.trans h))
      · cases hread.symm.trans h
    have hne : fingerprint (singleMetric "a") ≠ fingerprint (singleMetric "b") := by
      decide +kernel
    obtain rfl | rfl := hcontent files hfiles bytes hread <;>
      obtain rfl | rfl := hcontent files' hfiles' bytes' hread'
    · rfl
    · exact absurd hsame hne
    · exact absurd hsame.symm hne
    · rfl
  have hlast : lastLoad? restoredSource singleSource = some (withSource "b") := by decide +kernel
  obtain ⟨-, -, -, hcurrent⟩ := definitions_upToDate hcreate restoredSource
  have hreadable : ∀ path ∈ singleSource.sources,
      ∃ bytes, (withSource "b").read path = .ok bytes := by
    intro path hpath
    obtain rfl := List.mem_singleton.mp hpath
    exact ⟨singleMetric "b", by decide +kernel⟩
  have hresult := hcurrent (restoredSource.take 3) (withSource "b") rfl hnone hreadable hdistinct
  rw [hlast] at hresult
  exact ⟨hcreate, hnone, by decide +kernel, hdistinct, hresult⟩

end QueryMetrics.DefinitionStore
