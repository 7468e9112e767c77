import Mathlib.Data.List.Induction
import QueryMetrics.Proofs.Definition.FirstRefresh

/-!
# Detecting changes

A store is asked again and again whether its sources changed, and between two calls the files are
written, deleted and restored in any way: a run is given by the files that each call finds.

What a call ought to say is put without the store. A source is *news* if it can be read now and
either could be read at no earlier call, or has another fingerprint than at the latest earlier call
at which it could (`DefinitionStore.IsNews`). A call detects changes as it should
(`DefinitionStore.Detects`) if

* it says that something changed exactly if some source is news,
* it reports for every source, whatever becomes of the others, that it changed if it is news, that
  it cannot be read if it cannot, and otherwise nothing,
* and a second call on the same files finds nothing.

The fingerprints of the store are the memory of the run: after any calls, each source has the
fingerprint of the latest call at which it could be read (`DefinitionStore.recalls_afterChanges`).
A call looks at the sources up to the first whose path has a null character and fails there, which
no path without one makes it do. So changes are detected as they should exactly if no source has
such a path (`DefinitionStore.detects_iff`).
-/

namespace QueryMetrics

open QueryMetrics.Action

variable {files : FileTree} {path : String} {past : List FileTree}

/-! ### What a call ought to say -/

/-- The fingerprint of the file at a path, if it can be read. -/
def FileTree.fingerprint? (files : FileTree) (path : String) : Option Fingerprint :=
  (files.read path).toOption.map fingerprint

theorem FileTree.fingerprint?_of_ok {bytes : List UInt8} (h : files.read path = .ok bytes) :
    files.fingerprint? path = some (fingerprint bytes) := by
  rw [FileTree.fingerprint?, h]
  rfl

theorem FileTree.fingerprint?_of_error {fault : FileFault} (h : files.read path = .error fault) :
    files.fingerprint? path = none := by
  rw [FileTree.fingerprint?, h]
  rfl

namespace DefinitionStore

variable {position : Nat} {paths : List String} {store : DefinitionStore}

/-- The fingerprint that a path had at the latest earlier call at which it could be read. -/
def lastSeen? (past : List FileTree) (path : String) : Option Fingerprint :=
  (past.filterMap fun files => files.fingerprint? path).getLast?

/-- The path can be read, and was not seen before with the fingerprint it has now: it could be read
at no earlier call, or had another one at the latest of them. -/
def IsNews (past : List FileTree) (files : FileTree) (path : String) : Prop :=
  ∃ digest, files.fingerprint? path = some digest ∧ lastSeen? past path ≠ some digest

/-- What is to be reported about a path. -/
def reportOf (past : List FileTree) (files : FileTree) (path : String) : List StoreEvent :=
  match files.read path with
  | .error fault => [.unreadable path fault]
  | .ok bytes => if lastSeen? past path = some (fingerprint bytes) then [] else [.changed path]

/-- The store after calls; each of them finds its own files. -/
def afterChanges : List FileTree → DefinitionStore → DefinitionStore
  | [], store => store
  | files :: rest, store => afterChanges rest (run (changed files) store).state

/-- The call that comes after the calls of a run detects changes as it should. -/
structure Detects (past : List FileTree) (files : FileTree) (store : DefinitionStore) : Prop where
  /-- It says that something changed exactly if some source is news. -/
  answers : ∃ found, (run (changed files) (afterChanges past store)).result = .ok found ∧
    (found = true ↔ ∃ path ∈ store.sources, IsNews past files path)
  /-- Every source is reported on, one after another. -/
  reports : (run (changed files) (afterChanges past store)).events =
    store.sources.flatMap (reportOf past files)
  /-- The same files are not news a second time. -/
  settles : (run (changed files) (afterChanges (past ++ [files]) store)).result = .ok false

/-! ### What was seen last -/

theorem lastSeen?_concat (past : List FileTree) (files : FileTree) (path : String) :
    lastSeen? (past ++ [files]) path = (files.fingerprint? path).or (lastSeen? past path) := by
  rw [lastSeen?, lastSeen?, List.filterMap_append, List.getLast?_append]
  cases hnow : files.fingerprint? path with
  | none => simp [hnow]
  | some digest => simp [hnow]

/-- What a call has seen is no news at once. -/
theorem not_isNews_concat (past : List FileTree) (files : FileTree) (path : String) :
    ¬ IsNews (past ++ [files]) files path := by
  rintro ⟨digest, hseen, hnews⟩
  rw [lastSeen?_concat, hseen] at hnews
  exact hnews rfl

theorem afterChanges_concat (past : List FileTree) (files : FileTree) (store : DefinitionStore) :
    afterChanges (past ++ [files]) store =
      (run (changed files) (afterChanges past store)).state := by
  induction past generalizing store with
  | nil => rfl
  | cons first rest ih => exact ih _

/-! ### One source -/

/-- The comparison of a source leaves the fingerprints of the others alone. -/
theorem find?_sourceChanged_of_ne {i : Nat} (hi : i ≠ position) (files : FileTree) (path : String)
    (store : DefinitionStore) :
    (run (sourceChanged files position path) store).state.fingerprints.find? i =
      store.fingerprints.find? i := by
  obtain ⟨-, h⟩ | ⟨_, -, h⟩ | ⟨bytes, -, ⟨-, h⟩ | ⟨-, h⟩⟩ :=
    sourceChanged_cases files position path store
  · rw [h]
  · rw [h]
  · rw [h]
  · rw [h]
    exact Entries.find?_put_of_ne hi ..

/-- A source whose fingerprint is the one seen last is compared with the past: it is reported on as
it ought to be, and then its fingerprint is again the one seen last. -/
theorem sourceChanged_recalls (hpath : '\x00' ∉ path.toList)
    (hseen : store.fingerprints.find? position = lastSeen? past path) (files : FileTree) :
    let ran := run (sourceChanged files position path) store
    (∃ found, ran.result = .ok found ∧ (found = true ↔ IsNews past files path)) ∧
      ran.events = reportOf past files path ∧
      ran.state.fingerprints.find? position = lastSeen? (past ++ [files]) path := by
  rw [lastSeen?_concat]
  obtain ⟨hnull, -⟩ | ⟨fault, hread, hrun⟩ | ⟨bytes, hread, ⟨hsame, hrun⟩ | ⟨hnew, hrun⟩⟩ :=
    sourceChanged_cases files position path store
  · exact absurd ((FileTree.read_eq_nullCharacter_iff files path).mp hnull) hpath
  · have hnone := FileTree.fingerprint?_of_error hread
    rw [hrun, hnone]
    refine ⟨⟨false, rfl, iff_of_false nofun ?_⟩, ?_, hseen⟩
    · rintro ⟨digest, hdigest, -⟩
      cases hnone.symm.trans hdigest
    · rw [reportOf, hread]
  · have hdigest := FileTree.fingerprint?_of_ok hread
    rw [hrun, hdigest]
    refine ⟨⟨false, rfl, iff_of_false nofun ?_⟩, ?_, hsame⟩
    · rintro ⟨digest, hnow, hnews⟩
      rw [hdigest] at hnow
      exact hnews ((hseen.symm.trans hsame).trans hnow)
    · rw [reportOf, hread]
      exact (if_pos (hseen.symm.trans hsame)).symm
  · have hdigest := FileTree.fingerprint?_of_ok hread
    rw [hseen] at hnew
    rw [hrun, hdigest]
    refine ⟨⟨true, rfl, iff_of_true rfl ⟨_, hdigest, hnew⟩⟩, ?_, ?_⟩
    · rw [reportOf, hread]
      exact (if_neg hnew).symm
    · exact Entries.find?_put_self ..

/-! ### All sources -/

/-- From a position on, the fingerprints of the sources are those seen last. -/
def Recalls (position : Nat) (paths : List String) (past : List FileTree)
    (store : DefinitionStore) : Prop :=
  ∀ (i : Nat) (path : String), paths[i]? = some path →
    store.fingerprints.find? (position + i) = lastSeen? past path

theorem recalls_cons_iff :
    Recalls position (path :: paths) past store ↔
      store.fingerprints.find? position = lastSeen? past path ∧
        Recalls (position + 1) paths past store := by
  constructor
  · intro h
    refine ⟨h 0 path rfl, fun i other hother => ?_⟩
    have hnext := h (i + 1) other hother
    rwa [show position + (i + 1) = position + 1 + i by omega] at hnext
  · rintro ⟨hfirst, hrest⟩ i other hother
    cases i with
    | zero =>
      obtain rfl := Option.some.inj hother
      exact hfirst
    | succ i =>
      have hnext := hrest i other hother
      rwa [show position + 1 + i = position + (i + 1) by omega] at hnext

/-- Sources whose fingerprints are those seen last are compared with the past, one after another:
each is reported on as it ought to be, and then the fingerprints are again those seen last. -/
theorem sourcesChanged_recalls (hpaths : ∀ path ∈ paths, '\x00' ∉ path.toList)
    (hseen : Recalls position paths past store) (files : FileTree) :
    let ran := run (sourcesChanged files position paths) store
    (∃ found, ran.result = .ok found ∧ (found = true ↔ ∃ path ∈ paths, IsNews past files path)) ∧
      ran.events = paths.flatMap (reportOf past files) ∧
      Recalls position paths (past ++ [files]) ran.state := by
  induction paths generalizing position store with
  | nil => exact ⟨⟨false, rfl, by simp⟩, rfl, fun i other hother => by cases hother⟩
  | cons path rest ih =>
    obtain ⟨hpath, hrest⟩ := List.forall_mem_cons.mp hpaths
    obtain ⟨hfirst, hothers⟩ := recalls_cons_iff.mp hseen
    obtain ⟨⟨first, hresult, hnews⟩, hevents, hkept⟩ := sourceChanged_recalls hpath hfirst files
    -- the first comparison keeps the fingerprints of the others, and theirs keep its own
    have hothers' : Recalls (position + 1) rest past
        (run (sourceChanged files position path) store).state := by
      intro i other hother
      rw [find?_sourceChanged_of_ne (by omega)]
      exact hothers i other hother
    obtain ⟨⟨others, hresult', hnews'⟩, hevents', hkept'⟩ := ih hrest hothers'
    have hbelow := agreesBelow_sourcesChanged files (position + 1) rest
      (run (sourceChanged files position path) store).state
    rw [sourcesChanged, run_bind_ok hresult, run_bind_ok hresult']
    refine ⟨⟨first || others, rfl, ?_⟩, ?_, recalls_cons_iff.mpr ⟨?_, hkept'⟩⟩
    · rw [Bool.or_eq_true, hnews, hnews', List.exists_mem_cons_iff]
    · rw [hevents, hevents', List.flatMap_cons]
      simp
    · exact (hbelow.fingerprints position (by omega)).trans hkept

/-- The first source whose path has a null character fails the comparison. -/
theorem sourcesChanged_fails (files : FileTree) (position : Nat) (store : DefinitionStore)
    (h : paths.find? ('\x00' ∈ ·.toList) = some path) :
    (run (sourcesChanged files position paths) store).result =
      .error (.definitions path .badPath) := by
  induction paths generalizing position store with
  | nil => cases h
  | cons first rest ih =>
    rw [sourcesChanged]
    by_cases hnull : '\x00' ∈ first.toList
    · rw [List.find?_cons_of_pos (by simpa using hnull)] at h
      obtain rfl := Option.some.inj h
      have hread := (FileTree.read_eq_nullCharacter_iff files first).mpr hnull
      have hfails : (run (sourceChanged files position first) store).result =
          .error (.definitions first .badPath) := by
        rw [sourceChanged, hread]
        rfl
      rw [run_bind_error hfails]
    · rw [List.find?_cons_of_neg (by simpa using hnull)] at h
      have hrest := ih (position + 1) (run (sourceChanged files position first) store).state h
      cases hfirst : (run (sourceChanged files position first) store).result with
      | error failure =>
        -- no other path makes a comparison fail
        obtain ⟨hbad, -⟩ | ⟨_, -, hrun⟩ | ⟨_, -, ⟨-, hrun⟩ | ⟨-, hrun⟩⟩ :=
          sourceChanged_cases files position first store
        · exact absurd ((FileTree.read_eq_nullCharacter_iff files first).mp hbad) hnull
        all_goals
          rw [hrun] at hfirst
          cases hfirst
      | ok found => rw [run_bind_ok hfirst, run_bind_error hrest]

/-! ### Calls -/

theorem sources_afterChanges (past : List FileTree) (store : DefinitionStore) :
    (afterChanges past store).sources = store.sources := by
  induction past generalizing store with
  | nil => rfl
  | cons files rest ih =>
    have hagrees := agreesBelow_sourcesChanged files 0 store.sources store
    rw [← run_changed] at hagrees
    exact (ih _).trans hagrees.sources

/-- **The memory of a run.** After any calls, each source has the fingerprint of the latest call at
which it could be read. -/
theorem recalls_afterChanges (hpaths : ∀ path ∈ store.sources, '\x00' ∉ path.toList)
    (hnew : store.fingerprints = []) (past : List FileTree) :
    Recalls 0 store.sources past (afterChanges past store) := by
  induction past using List.reverseRecOn with
  | nil =>
    intro i path _
    rw [afterChanges, hnew]
    rfl
  | append_singleton past files ih =>
    obtain ⟨-, -, hafter⟩ := sourcesChanged_recalls hpaths ih files
    rwa [afterChanges_concat, run_changed, sources_afterChanges]

/-- What a call says after any others. -/
theorem changed_afterChanges (hpaths : ∀ path ∈ store.sources, '\x00' ∉ path.toList)
    (hnew : store.fingerprints = []) (past : List FileTree) (files : FileTree) :
    let ran := run (changed files) (afterChanges past store)
    (∃ found, ran.result = .ok found ∧
        (found = true ↔ ∃ path ∈ store.sources, IsNews past files path)) ∧
      ran.events = store.sources.flatMap (reportOf past files) := by
  obtain ⟨hanswer, hreports, -⟩ :=
    sourcesChanged_recalls hpaths (recalls_afterChanges hpaths hnew past) files
  rw [run_changed, sources_afterChanges]
  exact ⟨hanswer, hreports⟩

/-- **Detecting changes.** For a new store, any calls and any files in between, the next call
detects changes as it should exactly if no source has a path with a null character. The first such
path fails the call. -/
theorem detects_iff {given : FileTree} {paths : List String} {defaults : Option String}
    (hcreate : create given paths defaults = .ok store) (past : List FileTree)
    (files : FileTree) :
    (Detects past files store ↔ ∀ path ∈ store.sources, '\x00' ∉ path.toList) ∧
    ∀ path, store.sources.find? ('\x00' ∈ ·.toList) = some path →
      (run (changed files) (afterChanges past store)).result =
        .error (.definitions path .badPath) := by
  obtain ⟨hnew, -⟩ := create_eq_ok hcreate
  have hfails : ∀ path, store.sources.find? ('\x00' ∈ ·.toList) = some path →
      (run (changed files) (afterChanges past store)).result =
        .error (.definitions path .badPath) := by
    intro path hfirst
    rw [run_changed, sources_afterChanges]
    exact sourcesChanged_fails files 0 _ hfirst
  refine ⟨⟨?_, ?_⟩, hfails⟩
  · intro hdetects path hmem hnull
    obtain ⟨found, hfound, -⟩ := hdetects.answers
    cases hfirst : store.sources.find? ('\x00' ∈ ·.toList) with
    | none =>
      exact List.find?_eq_none.mp hfirst path hmem (decide_eq_true hnull)
    | some first => cases hfound.symm.trans (hfails first hfirst)
  · intro hpaths
    obtain ⟨hanswers, hreports⟩ := changed_afterChanges hpaths hnew past files
    obtain ⟨⟨found, hfound, hnews⟩, -⟩ :=
      changed_afterChanges hpaths hnew (past ++ [files]) files
    -- nothing is news a second time, so the second answer is no
    have hnothing : found = false := by
      rw [Bool.eq_false_iff]
      intro htrue
      obtain ⟨path, -, hagain⟩ := hnews.mp htrue
      exact not_isNews_concat past files path hagain
    exact ⟨hanswers, hreports, hnothing ▸ hfound⟩

/-! ### Two sources -/

/-- The files with one source, which holds the bytes. -/
def sourceHolding (bytes : List UInt8) : FileTree := [(["a.toml"], .file bytes)]

/-- A store with a source that is named twice and one that never exists. -/
def twiceNamed : DefinitionStore where
  sources := ["a.toml", "b.toml", "a.toml"]
  defaults := none
  definitions := Definition.builtin

theorem create_twiceNamed :
    create [] ["a.toml", " ", "./b.toml", "a.toml"] none = .ok twiceNamed := by
  have hsources : sourcePaths ["a.toml", " ", "./b.toml", "a.toml"] = twiceNamed.sources := by
    decide +kernel
  rw [create, hsources]
  rfl

/-- A source is read, changes, disappears, and comes back with its first content. -/
theorem detects_iff_comesBack :
    create [] ["a.toml", " ", "./b.toml", "a.toml"] none = .ok twiceNamed ∧
      Detects [sourceHolding [1], sourceHolding [2], []] (sourceHolding [1]) twiceNamed :=
  ⟨create_twiceNamed, (detects_iff create_twiceNamed
    [sourceHolding [1], sourceHolding [2], []] (sourceHolding [1])).1.mpr (by decide +kernel)⟩

/-- A path with a null character is not reported as one that cannot be read: it fails the call. -/
theorem not_detects_nullPath :
    ∃ store, create [] ["a\x00b"] none = .ok store ∧ ¬ Detects [] [] store := by
  refine ⟨⟨["a\x00b"], none, [], Definition.builtin⟩, rfl, ?_⟩
  intro hdetects
  obtain ⟨found, hfound, -⟩ := hdetects.answers
  cases hfound

end DefinitionStore

end QueryMetrics
