import QueryMetrics.Proofs.Definition.Freshness
import QueryMetrics.Proofs.Definition.Refusal

/-!
# The first refresh

A new store has the defaults as its active definitions and has not compared any source yet. So its
first refresh finds a change exactly if some source can be read: a source that cannot be read
counts as unchanged, here as later.

Therefore the sources decide together what becomes of one that cannot be read. Beside a source that
can be read it makes the load fail (`DefinitionStore.result_firstRefresh`). Among sources none of
which can be read it goes unnoticed: nothing is loaded, the refresh succeeds, and the active
definitions are still the defaults alone (`DefinitionStore.firstRefresh_isComplete_iff`).
-/

namespace QueryMetrics

open QueryMetrics.Action

variable {files : FileTree} {path : String}

/-! ### Reading -/

namespace FileTree

/-- The file at the path can be read. -/
def isReadable (files : FileTree) (path : String) : Bool := (files.read path).isOk

theorem absent_ne_nullCharacter (name : String) : absent name ≠ .nullCharacter := by
  rw [absent]
  split <;> nofun

private theorem followOutside_ne_nullCharacter {parts : List String} :
    followOutside parts ≠ .error .nullCharacter := by
  fun_induction followOutside parts with
  | case1 => nofun
  | case2 rest ih => exact ih
  | case3 part rest => simpa using absent_ne_nullCharacter part

private theorem follow_ne_nullCharacter (here : List String) {parts : List String} :
    files.follow here parts ≠ .error .nullCharacter := by
  fun_induction follow files here parts with
  | case1 | case2 | case6 | case7 => simp
  | case3 => exact followOutside_ne_nullCharacter
  | case4 _ _ _ ih => exact ih
  | case5 _ _ _ _ _ ih => exact ih
  | case8 here part => simpa using absent_ne_nullCharacter part

/-- A path can belong to no file exactly if it has a null character. -/
theorem read_eq_nullCharacter_iff (files : FileTree) (path : String) :
    files.read path = .error .nullCharacter ↔ '\x00' ∈ path.toList := by
  by_cases hnull : '\x00' ∈ path.toList
  · simp [read, lookup, hnull]
  · have hlookup : files.lookup path ≠ .error .nullCharacter := by
      rw [lookup, if_neg hnull]
      split
      · nofun
      · split
        · exact followOutside_ne_nullCharacter
        · exact follow_ne_nullCharacter []
    simp only [hnull, iff_false]
    rw [read]
    split
    · nofun
    · nofun
    · rename_i fault hfault
      simpa [hfault] using hlookup

end FileTree

theorem Defines.isReadable {definitions : List Definition} (h : Defines files path definitions) :
    files.isReadable path = true := by
  obtain ⟨bytes, hread, -⟩ := h
  rw [FileTree.isReadable, hread]
  rfl

namespace DefinitionStore

/-! ### Comparing for the first time -/

/-- No source from a position on has been compared. -/
def IsNewFrom (position : Nat) (store : DefinitionStore) : Prop :=
  ∀ i, position ≤ i → store.fingerprints.find? i = none

/-- A source that is compared for the first time counts as changed exactly if it can be read; its
comparison is no matter for those behind it. -/
private theorem result_sourceChanged_of_new (files : FileTree) {position : Nat}
    {store : DefinitionStore} (hnew : store.IsNewFrom position) (hpath : '\x00' ∉ path.toList) :
    (run (sourceChanged files position path) store).result = .ok (files.isReadable path) ∧
      (run (sourceChanged files position path) store).state.IsNewFrom (position + 1) := by
  have hrest : store.IsNewFrom (position + 1) := fun i hi => hnew i (by omega)
  obtain ⟨hnull, -⟩ | ⟨fault, hread, hrun⟩ | ⟨bytes, hread, ⟨hsame, -⟩ | ⟨-, hrun⟩⟩ :=
    sourceChanged_cases files position path store
  · exact absurd ((FileTree.read_eq_nullCharacter_iff files path).mp hnull) hpath
  · rw [hrun, FileTree.isReadable, hread]
    exact ⟨rfl, hrest⟩
  · cases (hnew position (Nat.le_refl _)).symm.trans hsame
  · rw [hrun, FileTree.isReadable, hread]
    refine ⟨rfl, fun i hi => ?_⟩
    rw [Entries.find?_put_of_ne (by omega)]
    exact hrest i hi

/-- Sources that are compared for the first time count as changed exactly if one can be read. -/
theorem result_sourcesChanged_of_new (files : FileTree) {position : Nat} {paths : List String}
    {store : DefinitionStore} (hnew : store.IsNewFrom position)
    (hpaths : ∀ path ∈ paths, '\x00' ∉ path.toList) :
    (run (sourcesChanged files position paths) store).result =
      .ok (paths.any files.isReadable) := by
  induction paths generalizing position store with
  | nil => rfl
  | cons path rest ih =>
    rw [List.forall_mem_cons] at hpaths
    obtain ⟨hfirst, hafter⟩ := result_sourceChanged_of_new files hnew hpaths.1
    have hrest := ih hafter hpaths.2
    rw [sourcesChanged, run_bind_ok hfirst, run_bind_ok hrest]
    rfl

/-- A path that can belong to no file ends the comparison. -/
theorem not_isOk_sourcesChanged (files : FileTree) (position : Nat) {paths : List String}
    (store : DefinitionStore) (h : ∃ path ∈ paths, '\x00' ∈ path.toList) :
    (run (sourcesChanged files position paths) store).result.isOk = false := by
  obtain ⟨path, hmem, hnull⟩ := h
  have hread := (FileTree.read_eq_nullCharacter_iff files path).mpr hnull
  induction paths generalizing position store with
  | nil => cases hmem
  | cons first rest ih =>
    cases hresult : (run (sourcesChanged files position (first :: rest)) store).result with
    | error failure => rfl
    | ok found =>
      rw [sourcesChanged] at hresult
      obtain ⟨changed, hfirst, hresult⟩ := result_bind_eq_ok.mp hresult
      obtain ⟨others, hothers, -⟩ := result_bind_eq_ok.mp hresult
      rcases List.mem_cons.mp hmem with rfl | hrest
      · rw [sourceChanged, hread] at hfirst
        cases hfirst
      · have hfails := ih (position + 1) (run (sourceChanged files position first) store).state hrest
        rw [hothers] at hfails
        cases hfails

/-! ### Refreshing for the first time -/

/-- Every source of a complete set can be loaded. -/
theorem IsComplete.defines {defaults : Option String} {sources : List String}
    {definitions : List Definition} (h : IsComplete files defaults sources definitions) :
    ∀ path ∈ sources, ∃ definitions, Defines files path definitions := by
  obtain ⟨base, sets, -, hsets, -⟩ := h
  induction hsets with
  | nil => nofun
  | cons hfirst _ ih => exact List.forall_mem_cons.mpr ⟨⟨_, hfirst⟩, ih⟩

/-- A set of definitions is complete only if some source can be read, or if there is none. -/
theorem IsComplete.readable {defaults : Option String} {sources : List String}
    {definitions : List Definition} (h : IsComplete files defaults sources definitions) :
    sources = [] ∨ ∃ path ∈ sources, files.isReadable path = true := by
  cases sources with
  | nil => exact .inl rfl
  | cons path rest =>
    obtain ⟨definitions, hpath⟩ := h.defines path List.mem_cons_self
    exact .inr ⟨path, List.mem_cons_self, hpath.isReadable⟩

/-- The sources of a new store are those it is given. -/
theorem sources_of_create {paths : List String} {defaults : Option String}
    {store : DefinitionStore} (h : create files paths defaults = .ok store) :
    store.sources = sourcePaths paths := by
  unfold create at h
  extract_lets path at h
  cases hdefaults : loadDefaults files path with
  | error failure =>
    rw [hdefaults] at h
    cases h
  | ok definitions =>
    rw [hdefaults] at h
    obtain rfl := Except.ok.inj h
    rfl

/-- The file with the defaults can be loaded when a store has been made from it. -/
private theorem not_isUnloadable_defaults {paths : List String} {defaults : Option String}
    {store : DefinitionStore} (h : create files paths defaults = .ok store) :
    store.defaults.toList.find? (isUnloadable files) = none := by
  obtain ⟨-, hbase⟩ := create_eq_ok h
  cases hdefaults : store.defaults with
  | none => rfl
  | some path =>
    rw [hdefaults] at hbase
    exact List.find?_cons_of_neg (by simp [isUnloadable_of_ok hbase])

/-- A refresh that finds a changed source succeeds if every file can be loaded. -/
private theorem refresh_of_loadable {store : DefinitionStore}
    (hchanged : (run (changed files) store).result = .ok true)
    (h : store.unloadable? files = none) : (run (refresh files) store).result = .ok true := by
  have hagrees := agreesBelow_sourcesChanged files 0 store.sources store
  rw [← run_changed] at hagrees
  have hsame : (run (changed files) store).state.unloadable? files = none := by
    rw [unloadable?, hagrees.sources, hagrees.defaults]
    exact h
  rw [refresh, run_bind_ok hchanged, if_pos rfl]
  obtain ⟨-, definitions, -, hok, -⟩ | ⟨path, failure, hpath, -⟩ :=
    load_cases files (run (changed files) store).state
  · rw [run_bind_ok hok]
    rfl
  · cases hsame.symm.trans hpath

/-- The comparison of a new store, unless a path can belong to no file. -/
private theorem result_changed_of_new (files : FileTree) {store : DefinitionStore}
    (hnew : store.fingerprints = []) (hpaths : ∀ path ∈ store.sources, '\x00' ∉ path.toList) :
    (run (changed files) store).result = .ok (store.sources.any files.isReadable) := by
  rw [run_changed]
  exact result_sourcesChanged_of_new files (fun i _ => by rw [hnew]; rfl) hpaths

/-- A refresh fails if the path of a source can belong to no file. -/
private theorem not_isOk_refresh (files : FileTree) {store : DefinitionStore}
    (h : ∃ path ∈ store.sources, '\x00' ∈ path.toList) :
    (run (refresh files) store).result.isOk = false := by
  have hfails := not_isOk_sourcesChanged files 0 store h
  rw [← run_changed] at hfails
  cases hchanged : (run (changed files) store).result with
  | error failure =>
    rw [refresh, run_bind_error hchanged]
    rfl
  | ok found =>
    rw [hchanged] at hfails
    cases hfails

/-- **The first refresh.** It fails because of a source that cannot be loaded; or no source can be
read, and it changes nothing; or some source can be read, and it makes the complete set active. -/
theorem firstRefresh_cases {paths : List String} {defaults : Option String}
    {store : DefinitionStore} (hcreate : create files paths defaults = .ok store) :
    let ran := run (refresh files) store
    (ran.result.isOk = false ∧ (∃ path ∈ sourcePaths paths, isUnloadable files path = true) ∧
      ∃ path ∈ sourcePaths paths, files.isReadable path = true ∨ '\x00' ∈ path.toList) ∨
    (ran.result = .ok false ∧ ran.state = store ∧
      ∀ path ∈ sourcePaths paths, files.isReadable path = false ∧ '\x00' ∉ path.toList) ∨
    (ran.result = .ok true ∧
      IsComplete files store.defaults (sourcePaths paths) ran.state.definitions ∧
      ∃ path ∈ sourcePaths paths, files.isReadable path = true) := by
  obtain ⟨hempty, -⟩ := create_eq_ok hcreate
  rw [← sources_of_create hcreate]
  by_cases hnull : ∃ path ∈ store.sources, '\x00' ∈ path.toList
  · have hfails := not_isOk_refresh files hnull
    obtain ⟨path, hmem, hpath⟩ := hnull
    have hunloadable : isUnloadable files path = true := by
      rw [isUnloadable, loadFile, (FileTree.read_eq_nullCharacter_iff files path).mpr hpath]
      rfl
    exact .inl ⟨hfails, ⟨path, hmem, hunloadable⟩, path, hmem, .inr hpath⟩
  · simp only [not_exists, not_and] at hnull
    have hchanged := result_changed_of_new files hempty hnull
    cases hany : store.sources.any files.isReadable with
    | false =>
      rw [hany] at hchanged
      have hunread : ∀ path ∈ store.sources, files.isReadable path = false := by
        simpa using hany
      refine .inr (.inl ⟨?_, ?_, fun path hmem => ⟨hunread path hmem, hnull path hmem⟩⟩)
      · rw [refresh, run_bind_ok hchanged]
        rfl
      · rw [refresh, run_bind_ok hchanged]
        rw [run_changed] at hchanged ⊢
        exact state_sourcesChanged_of_false hchanged
    | true =>
      rw [hany] at hchanged
      obtain ⟨path, hmem, hreadable⟩ := List.any_eq_true.mp hany
      cases hunloadable : store.unloadable? files with
      | some other =>
        obtain ⟨failure, -, hresult⟩ := refresh_of_unloadable hchanged hunloadable
        rw [unloadable?, List.find?_append, not_isUnloadable_defaults hcreate, Option.none_or]
          at hunloadable
        exact .inl ⟨by rw [hresult]; rfl, ⟨other, List.mem_of_find?_eq_some hunloadable,
          List.find?_some hunloadable⟩, path, hmem, .inl hreadable⟩
      | none =>
        have hresult := refresh_of_loadable hchanged hunloadable
        obtain ⟨-, ⟨failure, herror, -⟩ | ⟨hfalse, -⟩ | ⟨-, -, hcomplete⟩⟩ :=
          refresh_cases files store
        · cases hresult.symm.trans herror
        · cases hresult.symm.trans hfalse
        · exact .inr (.inr ⟨hresult, hcomplete, path, hmem, hreadable⟩)

/-- The first refresh succeeds exactly if every source can be loaded, or none can be read though
each path could belong to a file. -/
theorem firstRefresh_isOk_iff {paths : List String} {defaults : Option String}
    {store : DefinitionStore} (hcreate : create files paths defaults = .ok store) :
    (run (refresh files) store).result.isOk = true ↔
      (∀ path ∈ sourcePaths paths, ∃ definitions, Defines files path definitions) ∨
        ∀ path ∈ sourcePaths paths, files.isReadable path = false ∧ '\x00' ∉ path.toList := by
  obtain ⟨hfails, ⟨other, hother, hunloadable⟩, path, hmem, hpath⟩ |
    ⟨hresult, -, hunread⟩ | ⟨hresult, hcomplete, -⟩ := firstRefresh_cases hcreate
  · rw [hfails]
    refine iff_of_false nofun ?_
    rintro (hall | hall)
    · obtain ⟨definitions, hdefines⟩ := hall other hother
      rw [isUnloadable_of_ok (loadFile_eq_ok_iff.mpr hdefines)] at hunloadable
      cases hunloadable
    · obtain ⟨hunread, hsound⟩ := hall path hmem
      obtain hreadable | hnull := hpath
      · rw [hunread] at hreadable
        cases hreadable
      · exact hsound hnull
  · rw [hresult]
    exact iff_of_true rfl (.inr hunread)
  · rw [hresult]
    exact iff_of_true rfl (.inl hcomplete.defines)

/-- After a first refresh that succeeds, the active definitions are complete exactly if there is no
source or one that can be read; otherwise they are the defaults alone. -/
theorem firstRefresh_isComplete_iff {paths : List String} {defaults : Option String}
    {store : DefinitionStore} (hcreate : create files paths defaults = .ok store)
    (hok : (run (refresh files) store).result.isOk = true) :
    (IsComplete files store.defaults (sourcePaths paths)
        (run (refresh files) store).state.definitions ↔
      sourcePaths paths = [] ∨ ∃ path ∈ sourcePaths paths, files.isReadable path = true) := by
  refine ⟨IsComplete.readable, fun hreadable => ?_⟩
  obtain ⟨-, hbase⟩ := create_eq_ok hcreate
  obtain ⟨hfails, -⟩ | ⟨-, hstate, hunread⟩ | ⟨-, hcomplete, -⟩ := firstRefresh_cases hcreate
  · rw [hfails] at hok
    cases hok
  · obtain hnone | ⟨path, hmem, hread⟩ := hreadable
    · rw [hstate, hnone]
      exact ⟨store.definitions, [], hbase, .nil, by simp⟩
    · rw [(hunread path hmem).1] at hread
      cases hread
  · exact hcomplete

end DefinitionStore

end QueryMetrics
