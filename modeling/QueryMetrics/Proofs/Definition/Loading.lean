import Mathlib.Data.List.Forall2
import QueryMetrics.Definition.Store

/-!
# What a load does

A file either defines a set of definitions (`Defines`) or cannot be loaded. A load goes through the
defaults and the sources in their order, and it ends in one of two ways
(`DefinitionStore.load_cases`):

* Every file can be loaded. Then the active definitions are the complete set
  (`DefinitionStore.IsComplete`): the defaults, and after them every definition of every source.
* Some file cannot. Then the load fails as the first such file does
  (`DefinitionStore.unloadable?`), and the store stays as it was.
-/

namespace QueryMetrics

open QueryMetrics.Action

variable {files : FileTree} {path : String}

/-! ### Files -/

/-- The file can be read, and its bytes give these definitions. -/
def Defines (files : FileTree) (path : String) (definitions : List Definition) : Prop :=
  ∃ bytes, files.read path = .ok bytes ∧ Definition.ofBytes bytes = .ok definitions

/-- What is loaded from a file is what the file defines. -/
theorem loadFile_eq_ok_iff {definitions : List Definition} :
    loadFile files path = .ok definitions ↔ Defines files path definitions := by
  unfold loadFile Defines
  cases hread : files.read path with
  | error fault => cases fault <;> simp
  | ok bytes => cases hbytes : Definition.ofBytes bytes <;> simp [hbytes, Except.mapError]

/-- The file cannot be loaded. -/
def isUnloadable (files : FileTree) (path : String) : Bool := !(loadFile files path).isOk

theorem isUnloadable_of_ok {definitions : List Definition}
    (h : loadFile files path = .ok definitions) : isUnloadable files path = false := by
  rw [isUnloadable, h]
  rfl

theorem isUnloadable_of_error {failure : Failure} (h : loadFile files path = .error failure) :
    isUnloadable files path = true := by
  rw [isUnloadable, h]
  rfl

namespace DefinitionStore

/-! ### Sources -/

/-- The result of loading a source is that of loading its file, and nothing changes. -/
theorem run_loadSource (files : FileTree) (path : String) (store : DefinitionStore) :
    (run (loadSource files path) store).result = loadFile files path ∧
      (run (loadSource files path) store).state = store := by
  unfold loadSource
  cases loadFile files path with
  | ok definitions => exact ⟨rfl, rfl⟩
  | error failure =>
    dsimp only
    split <;> exact ⟨rfl, rfl⟩

/-- Loading sources gives the definitions of all of them, or fails as the first source does that
cannot be loaded. -/
theorem loadSources_cases (files : FileTree) (paths : List String) (store : DefinitionStore) :
    (run (loadSources files paths) store).state = store ∧
    ((paths.find? (isUnloadable files) = none ∧
        ∃ sets, List.Forall₂ (Defines files) paths sets ∧
          (run (loadSources files paths) store).result = .ok sets.flatten) ∨
      ∃ path failure, paths.find? (isUnloadable files) = some path ∧
        loadFile files path = .error failure ∧
        (run (loadSources files paths) store).result = .error failure) := by
  induction paths with
  | nil => exact ⟨rfl, .inl ⟨rfl, [], .nil, rfl⟩⟩
  | cons path rest ih =>
    obtain ⟨hresult, hstate⟩ := run_loadSource files path store
    rw [loadSources]
    cases hfile : loadFile files path with
    | error failure =>
      rw [hfile] at hresult
      rw [run_bind_error hresult]
      refine ⟨hstate, .inr ⟨path, failure, ?_, hfile, rfl⟩⟩
      exact List.find?_cons_of_pos (isUnloadable_of_error hfile)
    | ok definitions =>
      rw [hfile] at hresult
      have hfind : (path :: rest).find? (isUnloadable files) = rest.find? (isUnloadable files) :=
        List.find?_cons_of_neg (by simp [isUnloadable_of_ok hfile])
      rw [run_bind_ok hresult, hstate, hfind]
      obtain ⟨hrest, ⟨hnone, sets, hsets, hok⟩ | ⟨other, failure, hother, hfailure, herror⟩⟩ := ih
      · rw [run_bind_ok hok, hrest]
        exact ⟨rfl, .inl ⟨hnone, definitions :: sets,
          .cons (loadFile_eq_ok_iff.mp hfile) hsets, rfl⟩⟩
      · rw [run_bind_error herror, hrest]
        exact ⟨rfl, .inr ⟨other, failure, hother, hfailure, rfl⟩⟩

/-! ### Loads -/

/-- The complete set of definitions as the files stand: the defaults, and after them all
definitions of every source, in the order of the sources. -/
def IsComplete (files : FileTree) (defaults : Option String) (sources : List String)
    (definitions : List Definition) : Prop :=
  ∃ base sets, loadDefaults files defaults = .ok base ∧
    List.Forall₂ (Defines files) sources sets ∧ definitions = base ++ sets.flatten

/-- The first file that cannot be loaded, among the one with the defaults and the sources. -/
def unloadable? (files : FileTree) (store : DefinitionStore) : Option String :=
  (store.defaults.toList ++ store.sources).find? (isUnloadable files)

/-- **What a load does.** It replaces the active definitions by the complete set, or it fails as
the first file does that cannot be loaded, and changes nothing. -/
theorem load_cases (files : FileTree) (store : DefinitionStore) :
    (store.unloadable? files = none ∧
      ∃ definitions, IsComplete files store.defaults store.sources definitions ∧
        (run (load files) store).result = .ok definitions ∧
        (run (load files) store).state = { store with definitions }) ∨
    ∃ path failure, store.unloadable? files = some path ∧ loadFile files path = .error failure ∧
      (run (load files) store).result = .error failure ∧
      (run (load files) store).state = store := by
  rw [load, unloadable?, List.find?_append]
  simp only [run_bind, run_get, run_ofExcept, List.nil_append]
  cases hbase : loadDefaults files store.defaults with
  | error failure =>
    cases hdefaults : store.defaults with
    | none =>
      rw [hdefaults] at hbase
      cases hbase
    | some path =>
      rw [hdefaults] at hbase
      refine .inr ⟨path, failure, ?_, hbase, rfl, rfl⟩
      simp [isUnloadable_of_error hbase]
  | ok base =>
    have hfirst : store.defaults.toList.find? (isUnloadable files) = none := by
      cases hdefaults : store.defaults with
      | none => rfl
      | some path =>
        rw [hdefaults] at hbase
        simp [List.find?, isUnloadable_of_ok hbase]
    rw [hfirst, Option.none_or]
    obtain ⟨hstate, ⟨hnone, sets, hsets, hok⟩ | ⟨path, failure, hpath, hfailure, herror⟩⟩ :=
      loadSources_cases files store.sources store
    · refine .inl ⟨hnone, base ++ sets.flatten, ⟨base, sets, hbase, hsets, rfl⟩, ?_, ?_⟩
      · simp [hok]
      · simp [hok, hstate]
    · refine .inr ⟨path, failure, hpath, hfailure, ?_, ?_⟩
      · simp [herror]
      · simp [herror, hstate]

end DefinitionStore

end QueryMetrics
