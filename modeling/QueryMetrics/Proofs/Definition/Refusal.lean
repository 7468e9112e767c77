import QueryMetrics.Proofs.Definition.Refresh

/-!
# Refused files and accidents

A file whose definitions cannot be loaded is meant to be **refused**: this is a failure of its own
kind, which ends the exporter, since it would go on without some of its definitions otherwise.

Not every file that cannot be loaded is refused. On some the reader stumbles before it can say what
is wrong with the definitions (`stumbles`): a path with a null character, bytes that are not UTF-8,
a whole number with too many digits, and brackets that are nested too deeply. Such an accident is a
failure of another kind. A file is loaded or refused exactly if the reader does not stumble
(`loadFile_cases`), and the first file that cannot be loaded decides how a refresh fails
(`DefinitionStore.refresh_of_unloadable`).
-/

namespace QueryMetrics

open QueryMetrics.Action

/-- The reader of documents gives up on a text before it has judged the grammar: a whole number has
too many digits, or brackets are nested too deeply. -/
def exceedsReader (text : String) : Bool :=
  match parseToml text with
  | .error (.tooManyDigits _) => true
  | .error (.tooDeep _) => true
  | _ => false

/-- Reading the definitions of a file ends with an accident. -/
def stumbles (files : FileTree) (path : String) : Bool :=
  match files.read path with
  | .error .nullCharacter => true
  | .error _ => false
  | .ok bytes =>
    match Text.ofFile? bytes with
    | none => true
    | some text => exceedsReader text

variable {files : FileTree} {path : String}

/-- A text is refused unless the reader gives up on it. -/
theorem isRefusal_of_parseAll {text : String} {error : Definition.FileError}
    (h : Definition.parseAll text = .error error) : error.isRefusal = !exceedsReader text := by
  unfold Definition.parseAll at h
  unfold exceedsReader
  cases hdocument : parseToml text with
  | error fault =>
    rw [hdocument] at h
    obtain rfl := Except.error.inj h
    cases fault <;> rfl
  | ok document =>
    rw [hdocument] at h
    dsimp only at h
    cases hlist : (Definition.listOfValue document).toExcept with
    | ok definitions =>
      rw [hlist] at h
      cases h
    | error complaints =>
      rw [hlist] at h
      obtain rfl := Except.error.inj h
      rfl

/-- The reader does not give up on a text with definitions. -/
theorem exceedsReader_of_parseAll {text : String} {definitions : List Definition}
    (h : Definition.parseAll text = .ok definitions) : exceedsReader text = false := by
  unfold Definition.parseAll at h
  unfold exceedsReader
  cases hdocument : parseToml text with
  | error fault =>
    rw [hdocument] at h
    cases h
  | ok document => rfl

/-- **Loading a file.** It gives definitions and the reader did not stumble, or it fails, and then
the file is refused exactly if the reader did not stumble. -/
theorem loadFile_cases (files : FileTree) (path : String) :
    (∃ definitions, loadFile files path = .ok definitions ∧ stumbles files path = false) ∨
      ∃ failure, loadFile files path = .error failure ∧
        failure.isReload = !stumbles files path := by
  unfold loadFile stumbles
  cases hread : files.read path with
  | error fault => cases fault <;> exact .inr ⟨_, rfl, rfl⟩
  | ok bytes =>
    dsimp only [Definition.ofBytes]
    cases htext : Text.ofFile? bytes with
    | none => exact .inr ⟨_, rfl, rfl⟩
    | some text =>
      dsimp only
      cases hparse : Definition.parseAll text with
      | ok definitions => exact .inl ⟨definitions, rfl, exceedsReader_of_parseAll hparse⟩
      | error error => exact .inr ⟨_, rfl, isRefusal_of_parseAll hparse⟩

/-- A file is loaded or refused exactly if the reader does not stumble. -/
theorem loads_or_refuses_iff (files : FileTree) (path : String) :
    ((∃ definitions, loadFile files path = .ok definitions) ∨
      ∃ failure, loadFile files path = .error failure ∧ failure.isReload = true) ↔
      stumbles files path = false := by
  obtain ⟨definitions, hok, hsound⟩ | ⟨failure, herror, hreload⟩ := loadFile_cases files path
  · simp [hok, hsound]
  · simp [herror, hreload]

namespace DefinitionStore

variable {store : DefinitionStore}

/-- A refresh that finds a changed source fails as the first file does that cannot be loaded. -/
theorem refresh_of_unloadable (hchanged : (run (changed files) store).result = .ok true)
    (hpath : store.unloadable? files = some path) :
    ∃ failure, loadFile files path = .error failure ∧
      (run (refresh files) store).result = .error failure := by
  have hagrees := agreesBelow_sourcesChanged files 0 store.sources store
  rw [← run_changed] at hagrees
  have hsame : (run (changed files) store).state.unloadable? files = some path := by
    rw [unloadable?, hagrees.sources, hagrees.defaults]
    exact hpath
  rw [refresh, run_bind_ok hchanged, if_pos rfl]
  obtain ⟨hnone, -⟩ | ⟨other, failure, hother, hfailure, herror, -⟩ :=
    load_cases files (run (changed files) store).state
  · cases hsame.symm.trans hnone
  · obtain rfl := Option.some.inj (hsame.symm.trans hother)
    exact ⟨failure, hfailure, by rw [run_bind_error herror]⟩

end DefinitionStore

end QueryMetrics
