import QueryMetrics.Proofs.Definition.Loading

/-!
# What a refresh does

A refresh compares every source with its fingerprint and then loads if some source differs.

* A comparison touches fingerprints only, and after it every source that can be read has the
  fingerprint of its bytes. One that finds nothing new changes nothing at all.
* `DefinitionStore.refresh_cases` says what a refresh can come to: it fails and keeps the active
  definitions, it finds nothing new, or it makes the complete set active.
-/

namespace QueryMetrics.DefinitionStore

open QueryMetrics.Action

variable {files : FileTree} {position : Nat} {path : String} {paths : List String}

/-! ### One source -/

/-- **What the comparison of a source does.** -/
theorem sourceChanged_cases (files : FileTree) (position : Nat) (path : String)
    (store : DefinitionStore) :
    (files.read path = .error .nullCharacter ∧
      run (sourceChanged files position path) store =
        ⟨.error (.definitions path .badPath), store, []⟩) ∨
    (∃ fault, files.read path = .error fault ∧
      run (sourceChanged files position path) store =
        ⟨.ok false, store, [.unreadable path fault]⟩) ∨
    ∃ bytes, files.read path = .ok bytes ∧
      ((store.fingerprints.find? position = some (fingerprint bytes) ∧
          run (sourceChanged files position path) store = ⟨.ok false, store, []⟩) ∨
        (store.fingerprints.find? position ≠ some (fingerprint bytes) ∧
          run (sourceChanged files position path) store =
            ⟨.ok true, { store with
              fingerprints := store.fingerprints.put position (fingerprint bytes) },
              [.changed path]⟩)) := by
  unfold sourceChanged
  cases hread : files.read path with
  | error fault =>
    cases fault with
    | nullCharacter => exact .inl ⟨rfl, rfl⟩
    | missing => exact .inr (.inl ⟨_, rfl, rfl⟩)
    | isDirectory => exact .inr (.inl ⟨_, rfl, rfl⟩)
    | nameTooLong => exact .inr (.inl ⟨_, rfl, rfl⟩)
  | ok bytes =>
    refine .inr (.inr ⟨bytes, rfl, ?_⟩)
    by_cases hsame : store.fingerprints.find? position = some (fingerprint bytes)
    · exact .inl ⟨hsame, by simp [run_bind, hsame]⟩
    · exact .inr ⟨hsame, by simp [run_bind, run_map, hsame, Except.map]⟩

/-- The stores agree, fingerprints from a position on aside. -/
structure AgreesBelow (position : Nat) (before after : DefinitionStore) : Prop where
  sources : after.sources = before.sources
  defaults : after.defaults = before.defaults
  definitions : after.definitions = before.definitions
  fingerprints : ∀ i < position, after.fingerprints.find? i = before.fingerprints.find? i

theorem AgreesBelow.refl (position : Nat) (store : DefinitionStore) :
    AgreesBelow position store store :=
  ⟨rfl, rfl, rfl, fun _ _ => rfl⟩

theorem AgreesBelow.trans {first second third : DefinitionStore}
    (h : AgreesBelow position first second) (h' : AgreesBelow position second third) :
    AgreesBelow position first third where
  sources := h'.sources.trans h.sources
  defaults := h'.defaults.trans h.defaults
  definitions := h'.definitions.trans h.definitions
  fingerprints i hi := (h'.fingerprints i hi).trans (h.fingerprints i hi)

theorem AgreesBelow.mono {before after : DefinitionStore} {lower : Nat}
    (h : AgreesBelow position before after) (hle : lower ≤ position) :
    AgreesBelow lower before after :=
  ⟨h.sources, h.defaults, h.definitions, fun i hi => h.fingerprints i (by omega)⟩

/-- The comparison of a source touches its own fingerprint only. -/
theorem agreesBelow_sourceChanged (files : FileTree) (position : Nat) (path : String)
    (store : DefinitionStore) :
    AgreesBelow position store (run (sourceChanged files position path) store).state := by
  obtain ⟨-, h⟩ | ⟨_, -, h⟩ | ⟨bytes, -, ⟨-, h⟩ | ⟨-, h⟩⟩ :=
    sourceChanged_cases files position path store
  · exact h ▸ .refl ..
  · exact h ▸ .refl ..
  · exact h ▸ .refl ..
  · rw [h]
    exact ⟨rfl, rfl, rfl, fun i hi => Entries.find?_put_of_ne (by omega) ..⟩

/-- After its comparison, a source that can be read has the fingerprint of its bytes. -/
theorem find?_sourceChanged {bytes : List UInt8} (hread : files.read path = .ok bytes)
    (position : Nat) (store : DefinitionStore) :
    (run (sourceChanged files position path) store).state.fingerprints.find? position =
      some (fingerprint bytes) := by
  obtain ⟨hnull, -⟩ | ⟨_, hfault, -⟩ | ⟨_, hbytes, ⟨hsame, h⟩ | ⟨-, h⟩⟩ :=
    sourceChanged_cases files position path store
  · cases hread.symm.trans hnull
  · cases hread.symm.trans hfault
  · obtain rfl := Except.ok.inj (hread.symm.trans hbytes)
    rw [h]
    exact hsame
  · obtain rfl := Except.ok.inj (hread.symm.trans hbytes)
    rw [h]
    exact Entries.find?_put_self ..

/-- The comparison of a source that finds nothing new changes nothing. -/
theorem state_sourceChanged_of_false {store : DefinitionStore}
    (h : (run (sourceChanged files position path) store).result = .ok false) :
    (run (sourceChanged files position path) store).state = store := by
  obtain ⟨-, hrun⟩ | ⟨_, -, hrun⟩ | ⟨_, -, ⟨-, hrun⟩ | ⟨-, hrun⟩⟩ :=
    sourceChanged_cases files position path store
  · rw [hrun]
  · rw [hrun]
  · rw [hrun]
  · rw [hrun] at h
    cases h

/-! ### All sources -/

theorem agreesBelow_sourcesChanged (files : FileTree) (position : Nat) (paths : List String)
    (store : DefinitionStore) :
    AgreesBelow position store (run (sourcesChanged files position paths) store).state := by
  induction paths generalizing position store with
  | nil => exact .refl ..
  | cons path rest ih =>
    have hfirst := agreesBelow_sourceChanged files position path store
    rw [sourcesChanged]
    cases hresult : (run (sourceChanged files position path) store).result with
    | error failure => rwa [run_bind_error hresult]
    | ok first =>
      rw [run_bind_ok hresult, bind_pure_comp, run_map]
      exact hfirst.trans ((ih (position + 1) _).mono (by omega))

/-- A comparison of sources that ends has compared the first of them and then the others. -/
private theorem sourcesChanged_cons_of_ok {rest : List String} {store : DefinitionStore}
    {found : Bool}
    (h : (run (sourcesChanged files position (path :: rest)) store).result = .ok found) :
    ∃ first others, (run (sourceChanged files position path) store).result = .ok first ∧
      (run (sourcesChanged files (position + 1) rest)
        (run (sourceChanged files position path) store).state).result = .ok others ∧
      found = (first || others) ∧
      (run (sourcesChanged files position (path :: rest)) store).state =
        (run (sourcesChanged files (position + 1) rest)
          (run (sourceChanged files position path) store).state).state := by
  rw [sourcesChanged] at h ⊢
  obtain ⟨first, hfirst, h⟩ := result_bind_eq_ok.mp h
  obtain ⟨others, hothers, h⟩ := result_bind_eq_ok.mp h
  refine ⟨first, others, hfirst, hothers, (Except.ok.inj h).symm, ?_⟩
  rw [run_bind_ok hfirst, bind_pure_comp, run_map]

/-- After a comparison of sources, each source that can be read has the fingerprint of its bytes. -/
theorem find?_sourcesChanged {store : DefinitionStore} {found : Bool}
    (h : (run (sourcesChanged files position paths) store).result = .ok found) {i : Nat}
    (hpath : paths[i]? = some path) {bytes : List UInt8} (hread : files.read path = .ok bytes) :
    (run (sourcesChanged files position paths) store).state.fingerprints.find? (position + i) =
      some (fingerprint bytes) := by
  induction paths generalizing position store i found with
  | nil => cases hpath
  | cons other rest ih =>
    obtain ⟨first, others, -, hothers, -, hstate⟩ := sourcesChanged_cons_of_ok h
    rw [hstate]
    cases i with
    | zero =>
      -- the sources behind it have later positions, and so leave its fingerprint alone
      obtain rfl := Option.some.inj hpath
      rw [(agreesBelow_sourcesChanged files (position + 1) rest _).fingerprints _ (by omega)]
      exact find?_sourceChanged hread position store
    | succ i =>
      have hrest := ih hothers hpath
      rwa [show position + 1 + i = position + (i + 1) by omega] at hrest

/-- A comparison of sources that finds nothing new changes nothing. -/
theorem state_sourcesChanged_of_false {store : DefinitionStore}
    (h : (run (sourcesChanged files position paths) store).result = .ok false) :
    (run (sourcesChanged files position paths) store).state = store := by
  induction paths generalizing position store with
  | nil => rfl
  | cons other rest ih =>
    obtain ⟨first, others, hfirst, hothers, hfound, hstate⟩ := sourcesChanged_cons_of_ok h
    obtain ⟨rfl, rfl⟩ : first = false ∧ others = false := by simpa using hfound.symm
    rw [hstate, ih hothers, state_sourceChanged_of_false hfirst]

/-! ### Refreshes -/

theorem run_changed (files : FileTree) (store : DefinitionStore) :
    run (changed files) store = run (sourcesChanged files 0 store.sources) store := by
  rw [changed]
  rfl

/-- Every source that can be read has the fingerprint of its bytes. -/
def Sees (store : DefinitionStore) (files : FileTree) : Prop :=
  ∀ (i : Nat) (path : String) (bytes : List UInt8), store.sources[i]? = some path →
    files.read path = .ok bytes → store.fingerprints.find? i = some (fingerprint bytes)

/-- **What a refresh does.** It fails and keeps the active definitions, or it finds nothing new and
changes nothing, or it makes the complete set active. Unless it fails, every source that can be read
then has the fingerprint of its bytes. -/
theorem refresh_cases (files : FileTree) (store : DefinitionStore) :
    let ran := run (refresh files) store
    (ran.state.sources = store.sources ∧ ran.state.defaults = store.defaults) ∧
    ((∃ failure, ran.result = .error failure ∧ ran.state.definitions = store.definitions) ∨
      (ran.result = .ok false ∧ ran.state = store ∧ store.Sees files) ∨
      (ran.result = .ok true ∧ ran.state.Sees files ∧
        IsComplete files store.defaults store.sources ran.state.definitions)) := by
  have hagrees : AgreesBelow 0 store (run (changed files) store).state := by
    rw [run_changed]
    exact agreesBelow_sourcesChanged ..
  have hsees : ∀ {found}, (run (changed files) store).result = .ok found →
      (run (changed files) store).state.Sees files := by
    intro found hfound i path bytes hpath hread
    rw [hagrees.sources] at hpath
    rw [run_changed] at hfound ⊢
    simpa using find?_sourcesChanged hfound hpath hread
  rw [refresh]
  cases hchanged : (run (changed files) store).result with
  | error failure =>
    rw [run_bind_error hchanged]
    exact ⟨⟨hagrees.sources, hagrees.defaults⟩, .inl ⟨failure, rfl, hagrees.definitions⟩⟩
  | ok found =>
    have hafter := hsees hchanged
    rw [run_bind_ok hchanged]
    cases found with
    | false =>
      have hsame : (run (changed files) store).state = store := by
        rw [run_changed] at hchanged ⊢
        exact state_sourcesChanged_of_false hchanged
      rw [hsame] at hafter ⊢
      exact ⟨⟨rfl, rfl⟩, .inr (.inl ⟨rfl, rfl, hafter⟩)⟩
    | true =>
      obtain ⟨-, definitions, hcomplete, hok, hstate⟩ | ⟨path, failure, -, -, herror, hstate⟩ :=
        load_cases files (run (changed files) store).state
      · rw [hagrees.sources, hagrees.defaults] at hcomplete
        rw [if_pos rfl, run_bind_ok hok, hstate]
        exact ⟨⟨hagrees.sources, hagrees.defaults⟩, .inr (.inr ⟨rfl, hafter, hcomplete⟩)⟩
      · rw [if_pos rfl, run_bind_error herror, hstate]
        exact ⟨⟨hagrees.sources, hagrees.defaults⟩, .inl ⟨failure, rfl, hagrees.definitions⟩⟩

/-- A refresh that fails or finds nothing new keeps the active definitions. -/
theorem definitions_refresh_of_not_loaded {store : DefinitionStore}
    (h : (run (refresh files) store).result ≠ .ok true) :
    (run (refresh files) store).state.definitions = store.definitions := by
  obtain ⟨-, ⟨failure, -, hkept⟩ | ⟨-, hkept, -⟩ | ⟨hresult, -⟩⟩ := refresh_cases files store
  · exact hkept
  · rw [hkept]
  · exact absurd hresult h

end QueryMetrics.DefinitionStore
