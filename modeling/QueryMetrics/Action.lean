import QueryMetrics.Failure

/-!
# Actions

What the parts of the exporter do: an action changes a state, reports events, and ends with a
result or a failure. State and events of a failing action are kept, so that what was done before
the failure stays done.

An action on a part of a larger state, with a smaller kind of events, is lifted by `Action.on`.
-/

namespace QueryMetrics

/-- The end of an action. -/
structure Ran (σ ε α : Type) where
  result : Except Failure α
  state : σ
  events : List ε

/-- An action on states `σ` that reports events `ε`. -/
def Action (σ ε α : Type) := σ → Ran σ ε α

namespace Action

variable {σ τ ε η α β γ : Type}

/-- Carries an action out. -/
def run (action : Action σ ε α) (state : σ) : Ran σ ε α := action state

/-- Does nothing. -/
protected def pure (a : α) : Action σ ε α := fun state => ⟨.ok a, state, []⟩

/-- Goes on with the result, unless the action failed. -/
protected def bind (action : Action σ ε α) (next : α → Action σ ε β) : Action σ ε β :=
  fun state =>
    let first := action state
    match first.result with
    | .error failure => ⟨.error failure, first.state, first.events⟩
    | .ok a =>
      let second := next a first.state
      ⟨second.result, second.state, first.events ++ second.events⟩

instance : Monad (Action σ ε) where
  pure := Action.pure
  bind := Action.bind

/-- The state. -/
def get : Action σ ε σ := fun state => ⟨.ok state, state, []⟩

/-- A part of the state. -/
def gets (part : σ → α) : Action σ ε α := fun state => ⟨.ok (part state), state, []⟩

/-- Changes the state. -/
def modify (change : σ → σ) : Action σ ε Unit := fun state => ⟨.ok (), change state, []⟩

/-- Reports events. -/
def report (events : List ε) : Action σ ε Unit := fun state => ⟨.ok (), state, events⟩

/-- Fails. -/
def fail (failure : Failure) : Action σ ε α := fun state => ⟨.error failure, state, []⟩

/-- A result that may be a failure. -/
def ofExcept (result : Except Failure α) : Action σ ε α := fun state => ⟨result, state, []⟩

/-- The end of the action as a result of its own, which never fails. -/
def attempt (action : Action σ ε α) : Action σ ε (Except Failure α) := fun state =>
  let ran := action state
  ⟨.ok ran.result, ran.state, ran.events⟩

/-- Carries out a second action when the first one ends, whichever way it ended. A failure of the
second action wins. -/
def andFinally (action : Action σ ε α) (last : Action σ ε Unit) : Action σ ε α := fun state =>
  let first := action state
  let second := last first.state
  ⟨match second.result with
    | .error failure => .error failure
    | .ok () => first.result,
   second.state, first.events ++ second.events⟩

/-- Sees the failures of an action as other failures. -/
def mapFailure (change : Failure → Failure) (action : Action σ ε α) : Action σ ε α := fun state =>
  let ran := action state
  ⟨ran.result.mapError change, ran.state, ran.events⟩

/-- Goes on with a handler after failures that pass the test; others stand. -/
def catching (caught : Failure → Bool) (handler : Failure → Action σ ε α)
    (action : Action σ ε α) : Action σ ε α := fun state =>
  let ran := action state
  match ran.result with
  | .ok a => ⟨.ok a, ran.state, ran.events⟩
  | .error failure =>
    if caught failure then
      let last := handler failure ran.state
      ⟨last.result, last.state, ran.events ++ last.events⟩
    else ⟨.error failure, ran.state, ran.events⟩

/-- An action on a part of the state, its events seen as events of the whole. -/
def on (part : σ → τ) (replace : σ → τ → σ) (lift : ε → η) (action : Action τ ε α) :
    Action σ η α := fun state =>
  let ran := action (part state)
  ⟨ran.result, replace state ran.state, ran.events.map lift⟩

/-- An action on a part of the state that reports nothing, among actions that report. -/
def silently (part : σ → τ) (replace : σ → τ → σ) (action : Action τ Empty α) : Action σ ε α :=
  action.on part replace Empty.elim

/-! ### Running composed actions -/

@[simp] theorem run_pure (a : α) (state : σ) :
    run (pure a : Action σ ε α) state = ⟨.ok a, state, []⟩ := rfl

@[simp] theorem run_get (state : σ) : run (get : Action σ ε σ) state = ⟨.ok state, state, []⟩ := rfl

@[simp] theorem run_gets (part : σ → α) (state : σ) :
    run (gets part : Action σ ε α) state = ⟨.ok (part state), state, []⟩ := rfl

@[simp] theorem run_modify (change : σ → σ) (state : σ) :
    run (modify change : Action σ ε Unit) state = ⟨.ok (), change state, []⟩ := rfl

@[simp] theorem run_report (events : List ε) (state : σ) :
    run (report events : Action σ ε Unit) state = ⟨.ok (), state, events⟩ := rfl

@[simp] theorem run_fail (failure : Failure) (state : σ) :
    run (fail failure : Action σ ε α) state = ⟨.error failure, state, []⟩ := rfl

@[simp] theorem run_ofExcept (result : Except Failure α) (state : σ) :
    run (ofExcept result : Action σ ε α) state = ⟨result, state, []⟩ := rfl

@[simp] theorem run_attempt (action : Action σ ε α) (state : σ) :
    run action.attempt state =
      ⟨.ok (run action state).result, (run action state).state, (run action state).events⟩ := rfl

@[simp] theorem run_mapFailure (change : Failure → Failure) (action : Action σ ε α) (state : σ) :
    run (action.mapFailure change) state =
      ⟨(run action state).result.mapError change, (run action state).state,
       (run action state).events⟩ := rfl

@[simp] theorem run_andFinally (action : Action σ ε α) (last : Action σ ε Unit) (state : σ) :
    run (action.andFinally last) state =
      ⟨match (run last (run action state).state).result with
        | .error failure => .error failure
        | .ok () => (run action state).result,
       (run last (run action state).state).state,
       (run action state).events ++ (run last (run action state).state).events⟩ := rfl

@[simp] theorem run_on (part : σ → τ) (replace : σ → τ → σ) (lift : ε → η)
    (action : Action τ ε α) (state : σ) :
    run (action.on part replace lift) state =
      ⟨(run action (part state)).result, replace state (run action (part state)).state,
       (run action (part state)).events.map lift⟩ := rfl

@[simp] theorem mapError_ok (change : ε → η) (a : α) :
    (Except.ok a : Except ε α).mapError change = .ok a := rfl

@[simp] theorem mapError_error (change : ε → η) (e : ε) :
    (Except.error e : Except ε α).mapError change = .error (change e) := rfl

/-- A result that is no failure is there. -/
theorem exists_of_isOk {result : Except ε α} (h : result.isOk = true) : ∃ a, result = .ok a := by
  cases result with
  | error e => cases h
  | ok a => exact ⟨a, rfl⟩

/-- A composed action goes on with the next one unless the first one failed. -/
theorem run_bind (action : Action σ ε α) (next : α → Action σ ε β) (state : σ) :
    run (action >>= next) state =
      match (run action state).result with
      | .error failure => ⟨.error failure, (run action state).state, (run action state).events⟩
      | .ok a =>
        ⟨(run (next a) (run action state).state).result,
         (run (next a) (run action state).state).state,
         (run action state).events ++ (run (next a) (run action state).state).events⟩ := rfl

/-- After a success the next action goes on from the state that was reached. -/
theorem run_bind_ok {action : Action σ ε α} {state : σ} {a : α}
    (h : (run action state).result = .ok a) (next : α → Action σ ε β) :
    run (action >>= next) state =
      ⟨(run (next a) (run action state).state).result,
       (run (next a) (run action state).state).state,
       (run action state).events ++ (run (next a) (run action state).state).events⟩ := by
  change Action.bind action next state = _
  unfold Action.bind
  unfold run at h ⊢
  generalize action state = ran at h ⊢
  obtain ⟨result, after, events⟩ := ran
  cases h
  rfl

/-- After a failure nothing more is done. -/
theorem run_bind_error {action : Action σ ε α} {state : σ} {failure : Failure}
    (h : (run action state).result = .error failure) (next : α → Action σ ε β) :
    run (action >>= next) state =
      ⟨.error failure, (run action state).state, (run action state).events⟩ := by
  change Action.bind action next state = _
  unfold Action.bind
  unfold run at h ⊢
  generalize action state = ran at h ⊢
  obtain ⟨result, after, events⟩ := ran
  cases h
  rfl

/-- A function of the result changes nothing else. -/
theorem run_map (f : α → β) (action : Action σ ε α) (state : σ) :
    run (f <$> action) state =
      ⟨(run action state).result.map f, (run action state).state,
       (run action state).events⟩ := by
  change run (action >>= fun a => pure (f a)) state = _
  cases h : (run action state).result with
  | error failure =>
    rw [run_bind_error h]
    rfl
  | ok a =>
    rw [run_bind_ok h, run_pure, List.append_nil]
    rfl

/-- A composed action succeeds exactly when both parts do. -/
theorem result_bind_eq_ok {action : Action σ ε α} {next : α → Action σ ε β} {state : σ} {b : β} :
    (run (action >>= next) state).result = .ok b ↔
      ∃ a, (run action state).result = .ok a ∧
        (run (next a) (run action state).state).result = .ok b := by
  cases h : (run action state).result with
  | error failure => simp [run_bind_error h]
  | ok a => simp [run_bind_ok h]

/-- A handler is not asked after a success. -/
theorem run_catching_ok {caught : Failure → Bool} {handler : Failure → Action σ ε α}
    {action : Action σ ε α} {state : σ} {a : α} (h : (run action state).result = .ok a) :
    run (action.catching caught handler) state = run action state := by
  change Action.catching caught handler action state = _
  unfold Action.catching
  unfold run at h ⊢
  generalize action state = ran at h ⊢
  obtain ⟨result, after, events⟩ := ran
  cases h
  rfl

/-- A failure that passes the test is followed by its handler. -/
theorem run_catching_caught {caught : Failure → Bool} {handler : Failure → Action σ ε α}
    {action : Action σ ε α} {state : σ} {failure : Failure}
    (h : (run action state).result = .error failure) (hc : caught failure = true) :
    run (action.catching caught handler) state =
      ⟨(run (handler failure) (run action state).state).result,
       (run (handler failure) (run action state).state).state,
       (run action state).events ++ (run (handler failure) (run action state).state).events⟩ := by
  change Action.catching caught handler action state = _
  unfold Action.catching
  unfold run at h ⊢
  generalize action state = ran at h ⊢
  obtain ⟨result, after, events⟩ := ran
  cases h
  simp only [hc, if_true]

/-- A failure that does not pass the test stands. -/
theorem run_catching_uncaught {caught : Failure → Bool} {handler : Failure → Action σ ε α}
    {action : Action σ ε α} {state : σ} {failure : Failure}
    (h : (run action state).result = .error failure) (hc : caught failure = false) :
    run (action.catching caught handler) state = run action state := by
  change Action.catching caught handler action state = _
  unfold Action.catching
  unfold run at h ⊢
  generalize action state = ran at h ⊢
  obtain ⟨result, after, events⟩ := ran
  cases h
  simp only [hc, Bool.false_eq_true, if_false]

/-! ### Laws -/

/-- Two actions that run alike are equal. -/
theorem ext_run {first second : Action σ ε α} (h : ∀ state, run first state = run second state) :
    first = second := funext h

/-- Changing nothing about the result changes nothing. -/
protected theorem id_map (action : Action σ ε α) : id <$> action = action := by
  apply ext_run
  intro state
  change run (action >>= pure) state = _
  cases h : (run action state).result with
  | error failure => rw [run_bind_error h, ← h]
  | ok a => rw [run_bind_ok h, run_pure, List.append_nil, ← h]

/-- Doing nothing first changes nothing. -/
protected theorem pure_bind (a : α) (next : α → Action σ ε β) : pure a >>= next = next a := by
  apply ext_run
  intro state
  have ha : (run (pure a : Action σ ε α) state).result = .ok a := rfl
  rw [run_bind_ok ha]
  rfl

/-- How a sequence of three is grouped does not matter. -/
protected theorem bind_assoc (action : Action σ ε α) (next : α → Action σ ε β)
    (last : β → Action σ ε γ) :
    action >>= next >>= last = action >>= fun a => next a >>= last := by
  apply ext_run
  intro state
  cases h : (run action state).result with
  | error failure =>
    have hb : (run (action >>= next) state).result = .error failure := by rw [run_bind_error h]
    rw [run_bind_error hb, run_bind_error h, run_bind_error h]
  | ok a =>
    cases hn : (run (next a) (run action state).state).result with
    | error failure =>
      have hb : (run (action >>= next) state).result = .error failure := by
        rw [run_bind_ok h, hn]
      rw [run_bind_error hb, run_bind_ok h, run_bind_ok h, run_bind_error hn]
    | ok b =>
      have hb : (run (action >>= next) state).result = .ok b := by rw [run_bind_ok h, hn]
      rw [run_bind_ok hb, run_bind_ok h, run_bind_ok h, run_bind_ok hn]
      simp only [List.append_assoc]

instance : LawfulMonad (Action σ ε) :=
  LawfulMonad.mk' _ Action.id_map Action.pure_bind Action.bind_assoc

end Action

end QueryMetrics
