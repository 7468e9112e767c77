import QueryMetrics.Action

/-!
# Runs that agree

Two actions that run from different states **agree** up to a relation between states if they have
the same result, report the same events and end in related states (`Ran.Agrees`). The states may be
of different kinds. What the relation leaves out of a state is then seen in nothing but itself.

There is one rule for every way to compose actions. The rule for sequences is stated for runs
(`Ran.Agrees.bind`), so that the second part may use what is known about the state in between, and
for actions that agree from all related states (`Action.Agree.bind`).
-/

namespace QueryMetrics

open QueryMetrics.Action

variable {σ τ σ' τ' ε η α β : Type} {related : σ → τ → Prop}

/-- Two runs have the same result and events, and end in related states. -/
structure Ran.Agrees (related : σ → τ → Prop) (first : Ran σ ε α) (second : Ran τ ε α) : Prop where
  result : first.result = second.result
  state : related first.state second.state
  events : first.events = second.events

/-- Two actions agree from any related states. -/
def Action.Agree (related : σ → τ → Prop) (first : Action σ ε α) (second : Action τ ε α) : Prop :=
  ∀ s t, related s t → (run first s).Agrees related (run second t)

/-- Runs of sequences agree if the first parts do, and after a success the second parts. -/
theorem Ran.Agrees.bind {first : Action σ ε α} {second : Action τ ε α} {next : α → Action σ ε β}
    {next' : α → Action τ ε β} {s : σ} {t : τ}
    (h : (run first s).Agrees related (run second t))
    (hnext : ∀ a, (run first s).result = .ok a →
      (run (next a) (run first s).state).Agrees related (run (next' a) (run second t).state)) :
    (run (first >>= next) s).Agrees related (run (second >>= next') t) := by
  cases hresult : (run first s).result with
  | error failure =>
    rw [run_bind_error hresult, run_bind_error (h.result ▸ hresult)]
    exact ⟨rfl, h.state, h.events⟩
  | ok a =>
    have hsecond := hnext a hresult
    rw [run_bind_ok hresult, run_bind_ok (h.result ▸ hresult), h.events, hsecond.events]
    exact ⟨hsecond.result, hsecond.state, rfl⟩

namespace Action

theorem agree_pure (a : α) : Agree related (pure a : Action σ ε α) (pure a) :=
  fun _ _ h => ⟨rfl, h, rfl⟩

theorem agree_report (events : List ε) :
    Agree related (report events : Action σ ε Unit) (report events) :=
  fun _ _ h => ⟨rfl, h, rfl⟩

theorem agree_fail (failure : Failure) :
    Agree related (fail failure : Action σ ε α) (fail failure) :=
  fun _ _ h => ⟨rfl, h, rfl⟩

theorem agree_ofExcept (result : Except Failure α) :
    Agree related (ofExcept result : Action σ ε α) (ofExcept result) :=
  fun _ _ h => ⟨rfl, h, rfl⟩

/-- A part of the state that related states share is the same for both. -/
theorem agree_gets {part : σ → α} {part' : τ → α} (h : ∀ s t, related s t → part s = part' t) :
    Agree related (gets part : Action σ ε α) (gets part') :=
  fun s t hrelated => ⟨congrArg Except.ok (h s t hrelated), hrelated, rfl⟩

/-- Both may change the state in their own way if the states stay related. -/
theorem agree_modify {change : σ → σ} {change' : τ → τ}
    (h : ∀ s t, related s t → related (change s) (change' t)) :
    Agree related (modify change : Action σ ε Unit) (modify change') :=
  fun s t hrelated => ⟨rfl, h s t hrelated, rfl⟩

/-- Actions on parts of the state agree if they agree on the parts. -/
theorem Agree.on {inner : σ' → τ' → Prop} {part : σ → σ'} {part' : τ → τ'} {replace : σ → σ' → σ}
    {replace' : τ → τ' → τ} {action : Action σ' ε α} {action' : Action τ' ε α}
    (h : Agree inner action action') (lift : ε → η)
    (hpart : ∀ s t, related s t → inner (part s) (part' t))
    (hreplace : ∀ s t new new', related s t → inner new new' →
      related (replace s new) (replace' t new')) :
    Agree related (action.on part replace lift) (action'.on part' replace' lift) := by
  intro s t hrelated
  obtain ⟨hresult, hstate, hevents⟩ := h _ _ (hpart s t hrelated)
  rw [run_on, run_on, hresult, hevents]
  exact ⟨rfl, hreplace s t _ _ hrelated hstate, rfl⟩

/-- An action on a part that related states share does the same to both. -/
theorem agree_on {part : σ → σ'} {part' : τ → σ'} {replace : σ → σ' → σ} {replace' : τ → σ' → τ}
    (lift : ε → η) (action : Action σ' ε α)
    (hpart : ∀ s t, related s t → part s = part' t)
    (hreplace : ∀ s t new, related s t → related (replace s new) (replace' t new)) :
    Agree related (action.on part replace lift) (action.on part' replace' lift) := by
  have hsame : Agree (fun s t : σ' => s = t) action action := by
    rintro s t rfl
    exact ⟨rfl, rfl, rfl⟩
  refine hsame.on lift hpart fun s t new new' hrelated hnew => ?_
  rw [← hnew]
  exact hreplace s t new hrelated

variable {first : Action σ ε α} {second : Action τ ε α}

theorem Agree.bind {next : α → Action σ ε β} {next' : α → Action τ ε β}
    (h : Agree related first second) (hnext : ∀ a, Agree related (next a) (next' a)) :
    Agree related (first >>= next) (second >>= next') :=
  fun s t hrelated => (h s t hrelated).bind fun a _ => hnext a _ _ (h s t hrelated).state

/-- Both may go on with parts of their states that differ. -/
theorem agree_gets_bind {part : σ → σ'} {part' : τ → τ'} {next : σ' → Action σ ε α}
    {next' : τ' → Action τ ε α}
    (h : ∀ s t, related s t → (run (next (part s)) s).Agrees related (run (next' (part' t)) t)) :
    Agree related (gets part >>= next) (gets part' >>= next') := by
  intro s t hrelated
  have hfirst : run (gets part >>= next) s = run (next (part s)) s := rfl
  have hsecond : run (gets part' >>= next') t = run (next' (part' t)) t := rfl
  rw [hfirst, hsecond]
  exact h s t hrelated

/-- A function of the result is a sequence with nothing to do. -/
theorem Agree.map (h : Agree related first second) (f : α → β) :
    Agree related (f <$> first) (f <$> second) :=
  h.bind fun a => agree_pure (f a)

theorem Agree.attempt (h : Agree related first second) :
    Agree related first.attempt second.attempt := by
  intro s t hrelated
  obtain ⟨hresult, hstate, hevents⟩ := h s t hrelated
  rw [run_attempt, run_attempt, hresult, hevents]
  exact ⟨rfl, hstate, rfl⟩

theorem Agree.mapFailure (h : Agree related first second) (change : Failure → Failure) :
    Agree related (first.mapFailure change) (second.mapFailure change) := by
  intro s t hrelated
  obtain ⟨hresult, hstate, hevents⟩ := h s t hrelated
  rw [run_mapFailure, run_mapFailure, hresult, hevents]
  exact ⟨rfl, hstate, rfl⟩

theorem Agree.catching {caught : Failure → Bool} {handler : Failure → Action σ ε α}
    {handler' : Failure → Action τ ε α} (h : Agree related first second)
    (hhandler : ∀ failure, Agree related (handler failure) (handler' failure)) :
    Agree related (first.catching caught handler) (second.catching caught handler') := by
  intro s t hrelated
  have hrun := h s t hrelated
  cases hresult : (run first s).result with
  | ok a =>
    rw [run_catching_ok hresult, run_catching_ok (hrun.result ▸ hresult)]
    exact hrun
  | error failure =>
    cases hcaught : caught failure with
    | false =>
      rw [run_catching_uncaught hresult hcaught,
        run_catching_uncaught (hrun.result ▸ hresult) hcaught]
      exact hrun
    | true =>
      have hhandled := hhandler failure _ _ hrun.state
      rw [run_catching_caught hresult hcaught,
        run_catching_caught (hrun.result ▸ hresult) hcaught, hrun.events, hhandled.events]
      exact ⟨hhandled.result, hhandled.state, rfl⟩

theorem Agree.andFinally {last : Action σ ε Unit} {last' : Action τ ε Unit}
    (h : Agree related first second) (hlast : Agree related last last') :
    Agree related (first.andFinally last) (second.andFinally last') := by
  intro s t hrelated
  obtain ⟨hresult, hstate, hevents⟩ := h s t hrelated
  obtain ⟨hresult', hstate', hevents'⟩ := hlast _ _ hstate
  rw [run_andFinally, run_andFinally, hresult, hevents, hresult', hevents']
  exact ⟨rfl, hstate', rfl⟩

end Action

end QueryMetrics
