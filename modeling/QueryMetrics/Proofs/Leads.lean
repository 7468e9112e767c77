import QueryMetrics.Action

/-!
# Where actions lead

Much of what is said about an action relates the state that it leaves to the one that it began with:
something is kept, or only grows, however the action ends (`Action.Leads`). A transitive relation
holds of a composed action as soon as it holds of its parts, and there is one rule for every way to
compose them. Families of such facts get their own rules from these.
-/

namespace QueryMetrics.Action

variable {σ ε α β : Type} {R : σ → σ → Prop}

/-- However it ends, the action leads from every state to a related one. -/
def Leads (R : σ → σ → Prop) (action : Action σ ε α) : Prop := ∀ s, R s (run action s).state

variable {action : Action σ ε α}

theorem Leads.bind {next : α → Action σ ε β} (h : Leads R action) (hnext : ∀ a, Leads R (next a))
    (htrans : ∀ {s t u}, R s t → R t u → R s u) : Leads R (action >>= next) := by
  intro s
  cases hresult : (run action s).result with
  | error failure =>
    rw [run_bind_error hresult]
    exact h s
  | ok a =>
    rw [run_bind_ok hresult]
    exact htrans (h s) (hnext a _)

theorem Leads.catching {caught : Failure → Bool} {handler : Failure → Action σ ε α}
    (h : Leads R action) (hhandler : ∀ failure, Leads R (handler failure))
    (htrans : ∀ {s t u}, R s t → R t u → R s u) : Leads R (action.catching caught handler) := by
  intro s
  cases hresult : (run action s).result with
  | ok a =>
    rw [run_catching_ok hresult]
    exact h s
  | error failure =>
    cases hcaught : caught failure with
    | false =>
      rw [run_catching_uncaught hresult hcaught]
      exact h s
    | true =>
      rw [run_catching_caught hresult hcaught]
      exact htrans (h s) (hhandler failure _)

theorem Leads.andFinally {last : Action σ ε Unit} (h : Leads R action) (hlast : Leads R last)
    (htrans : ∀ {s t u}, R s t → R t u → R s u) : Leads R (action.andFinally last) :=
  fun s => htrans (h s) (hlast _)

end QueryMetrics.Action
