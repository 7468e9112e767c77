import QueryMetrics.Clock
import QueryMetrics.Proofs.Agreement

/-!
# Actions seen through a view

A state may hold more than what a plain action works on, for instance a record of what was done. A
**view** forgets the rest. An action on detailed states is seen as a plain one through the view if
both have the same result and report the same events, and if the view of what the first leaves is
what the second leaves (`Action.SeenAs`).

To be seen is to agree, where a plain state is related to the detailed ones that it is the view of
(`Action.seenAs_iff_agree`). So there is one rule for every way to compose actions, and an action is
taken through along its own text. Nothing is asked of the view itself: a rule that looks at the
state or changes it says which views it holds for.
-/

namespace QueryMetrics

/-- The same moment, with another view of what is there. -/
def Clocked.view {σ τ : Type} (view : σ → τ) (state : Clocked σ) : Clocked τ :=
  ⟨state.clock, view state.inner⟩

namespace Action

variable {σ τ σ' τ' ε η α β : Type} {view : σ → τ}

/-- Through the view, the detailed action does what the plain one does. -/
def SeenAs (view : σ → τ) (detailed : Action σ ε α) (plain : Action τ ε α) : Prop :=
  ∀ s, run plain (view s) =
    ⟨(run detailed s).result, view (run detailed s).state, (run detailed s).events⟩

variable {detailed : Action σ ε α} {plain : Action τ ε α}

theorem seenAs_iff_agree :
    SeenAs view detailed plain ↔ Agree (fun s t => view s = t) detailed plain := by
  constructor
  · rintro h s t rfl
    rw [h s]
    exact ⟨rfl, rfl, rfl⟩
  · intro h s
    obtain ⟨hresult, hstate, hevents⟩ := h s _ rfl
    rw [hresult, hstate, hevents]

theorem seenAs_pure (a : α) : SeenAs view (pure a : Action σ ε α) (pure a) := fun _ => rfl

theorem seenAs_report (events : List ε) :
    SeenAs view (report events : Action σ ε Unit) (report events) := fun _ => rfl

theorem seenAs_fail (failure : Failure) :
    SeenAs view (fail failure : Action σ ε α) (fail failure) := fun _ => rfl

theorem seenAs_ofExcept (result : Except Failure α) :
    SeenAs view (ofExcept result : Action σ ε α) (ofExcept result) := fun _ => rfl

/-- A part of the state is seen as it is if it can be read off the view. -/
theorem seenAs_gets {detailed : σ → α} {plain : τ → α} (h : ∀ s, plain (view s) = detailed s) :
    SeenAs view (gets detailed : Action σ ε α) (gets plain) := by
  intro s
  rw [run_gets, run_gets, h]

/-- A change is seen as the change of the view. -/
theorem seenAs_modify {detailed : σ → σ} {plain : τ → τ}
    (h : ∀ s, plain (view s) = view (detailed s)) :
    SeenAs view (modify detailed : Action σ ε Unit) (modify plain) := by
  intro s
  rw [run_modify, run_modify, h]

/-- An action on a part of the state is seen as one on the view of the part. -/
theorem SeenAs.on {part : σ → σ'} {part' : τ → τ'} {replace : σ → σ' → σ}
    {replace' : τ → τ' → τ} {inner : σ' → τ'} {detailed : Action σ' ε α} {plain : Action τ' ε α}
    (h : SeenAs inner detailed plain) (lift : ε → η)
    (hpart : ∀ s, part' (view s) = inner (part s))
    (hreplace : ∀ s t, replace' (view s) (inner t) = view (replace s t)) :
    SeenAs view (detailed.on part replace lift) (plain.on part' replace' lift) := by
  refine seenAs_iff_agree.mpr ((seenAs_iff_agree.mp h).on lift ?_ ?_)
  · rintro s t rfl
    exact (hpart s).symm
  · rintro s t new new' rfl rfl
    exact (hreplace s new).symm

theorem SeenAs.bind {next : α → Action σ ε β} {next' : α → Action τ ε β}
    (h : SeenAs view detailed plain) (hnext : ∀ a, SeenAs view (next a) (next' a)) :
    SeenAs view (detailed >>= next) (plain >>= next') :=
  seenAs_iff_agree.mpr
    ((seenAs_iff_agree.mp h).bind fun a => seenAs_iff_agree.mp (hnext a))

theorem SeenAs.map (h : SeenAs view detailed plain) (f : α → β) :
    SeenAs view (f <$> detailed) (f <$> plain) :=
  h.bind fun a => seenAs_pure (f a)

theorem SeenAs.attempt (h : SeenAs view detailed plain) :
    SeenAs view detailed.attempt plain.attempt :=
  seenAs_iff_agree.mpr (seenAs_iff_agree.mp h).attempt

theorem SeenAs.catching {caught : Failure → Bool} {handler : Failure → Action σ ε α}
    {handler' : Failure → Action τ ε α} (h : SeenAs view detailed plain)
    (hhandler : ∀ failure, SeenAs view (handler failure) (handler' failure)) :
    SeenAs view (detailed.catching caught handler) (plain.catching caught handler') :=
  seenAs_iff_agree.mpr
    ((seenAs_iff_agree.mp h).catching fun failure => seenAs_iff_agree.mp (hhandler failure))

end Action

end QueryMetrics
