import QueryMetrics.Proofs.Scrape.Transcript

/-!
# The history of an exporter

A run of an exporter is any list of cycles: what the files hold and how late it is when a cycle
begins, its tick, and the order of its tasks. What happens in a run is told as a **history**: which
sets of definitions were loaded anew, and which tasks ran with which result.

The intended rule is stated on histories. `lastSuccess?` looks back from the end of a history, as
far as the identity was never missing from a set that was loaded anew, for the latest scheduled run
that asked the database and succeeded. `Ledger.Recalls` says that a ledger holds just these runs.
Every task and every cycle keeps this (`Exporter.recalls_task`, `Exporter.recalls_cycle`), hence
every run does (`Exporter.recalls_afterCycles`).
-/

namespace QueryMetrics

open QueryMetrics.Action

/-! ### Histories -/

/-- A scheduled run of a task that asked the database and succeeded. -/
structure Success where
  tick : Binary64
  definition : Definition
  /-- The reply of the database. -/
  rows : List Row
  samples : List Sample

/-- The run of a success: the request, the reply and what became of it. -/
def Success.run (success : Success) (timeout : Binary64) : TaskRun :=
  ⟨success.definition, some success.tick,
    [.query success.definition.request timeout (.ok success.rows)], .ok success.samples⟩

/-- The success of a task, if its run was one. -/
def TaskRun.success? (r : TaskRun) : Option Success :=
  match r.tick, r.exchanges, r.result with
  | some tick, [.query _ _ (.ok rows)], .ok samples => some ⟨tick, r.definition, rows, samples⟩
  | _, _, _ => none

/-- Something that matters to later cycles. -/
inductive Happening where
  /-- A set of definitions was loaded anew. -/
  | loaded (active : List Definition)
  | ran (r : TaskRun)

namespace Happening

/-- The identity is missing from a set that was loaded anew. -/
def forgets (identity : String) : Happening → Bool
  | loaded active => identity ∉ active.map Definition.identity
  | ran _ => false

/-- A success under the identity. -/
def success? (identity : String) : Happening → Option Success
  | loaded _ => none
  | ran r => if r.definition.identity = identity then r.success? else none

end Happening

/-- The latest success under an identity, as far back as the identity was never missing from a set
that was loaded anew. -/
def lastSuccess? (identity : String) (history : List Happening) : Option Success :=
  (history.reverse.takeWhile fun happening => !happening.forgets identity).findSome?
    (Happening.success? identity)

@[simp] theorem lastSuccess?_nil (identity : String) : lastSuccess? identity [] = none := rfl

/-- What happens last decides, if it forgets the identity or is a success under it. -/
theorem lastSuccess?_concat (identity : String) (history : List Happening)
    (happening : Happening) :
    lastSuccess? identity (history ++ [happening]) =
      if happening.forgets identity then none
      else (happening.success? identity).or (lastSuccess? identity history) := by
  rw [lastSuccess?, List.reverse_concat, List.takeWhile_cons]
  cases hforgets : happening.forgets identity with
  | true => rfl
  | false =>
    rw [Bool.not_false, if_pos rfl, List.findSome?_cons, lastSuccess?]
    cases happening.success? identity <;> rfl

/-- The ledger holds the tick and the samples of this success under the identity, or nothing. -/
structure Ledger.Holds (ledger : Ledger) (identity : String) (last : Option Success) : Prop where
  lastRun : ledger.lastRun.find? identity = last.map Success.tick
  lastSamples : ledger.lastSamples.find? identity = last.map Success.samples

/-- The ledger holds the latest success under every identity. -/
def Ledger.Recalls (ledger : Ledger) (history : List Happening) : Prop :=
  ∀ identity, ledger.Holds identity (lastSuccess? identity history)

namespace Ledger

theorem recalls_empty : ({} : Ledger).Recalls [] := fun _ => ⟨rfl, rfl⟩

theorem Holds.congr {first second : Ledger} {identity : String} {last : Option Success}
    (h : first.Holds identity last) (hsame : second.SameFor identity first) :
    second.Holds identity last :=
  ⟨hsame.lastRun.trans h.lastRun, hsame.lastSamples.trans h.lastSamples⟩

theorem Recalls.congr {first second : Ledger} {history : List Happening}
    (h : first.Recalls history) (hsame : second.SameRuns first) : second.Recalls history :=
  fun identity => (h identity).congr (hsame.sameFor identity)

/-- Forgetting the runs of definitions that are gone is what a new set of definitions is for. -/
theorem Recalls.forgetRemoved {ledger : Ledger} {history : List Happening}
    (h : ledger.Recalls history) (active : List Definition) :
    (ledger.forgetRemoved active).Recalls (history ++ [.loaded active]) := by
  intro identity
  rw [lastSuccess?_concat]
  -- an identity of the new set keeps its success, and any other has none from now on
  by_cases hactive : identity ∈ active.map Definition.identity
  · have hlast : (Happening.loaded active).forgets identity = false := by
      simpa [Happening.forgets] using hactive
    rw [hlast]
    exact (h identity).congr (sameFor_forgetRemoved hactive ledger)
  · have hlast : (Happening.loaded active).forgets identity = true := by
      simpa [Happening.forgets] using hactive
    rw [hlast]
    constructor
    · rw [Ledger.forgetRemoved, Entries.find?_keep, if_neg (by simpa using hactive)]
      rfl
    · rw [Ledger.forgetRemoved, Entries.find?_keep, if_neg (by simpa using hactive)]
      rfl

/-- A run that is no success is not remembered. -/
theorem Recalls.ran_of_none {ledger : Ledger} {history : List Happening}
    (h : ledger.Recalls history) {r : TaskRun} (hr : r.success? = none) :
    ledger.Recalls (history ++ [.ran r]) := by
  intro identity
  have hnone : (Happening.ran r).success? identity = none := by
    rw [Happening.success?, hr, ite_self]
  rw [lastSuccess?_concat, hnone]
  exact h identity

/-- A success is remembered under the identity of its definition. -/
theorem Recalls.remember {ledger : Ledger} {history : List Happening}
    (h : ledger.Recalls history) {r : TaskRun} {success : Success}
    (hr : r.success? = some success) :
    (ledger.remember r.definition.identity success.tick success.samples).Recalls
      (history ++ [.ran r]) := by
  intro identity
  rw [lastSuccess?_concat, Happening.success?, hr]
  by_cases hidentity : r.definition.identity = identity
  · subst hidentity
    rw [if_pos rfl]
    exact ⟨Entries.find?_put_self .., Entries.find?_put_self ..⟩
  · rw [if_neg hidentity]
    refine (h identity).congr ⟨?_, ?_⟩
    · exact Entries.find?_put_of_ne (Ne.symm hidentity) ..
    · exact Entries.find?_put_of_ne (Ne.symm hidentity) ..

end Ledger

/-! ### Tasks -/

namespace Exporter

variable {δ : Type}

/-- **The step of a task.** What a task does to the ledger is what its run says. -/
theorem recalls_task (db : Database δ) (tick : Option Binary64) (d : Definition)
    {s : Clocked (Exporter δ)} {history : List Happening} (h : s.inner.ledger.Recalls history) :
    (run (task db tick d) s).state.inner.ledger.Recalls
      (history ++ [.ran (taskRun db tick d s)]) := by
  obtain ⟨-, hrun, hstate⟩ | ⟨-, -, hrun, hstate⟩ | ⟨-, -, timeout, reply, -, hrun, hledger⟩ :=
    taskRun_cases db tick d s
  -- a task that asks nothing is no success, and leaves the ledger as it is
  · rw [hrun, hstate]
    exact h.ran_of_none (by cases tick <;> rfl)
  · rw [hrun, hstate]
    exact h.ran_of_none (by cases tick <;> rfl)
  -- a task that asks is one exactly if it has a tick and an answer
  · rw [hrun, hledger]
    cases tick with
    | none => exact h.ran_of_none rfl
    | some tick =>
      cases hanswer : d.answer s.inner.settings.ns reply with
      | error failure =>
        rw [Ledger.afterRun_error]
        refine h.ran_of_none ?_
        cases reply <;> rfl
      | ok samples =>
        obtain ⟨rows, rfl, -⟩ := Definition.answer_eq_ok hanswer
        have hsuccess : TaskRun.success? ⟨d, some tick, [.query d.request timeout (.ok rows)],
            .ok samples⟩ = some ⟨tick, d, rows, samples⟩ := rfl
        exact h.remember hsuccess

theorem recalls_afterTasks (db : Database δ) (tick : Option Binary64) (ds : List Definition)
    {s : Clocked (Exporter δ)} {history : List Happening} (h : s.inner.ledger.Recalls history) :
    (afterTasks db tick ds s).inner.ledger.Recalls
      (history ++ (taskRuns db tick ds s).map .ran) := by
  induction ds generalizing s history with
  | nil => exact (List.append_nil history).symm ▸ h
  | cons d rest ih =>
    have hrest := ih (recalls_task db tick d h)
    rwa [List.append_assoc, List.singleton_append] at hrest

end Exporter

/-! ### Cycles -/

/-- What a cycle meets when it begins, and how it is asked for. -/
structure Cycle where
  files : FileTree
  clock : Binary64
  /-- The tick of a scheduled cycle; a cycle on demand has none. -/
  tick : Option Binary64
  order : TaskOrder

/-- The exporter when a cycle begins. -/
def Cycle.enter {δ : Type} (c : Cycle) (s : Clocked (Exporter δ)) : Clocked (Exporter δ) :=
  ⟨c.clock, { s.inner with files := c.files }⟩

namespace Exporter

variable {δ : Type} (db : Database δ)

/-- The runs of the tasks of a cycle. -/
def cycleRuns (order : TaskOrder) (tick : Option Binary64) (s : Clocked (Exporter δ)) :
    List TaskRun :=
  taskRuns db tick (started db order s) (prepared db s)

/-- What a cycle collects are the outcomes of its runs. -/
theorem collected_perm_cycleRuns {order : TaskOrder} (horder : order.Lawful)
    (tick : Option Binary64) (s : Clocked (Exporter δ)) :
    (collected db order tick s).Perm ((cycleRuns db order tick s).map TaskRun.outcome) := by
  rw [cycleRuns, map_outcome_taskRuns]
  exact horder.collecting _

/-- What happens up to the tasks of a cycle. -/
def loadings (s : Clocked (Exporter δ)) : List Happening :=
  (loaded? db s).toList.map .loaded

/-- The exporter after a cycle. -/
def afterCycle (c : Cycle) (s : Clocked (Exporter δ)) : Clocked (Exporter δ) :=
  (run (scrape db c.order c.tick) (c.enter s)).state

/-- The exporter after cycles. -/
def afterCycles : List Cycle → Clocked (Exporter δ) → Clocked (Exporter δ)
  | [], s => s
  | c :: rest, s => afterCycles rest (afterCycle db c s)

/-- What happens in cycles. -/
def history : List Cycle → Clocked (Exporter δ) → List Happening
  | [], _ => []
  | c :: rest, s =>
    loadings db (c.enter s) ++ (cycleRuns db c.order c.tick (c.enter s)).map .ran ++
      history rest (afterCycle db c s)

theorem afterCycles_concat (past : List Cycle) (c : Cycle) (s : Clocked (Exporter δ)) :
    afterCycles db (past ++ [c]) s = afterCycle db c (afterCycles db past s) := by
  induction past generalizing s with
  | nil => rfl
  | cons first rest ih => exact ih _

/-- Up to its tasks, a cycle forgets just what its new set of definitions forgets. -/
theorem recalls_prepared {s : Clocked (Exporter δ)} {history : List Happening}
    (h : s.inner.ledger.Recalls history) :
    (prepared db s).inner.ledger.Recalls (history ++ loadings db s) := by
  have hbegun : s.inner.ledger.begin.Recalls history := h.congr ⟨rfl, rfl⟩
  rw [ledger_prepared, loadings]
  cases loaded? db s with
  | none => exact (List.append_nil history).symm ▸ hbegun
  | some active => exact hbegun.forgetRemoved active

/-- **The step of a cycle.** However a cycle ends, the ledger holds what happened. -/
theorem recalls_cycle (order : TaskOrder) (tick : Option Binary64) {s : Clocked (Exporter δ)}
    {history : List Happening} (h : s.inner.ledger.Recalls history) :
    (run (scrape db order tick) s).state.inner.ledger.Recalls
      (history ++ (loadings db s ++ (cycleRuns db order tick s).map .ran)) := by
  rw [← List.append_assoc]
  exact (recalls_afterTasks db tick _ (recalls_prepared db h)).congr
    (sameRuns_scrape db order tick s)

/-- **Runs.** After any cycles, the ledger holds what happened in all of them. -/
theorem recalls_afterCycles (cycles : List Cycle) {s : Clocked (Exporter δ)}
    {past : List Happening} (h : s.inner.ledger.Recalls past) :
    (afterCycles db cycles s).inner.ledger.Recalls (past ++ history db cycles s) := by
  induction cycles generalizing s past with
  | nil => exact (List.append_nil past).symm ▸ h
  | cons c rest ih =>
    -- the cycle takes the past over, so that the rest can begin from there
    have hcycle := recalls_cycle db c.order c.tick (s := c.enter s) h
    have hrest := ih (s := afterCycle db c s) hcycle
    rwa [List.append_assoc] at hrest

/-- A new exporter's ledger holds what happened in all of its cycles. -/
theorem recalls_history {new : Clocked (Exporter δ)} (hnew : new.inner.ledger = {})
    (cycles : List Cycle) :
    (afterCycles db cycles new).inner.ledger.Recalls (history db cycles new) := by
  have hrun := recalls_afterCycles db cycles (s := new) (hnew ▸ Ledger.recalls_empty)
  rwa [List.nil_append] at hrun

end Exporter

end QueryMetrics
