import Mathlib.Data.List.Perm.Subperm
import QueryMetrics.Proofs.Definition.Refresh
import QueryMetrics.Proofs.Scrape.Accounting

/-!
# What an exporter remembers of runs

The ticks and the samples of runs stand in two tables, which a success writes together and a new
set of definitions prunes together. `Ledger.RemembersOnly` is the invariant of both: they have the
same keys, all of them identities of active definitions, and every tick is one that a cycle had.

* Pruning makes the invariant hold for the new set, whatever the old one was
  (`Ledger.RemembersOnly.forgetRemoved`); writing a run of an active definition keeps it
  (`Ledger.RemembersOnly.remember`). Nothing else touches the tables.
* The tables are pruned when a refresh says that it has loaded a set, and the definitions are
  replaced exactly then (`Exporter.definitions_prepared`). So between two cycles the tables are
  never behind the active set, and every cycle keeps the invariant (`Exporter.remembersOnly_cycle`).
* The gate of a task looks at the ticks, and the task then gives the samples. A definition that is
  not due has a tick, hence samples, and keeps them while other tasks run
  (`Exporter.exists_samples_of_not_due`).
-/

namespace QueryMetrics

open QueryMetrics.Action

/-! ### The invariant -/

/-- What is remembered of runs: ticks and samples under the same identities, which are distinct and
those of active definitions, and no ticks but these. -/
structure Ledger.RemembersOnly (ledger : Ledger) (active : List Definition)
    (ticks : List Binary64) : Prop where
  sameKeys : ledger.lastRun.keys = ledger.lastSamples.keys
  distinct : ledger.lastRun.keys.Nodup
  ofActive : ∀ identity ∈ ledger.lastRun.keys, identity ∈ active.map Definition.identity
  atTick : ∀ entry ∈ ledger.lastRun, entry.2 ∈ ticks

namespace Ledger

variable {ledger other : Ledger} {active : List Definition} {ticks later : List Binary64}

theorem remembersOnly_empty (active : List Definition) (ticks : List Binary64) :
    ({} : Ledger).RemembersOnly active ticks :=
  ⟨rfl, List.nodup_nil, List.forall_mem_nil _, List.forall_mem_nil _⟩

namespace RemembersOnly

theorem congr (h : ledger.RemembersOnly active ticks) (hsame : other.SameRuns ledger) :
    other.RemembersOnly active ticks := by
  obtain ⟨hrun, hsamples⟩ := hsame
  constructor
  · rw [hrun, hsamples]
    exact h.sameKeys
  · rw [hrun]
    exact h.distinct
  · rw [hrun]
    exact h.ofActive
  · rw [hrun]
    exact h.atTick

theorem mono (h : ledger.RemembersOnly active ticks) (hticks : ticks ⊆ later) :
    ledger.RemembersOnly active later :=
  { h with atTick := fun entry hentry => hticks (h.atTick entry hentry) }

/-- A new set of definitions leaves the runs of its own identities only, whatever was active
before. -/
theorem forgetRemoved (h : ledger.RemembersOnly active ticks) (fresh : List Definition) :
    (ledger.forgetRemoved fresh).RemembersOnly fresh ticks where
  sameKeys := by rw [Ledger.forgetRemoved, Entries.keys_keep, Entries.keys_keep, h.sameKeys]
  distinct := by
    rw [Ledger.forgetRemoved, Entries.keys_keep]
    exact h.distinct.filter _
  ofActive identity hidentity := by
    rw [Ledger.forgetRemoved, Entries.keys_keep] at hidentity
    exact of_decide_eq_true (List.mem_filter.mp hidentity).2
  atTick entry hentry := by
    simp only [Ledger.forgetRemoved] at hentry
    exact h.atTick entry (Entries.mem_of_mem_keep hentry)

/-- A run of an active definition is written to both tables under one key. -/
theorem remember (h : ledger.RemembersOnly active ticks) {d : Definition} (hd : d ∈ active)
    {tick : Binary64} (htick : tick ∈ ticks) (samples : List Sample) :
    (ledger.remember d.identity tick samples).RemembersOnly active ticks where
  sameKeys := by rw [Ledger.remember, Entries.keys_put, Entries.keys_put, h.sameKeys]
  distinct := Entries.nodup_keys_put h.distinct ..
  ofActive identity hidentity := by
    obtain rfl | hold := Entries.mem_keys_put.mp hidentity
    · exact List.mem_map_of_mem hd
    · exact h.ofActive identity hold
  atTick entry hentry := by
    obtain hold | hnew := Entries.mem_put hentry
    · exact h.atTick entry hold
    · rwa [hnew]

/-- The tables never have more entries than there are active definitions. -/
theorem length_le (h : ledger.RemembersOnly active ticks) :
    ledger.lastRun.length ≤ active.length ∧ ledger.lastSamples.length ≤ active.length := by
  have hkeys : ledger.lastRun.keys.length ≤ active.length := by
    rw [← List.length_map (f := Definition.identity)]
    exact (List.Nodup.subperm h.distinct h.ofActive).length_le
  constructor
  · rwa [Entries.keys, List.length_map] at hkeys
  · rwa [h.sameKeys, Entries.keys, List.length_map] at hkeys

/-- What has a tick has samples. -/
theorem exists_samples (h : ledger.RemembersOnly active ticks) {identity : String}
    (hidentity : identity ∈ ledger.lastRun.keys) :
    ∃ samples, ledger.lastSamples.find? identity = some samples :=
  Entries.mem_keys_iff.mp (h.sameKeys ▸ hidentity)

end RemembersOnly

/-- A definition is left out only on account of a run that is remembered. -/
theorem mem_keys_of_not_due {d : Definition} {tick : Option Binary64}
    (h : ledger.isDue d tick = .ok false) : d.identity ∈ ledger.lastRun.keys := by
  cases tick with
  | none => cases h
  | some tick =>
    rw [isDue] at h
    cases hinterval : d.minInterval with
    | error failure =>
      rw [hinterval] at h
      cases h
    | ok interval? =>
      rw [hinterval] at h
      cases interval? with
      | none => cases h
      | some interval =>
        cases hrun : ledger.lastRun.find? d.identity with
        | none => simp [Except.map, hasElapsed, hrun] at h
        | some last => exact Entries.mem_keys_iff.mpr ⟨last, hrun⟩

end Ledger

namespace Exporter

variable {δ : Type} (db : Database δ)

/-! ### Tasks -/

/-- What a task does to the ledger: nothing, or a success under its tick is written down. -/
theorem ledger_task_cases (tick : Option Binary64) (d : Definition) (s : Clocked (Exporter δ)) :
    (run (task db tick d) s).state.inner.ledger = s.inner.ledger ∨
      ∃ now samples, tick = some now ∧
        (run (task db tick d) s).state.inner.ledger =
          s.inner.ledger.remember d.identity now samples := by
  obtain ⟨-, hrun⟩ | ⟨-, -, hrun⟩ | ⟨-, -, timeout, -, hrun⟩ := task_cases db tick d s
  · exact .inl (by rw [hrun])
  · exact .inl (by rw [hrun])
  · rw [hrun]
    dsimp only
    cases tick with
    | none => exact .inl rfl
    | some now =>
      cases hanswer : d.answer _ _ with
      | error failure => exact .inl rfl
      | ok samples => exact .inr ⟨now, samples, rfl, rfl⟩

/-- **The step of a task.** The task of an active definition keeps the invariant. -/
theorem remembersOnly_task {tick : Option Binary64} {active : List Definition}
    {ticks : List Binary64} (htick : tick.toList ⊆ ticks) {d : Definition} (hd : d ∈ active)
    {s : Clocked (Exporter δ)} (h : s.inner.ledger.RemembersOnly active ticks) :
    (run (task db tick d) s).state.inner.ledger.RemembersOnly active ticks := by
  obtain hsame | ⟨now, samples, rfl, hnew⟩ := ledger_task_cases db tick d s
  · rwa [hsame]
  · rw [hnew]
    exact h.remember hd (htick (List.mem_singleton_self now)) samples

theorem remembersOnly_afterTasks {tick : Option Binary64} {active : List Definition}
    {ticks : List Binary64} (htick : tick.toList ⊆ ticks) {ds : List Definition} (hds : ds ⊆ active)
    {s : Clocked (Exporter δ)} (h : s.inner.ledger.RemembersOnly active ticks) :
    (afterTasks db tick ds s).inner.ledger.RemembersOnly active ticks := by
  induction ds generalizing s with
  | nil => exact h
  | cons d rest ih =>
    obtain ⟨hd, hrest⟩ := List.cons_subset.mp hds
    exact ih hrest (remembersOnly_task db htick hd h)

/-- Tasks forget nothing: an identity that has a tick keeps one. -/
theorem mem_keys_afterTasks (tick : Option Binary64) (ds : List Definition) {identity : String}
    {s : Clocked (Exporter δ)} (h : identity ∈ s.inner.ledger.lastRun.keys) :
    identity ∈ (afterTasks db tick ds s).inner.ledger.lastRun.keys := by
  induction ds generalizing s with
  | nil => exact h
  | cons d rest ih =>
    refine ih ?_
    obtain hsame | ⟨now, samples, -, hnew⟩ := ledger_task_cases db tick d s
    · rwa [hsame]
    · rw [hnew]
      exact Entries.mem_keys_put.mpr (.inr h)

/-! ### Cycles -/

/-- The definitions that are active when the tasks begin are those that the cycle has loaded anew.
If it has not loaded any, they are those of before, even if it has failed to load them. -/
theorem definitions_prepared (s : Clocked (Exporter δ)) :
    (prepared db s).inner.store.definitions =
      (loaded? db s).getD s.inner.store.definitions := by
  rw [prepared, loaded?]
  split
  · rw [inner_refreshed, DefinitionStore.freshSet?]
    dsimp only
    split
    · rfl
    · rename_i hloaded
      exact DefinitionStore.definitions_refresh_of_not_loaded hloaded
  · rw [inner_pinged]
    rfl

/-- Up to its tasks, a cycle keeps the invariant: what its refresh replaces, it prunes for. -/
theorem remembersOnly_prepared {ticks : List Binary64} {s : Clocked (Exporter δ)}
    (h : s.inner.ledger.RemembersOnly s.inner.store.definitions ticks) :
    (prepared db s).inner.ledger.RemembersOnly (prepared db s).inner.store.definitions ticks := by
  have hbegun : s.inner.ledger.begin.RemembersOnly s.inner.store.definitions ticks :=
    h.congr ⟨rfl, rfl⟩
  rw [ledger_prepared, definitions_prepared]
  cases loaded? db s with
  | none => exact hbegun
  | some fresh => exact hbegun.forgetRemoved fresh

/-- A cycle runs tasks of active definitions only. -/
theorem started_subset {order : TaskOrder} (horder : order.Lawful) (s : Clocked (Exporter δ)) :
    started db order s ⊆ (prepared db s).inner.store.definitions := by
  intro d hd
  rw [started] at hd
  split at hd
  · rename_i hup hrefresh
    rw [prepared_of_up hup]
    exact (horder.running _).mem_iff.mp hd
  · cases hd

/-- The definitions are those of the refresh when the cycle has ended. -/
theorem definitions_scrape (order : TaskOrder) (tick : Option Binary64) (s : Clocked (Exporter δ)) :
    (run (scrape db order tick) s).state.inner.store.definitions =
      (prepared db s).inner.store.definitions := by
  obtain ⟨ledger, -, hinner⟩ := exists_inner_scrape db order tick s
  rw [hinner]
  exact congrArg _ (undisturbed_afterTasks db tick _ _).store

/-- **The step of a cycle.** However a cycle ends, it keeps the invariant; the ticks it may leave
behind are those of before and its own. -/
theorem remembersOnly_cycle {order : TaskOrder} (horder : order.Lawful) (tick : Option Binary64)
    {ticks : List Binary64} {s : Clocked (Exporter δ)}
    (h : s.inner.ledger.RemembersOnly s.inner.store.definitions ticks) :
    (run (scrape db order tick) s).state.inner.ledger.RemembersOnly
      (run (scrape db order tick) s).state.inner.store.definitions (ticks ++ tick.toList) := by
  have hprepared := (remembersOnly_prepared db h).mono (List.subset_append_left ticks tick.toList)
  have htasks := remembersOnly_afterTasks db (List.subset_append_right ticks tick.toList)
    (started_subset db horder s) hprepared
  rw [definitions_scrape]
  exact htasks.congr (sameRuns_scrape db order tick s)

/-- **Runs.** Any cycles keep the invariant. -/
theorem remembersOnly_afterCycles (cycles : List Cycle) (horders : ∀ c ∈ cycles, c.order.Lawful)
    {ticks : List Binary64} {s : Clocked (Exporter δ)}
    (h : s.inner.ledger.RemembersOnly s.inner.store.definitions ticks) :
    (afterCycles db cycles s).inner.ledger.RemembersOnly
      (afterCycles db cycles s).inner.store.definitions
      (ticks ++ cycles.filterMap Cycle.tick) := by
  induction cycles generalizing s ticks with
  | nil => exact (List.append_nil ticks).symm ▸ h
  | cons c rest ih =>
    obtain ⟨hfirst, hrest⟩ := List.forall_mem_cons.mp horders
    have hcycle := remembersOnly_cycle db hfirst c.tick (s := c.enter s) h
    have hall := ih hrest (s := afterCycle db c s) hcycle
    have hticks : (c :: rest).filterMap Cycle.tick =
        c.tick.toList ++ rest.filterMap Cycle.tick := by
      cases htick : c.tick <;> simp [htick]
    rwa [List.append_assoc, ← hticks] at hall

/-! ### Definitions that are left out -/

/-- **A definition that is left out has samples.** They are still there when other tasks have run
between the look at its tick and the look at its samples. -/
theorem exists_samples_of_not_due {tick : Option Binary64} {active : List Definition}
    {ticks : List Binary64} (htick : tick.toList ⊆ ticks) {d : Definition}
    {turn : Clocked (Exporter δ)} (h : turn.inner.ledger.RemembersOnly active ticks)
    (hdue : turn.inner.ledger.isDue d tick = .ok false) {others : List Definition}
    (hothers : others ⊆ active) :
    ∃ samples, (afterTasks db tick others turn).inner.ledger.lastSamples.find? d.identity =
      some samples := by
  have hkey := mem_keys_afterTasks db tick others (Ledger.mem_keys_of_not_due hdue)
  exact (remembersOnly_afterTasks db htick hothers h).exists_samples hkey

/-- **What an exporter remembers of runs.** A new exporter has gone through any cycles: on demand or
scheduled, completed or failed, with the database up or down, and with any files.

* Ticks and samples are remembered under the same identities, all of them identities of definitions
  that are active now, and every tick is one that a scheduled cycle had.
* There are never more of them than active definitions.
* In any further cycle, a definition that is left out has samples, which its task gives. Whatever
  other tasks run between the look at its tick and the look at its samples, it has samples then. -/
theorem remembers_active_runs {new : Clocked (Exporter δ)} (hnew : new.inner.ledger = {})
    (past : List Cycle) (horders : ∀ c ∈ past, c.order.Lawful) :
    let s := afterCycles db past new
    s.inner.ledger.RemembersOnly s.inner.store.definitions (past.filterMap Cycle.tick) ∧
    s.inner.ledger.lastRun.length ≤ s.inner.store.definitions.length ∧
    s.inner.ledger.lastSamples.length ≤ s.inner.store.definitions.length ∧
    ∀ (c : Cycle), c.order.Lawful → ∀ (first rest : List Definition) (d : Definition),
      started db c.order (c.enter s) = first ++ d :: rest →
      let turn := afterTasks db c.tick first (prepared db (c.enter s))
      turn.inner.ledger.isDue d c.tick = .ok false →
      (∃ samples, turn.inner.ledger.lastSamples.find? d.identity = some samples ∧
        (d.problems = [] → run (task db c.tick d) turn = ⟨.ok samples, turn, []⟩)) ∧
      ∀ others ⊆ started db c.order (c.enter s), ∃ samples,
        (afterTasks db c.tick others turn).inner.ledger.lastSamples.find? d.identity =
          some samples := by
  intro s
  have hempty : new.inner.ledger.RemembersOnly new.inner.store.definitions [] :=
    hnew ▸ Ledger.remembersOnly_empty _ _
  have hruns : s.inner.ledger.RemembersOnly s.inner.store.definitions
      (past.filterMap Cycle.tick) := by
    simpa using remembersOnly_afterCycles db past horders hempty
  refine ⟨hruns, hruns.length_le.1, hruns.length_le.2, ?_⟩
  intro c horder first rest d hsplit turn hdue
  set active := (prepared db (c.enter s)).inner.store.definitions
  set ticks := past.filterMap Cycle.tick ++ c.tick.toList
  have htick : c.tick.toList ⊆ ticks := List.subset_append_right ..
  have hstarted : started db c.order (c.enter s) ⊆ active := started_subset db horder (c.enter s)
  have hfirst : first ⊆ active := by
    rw [hsplit] at hstarted
    exact (List.append_subset.mp hstarted).1
  -- the invariant holds in the middle of the cycle, for the definitions that are active by then
  have hturn : turn.inner.ledger.RemembersOnly active ticks :=
    remembersOnly_afterTasks db htick hfirst
      ((remembersOnly_prepared db (s := c.enter s) hruns).mono (List.subset_append_left ..))
  constructor
  · obtain ⟨samples, hsamples⟩ := hturn.exists_samples (Ledger.mem_keys_of_not_due hdue)
    refine ⟨samples, hsamples, fun hproblems => ?_⟩
    rw [run_task_of_not_due hproblems hdue, Ledger.samplesOf, hsamples]
    rfl
  · intro others hothers
    exact exists_samples_of_not_due db htick hturn hdue (List.Subset.trans hothers hstarted)

/-- A definition with a least interval of one minute. -/
def sizeEachMinute (request : String) : Definition :=
  { context := "size", helps := [("value", "")], request, scrapeInterval := "1m" }

/-- An empty file for the defaults, and a source with this definition. -/
def minuteSource (request : String) : FileTree :=
  [(["defaults.toml"], .file []),
    (["source.toml"], .file (Text.encode ("[[metric]]\ncontext=\"size\"\nrequest=\"" ++ request ++
      "\"\nmetricsdesc=\x7bvalue=\"\"\x7d\nscrapeinterval=\"1m\"")))]

/-- A new exporter with this source. -/
def replacedSource : Exporter Scripted.DatabaseState where
  database := { rows := [("old", [[("value", "7")]]), ("new", [[("value", "8")]])] }
  store := { sources := ["source.toml"], defaults := some "defaults.toml", definitions := [] }

/-- A scheduled cycle completes, one fails when it finds a broken source, and one finds the
definition replaced. -/
def replacingCycles : List Cycle :=
  [⟨minuteSource "old", 100, some 100, .inTurn⟩, ⟨brokenSource, 120, some 120, .inTurn⟩,
    ⟨minuteSource "new", 130, some 130, .inTurn⟩]

/-- The exporter after these cycles. -/
def afterReplacing : Clocked (Exporter Scripted.DatabaseState) :=
  afterCycles Scripted.database replacingCycles ⟨0, replacedSource⟩

/-- Half a minute after the definition was replaced, the old one is forgotten; the new one is left
out and gives the samples of its own run. -/
theorem remembers_active_runs_replacedSource :
    let c : Cycle := ⟨minuteSource "new", 160, some 160, .inTurn⟩
    replacedSource.ledger = {} ∧ (∀ c ∈ replacingCycles, c.order.Lawful) ∧ c.order.Lawful ∧
    afterReplacing.inner.ledger.RemembersOnly [sizeEachMinute "new"] [100, 120, 130] ∧
    afterReplacing.inner.ledger.lastRun = [("size|new", 130)] ∧
    started Scripted.database c.order (c.enter afterReplacing) = [sizeEachMinute "new"] ∧
    (prepared Scripted.database (c.enter afterReplacing)).inner.ledger.isDue
      (sizeEachMinute "new") c.tick = .ok false ∧
    (run (task Scripted.database c.tick (sizeEachMinute "new"))
      (prepared Scripted.database (c.enter afterReplacing))).result =
      .ok [{ name := "oracledb_size_value", kind := .gauge, value := 8 }] := by
  intro c
  have hnew : (⟨0, replacedSource⟩ : Clocked (Exporter Scripted.DatabaseState)).inner.ledger = {} :=
    rfl
  have horders : ∀ c ∈ replacingCycles, c.order.Lawful := by
    intro c hc
    simp only [replacingCycles, List.mem_cons, List.not_mem_nil, or_false] at hc
    obtain rfl | rfl | rfl := hc <;> exact TaskOrder.lawful_inTurn
  have hcomputed : afterReplacing.inner.store.definitions = [sizeEachMinute "new"] ∧
      afterReplacing.inner.ledger.lastRun = [("size|new", 130)] ∧
      started Scripted.database c.order (c.enter afterReplacing) = [sizeEachMinute "new"] ∧
      (prepared Scripted.database (c.enter afterReplacing)).inner.ledger.isDue
        (sizeEachMinute "new") c.tick = .ok false ∧
      (prepared Scripted.database (c.enter afterReplacing)).inner.ledger.lastSamples.find?
          (sizeEachMinute "new").identity =
        some [{ name := "oracledb_size_value", kind := .gauge, value := 8 }] := by
    decide +kernel
  obtain ⟨hactive, hlastRun, hstarted, hnot, hremembered⟩ := hcomputed
  obtain ⟨hruns, -, -, hleftOut⟩ :=
    remembers_active_runs Scripted.database hnew replacingCycles horders
  rw [← afterReplacing, hactive] at hruns
  -- no task runs before the only one
  have hdue : (afterTasks Scripted.database c.tick []
      (prepared Scripted.database (c.enter afterReplacing))).inner.ledger.isDue
        (sizeEachMinute "new") c.tick = .ok false := by
    rw [afterTasks]
    exact hnot
  obtain ⟨⟨samples, hsamples, hgiven⟩, -⟩ :=
    hleftOut c TaskOrder.lawful_inTurn [] [] (sizeEachMinute "new") hstarted hdue
  rw [afterTasks, ← afterReplacing] at hsamples hgiven
  obtain rfl := Option.some.inj (hsamples.symm.trans hremembered)
  refine ⟨rfl, horders, TaskOrder.lawful_inTurn, hruns, hlastRun, hstarted, hnot, ?_⟩
  rw [hgiven (by decide)]

end Exporter

end QueryMetrics
