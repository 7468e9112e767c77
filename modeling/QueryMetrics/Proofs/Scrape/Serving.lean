import QueryMetrics.Proofs.Scrape.Abort

/-!
# What a scheduled exporter serves

A scheduled exporter stores the families of every scheduled cycle that succeeds, as a whole, and
serves what it stored last. Whatever it is used for in between, only such a cycle changes what is
served (`Use.served_after`), so that after any uses this is the last of all that was stored
(`Exporter.served_afterUses`).

To collect, to describe, to register and to write the metrics are to read: the exporter stays as it
is. Nothing that it answers later depends on whether it was read before (`Exporter.answers_after`).
-/

namespace QueryMetrics

open QueryMetrics.Action

namespace Exporter

variable {δ : Type} (db : Database δ)

/-- No cycle changes what is stored. -/
theorem snapshot_scrape (order : TaskOrder) (tick : Option Binary64) (s : Clocked (Exporter δ)) :
    (run (scrape db order tick) s).state.inner.snapshot = s.inner.snapshot := by
  obtain ⟨ledger, -, hinner⟩ := exists_inner_scrape db order tick s
  have hprepared : (prepared db s).inner.snapshot = s.inner.snapshot := by
    rw [prepared]
    split
    · rw [inner_refreshed]
    · rw [inner_pinged]
      rfl
  rw [hinner]
  exact (undisturbed_afterTasks db tick _ _).snapshot.trans hprepared

/-- The families that a scheduled exporter serves. -/
def served? (s : Clocked (Exporter δ)) : Option (List Family) := s.inner.snapshot.map Snapshot.items

variable {db} {order : TaskOrder} {s : Clocked (Exporter δ)} {shown : List Family}

theorem scheduled_of_served? (h : served? s = some shown) : s.inner.scheduled = true := by
  obtain ⟨snapshot, hsnapshot, -⟩ := Option.map_eq_some_iff.mp h
  rw [scheduled, hsnapshot]
  rfl

/-! ### Readers -/

/-- The exporter serves these families, in whichever way it is read, and does nothing else. -/
structure Serves (db : Database δ) (order : TaskOrder) (s : Clocked (Exporter δ))
    (shown : List Family) : Prop where
  collect : run (collect db order) s = ⟨.ok shown, s, []⟩
  describe : run (describe db order) s =
    ⟨.ok (shown.map fun family => { family with points := [] }), s, []⟩
  register : run (register db order) s = ⟨.ok (), s, [.registered true]⟩
  exposition : run (exposition db order) s =
    ⟨(Exposition.text shown).mapError .exposition, s, []⟩

theorem serves_of_served? (h : served? s = some shown) : Serves db order s shown := by
  obtain ⟨snapshot, hsnapshot, hitems⟩ := Option.map_eq_some_iff.mp h
  have hcollect : run (Exporter.collect db order) s = ⟨.ok shown, s, []⟩ := by
    rw [run_collect_of_stored hsnapshot, hitems]
  have hdescribe : run (Exporter.describe db order) s =
      ⟨.ok (shown.map fun family => { family with points := [] }), s, []⟩ := by
    rw [run_describe, hcollect]
    rfl
  refine ⟨hcollect, hdescribe, ?_, ?_⟩
  · have hmode := scheduled_of_served? h
    simp only [Exporter.register, run_bind, hdescribe, run_part, hmode, run_report,
      List.nil_append]
  · rw [run_exposition, hcollect]
    rfl

end Exporter

open Exporter

namespace Use

variable {δ : Type} (db : Database δ)

/-- The use only asks for what there is. -/
def reads : Use δ → Bool
  | .scrape _ => false
  | .scrapeIntoSnapshot _ => false
  | .collect _ => true
  | .describe _ => true
  | .register _ => true
  | .exposition _ => true
  | .elsewhere _ => false

/-- The families that a use stores: those of a scheduled cycle that succeeds. -/
def stored? : Use δ → Clocked (Exporter δ) → Option (List Family)
  | .scrapeIntoSnapshot c, s =>
    (run (Exporter.scrape db c.order c.tick) (c.enter s)).result.toOption
  | _, _ => none

/-- A use that reads leaves a scheduled exporter as it is, but for the moment. -/
theorem after_of_reads {use : Use δ} {s : Clocked (Exporter δ)} {shown : List Family}
    (hreads : use.reads = true) (h : served? s = some shown) :
    ∃ c : Cycle, use.after db s = c.enter s := by
  have hserves : ∀ c : Cycle, Serves db c.order (c.enter s) shown := fun c => serves_of_served? h
  cases use with
  | scrape c => cases hreads
  | scrapeIntoSnapshot c => cases hreads
  | collect c => exact ⟨c, by rw [after, (hserves c).collect]⟩
  | describe c => exact ⟨c, by rw [after, (hserves c).describe]⟩
  | register c => exact ⟨c, by rw [after, (hserves c).register]⟩
  | exposition c => exact ⟨c, by rw [after, (hserves c).exposition]⟩
  | elsewhere change => cases hreads

/-- **The step of a use.** What is served changes if the use stores families, and then to these. -/
theorem served_after {use : Use δ} {s : Clocked (Exporter δ)} {shown : List Family}
    (h : served? s = some shown) :
    served? (use.after db s) = some ((use.stored? db s).getD shown) := by
  have hreader : ∀ {reader : Use δ}, reader.reads = true →
      served? (reader.after db s) = some shown := by
    intro reader hreads
    obtain ⟨c, hafter⟩ := reader.after_of_reads db hreads h
    rw [hafter]
    exact h
  have hscrape : ∀ (c : Cycle) (tick : Option Binary64),
      served? (run (Exporter.scrape db c.order tick) (c.enter s)).state = some shown := by
    intro c tick
    rw [served?, snapshot_scrape]
    exact h
  cases use with
  | scrape c => exact hscrape c c.tick
  | scrapeIntoSnapshot c =>
    have hmode : (c.enter s).inner.scheduled = true := scheduled_of_served? h
    rw [after, stored?]
    cases hresult : (run (Exporter.scrape db c.order c.tick) (c.enter s)).result with
    | error failure =>
      rw [run_scrapeIntoSnapshot_of_error hmode hresult]
      exact hscrape c c.tick
    | ok families =>
      obtain ⟨old, hold, -⟩ := Option.map_eq_some_iff.mp (hscrape c c.tick)
      rw [run_scrapeIntoSnapshot_of_ok hmode hresult, served?, storing, hold]
      rfl
  | collect c => exact hreader rfl
  | describe c => exact hreader rfl
  | register c => exact hreader rfl
  | exposition c => exact hreader rfl
  | elsewhere change => exact h

/-- What others do to the database is done at the moment of before. What else a use does begins with
the moment of its own. -/
theorem after_enter (use : Use δ) (c : Cycle) (s : Clocked (Exporter δ)) :
    use.after db (c.enter s) = use.after db s ∨
      use.after db (c.enter s) = c.enter (use.after db s) := by
  cases use with
  | elsewhere change => exact .inr rfl
  | scrape _ | scrapeIntoSnapshot _ | collect _ | describe _ | register _ | exposition _ =>
    exact .inl rfl

theorem answer_enter (use : Use δ) (c : Cycle) (s : Clocked (Exporter δ)) :
    use.answer db (c.enter s) = use.answer db s := by
  cases use <;> rfl

end Use

namespace Exporter

variable {δ : Type} (db : Database δ)

/-! ### Runs -/

/-- All that uses store, from the first to the last. -/
def storedBy : List (Use δ) → Clocked (Exporter δ) → List (List Family)
  | [], _ => []
  | use :: rest, s => (use.stored? db s).toList ++ storedBy rest (use.after db s)

/-- What uses store last; nothing before the first. -/
def lastStored (uses : List (Use δ)) (s : Clocked (Exporter δ)) : List Family :=
  (storedBy db uses s).getLast?.getD []

/-- What uses answer. -/
def answers : List (Use δ) → Clocked (Exporter δ) → List Answer
  | [], _ => []
  | use :: rest, s => use.answer db s :: answers rest (use.after db s)

theorem storedBy_concat (past : List (Use δ)) (use : Use δ) (s : Clocked (Exporter δ)) :
    storedBy db (past ++ [use]) s =
      storedBy db past s ++ (use.stored? db (afterUses db past s)).toList := by
  induction past generalizing s with
  | nil => exact List.append_nil _
  | cons first rest ih =>
    rw [List.cons_append, storedBy, ih, storedBy, List.append_assoc, afterUses]

/-- **Runs.** After any uses, what is served is what they stored last. -/
theorem served_afterUses (uses : List (Use δ)) {s : Clocked (Exporter δ)} {shown : List Family}
    (h : served? s = some shown) :
    served? (afterUses db uses s) = some ((storedBy db uses s).getLast?.getD shown) := by
  induction uses generalizing s shown with
  | nil => exact h
  | cons use rest ih =>
    -- the rest begins with what the first use has left to be served
    have hrest := ih (use.served_after db h)
    rw [afterUses, hrest, storedBy, List.getLast?_append]
    cases (storedBy db rest (use.after db s)).getLast? with
    | some last => rfl
    | none => cases use.stored? db s <;> rfl

/-- The moment of before matters to no answer. -/
theorem answers_enter (uses : List (Use δ)) (c : Cycle) (s : Clocked (Exporter δ)) :
    answers db uses (c.enter s) = answers db uses s := by
  induction uses generalizing s with
  | nil => rfl
  | cons use rest ih =>
    rw [answers, answers, use.answer_enter]
    obtain hsame | hlater := use.after_enter db c s
    · rw [hsame]
    · rw [hlater, ih]

/-- Reading a scheduled exporter changes no later answer. -/
theorem answers_after {use : Use δ} {s : Clocked (Exporter δ)} {shown : List Family}
    (hreads : use.reads = true) (h : served? s = some shown) (later : List (Use δ)) :
    answers db later (use.after db s) = answers db later s := by
  obtain ⟨c, hafter⟩ := use.after_of_reads db hreads h
  rw [hafter, answers_enter]

/-- **A scheduled exporter serves what was stored last.** After any uses of a new scheduled
exporter, however it is read, it gives the families that the last successful scheduled cycle gave,
all of them in their order, and nothing before the first; the database is not asked, and the
exporter stays as it is. A scheduled cycle that fails leaves what is served as it was, and one that
succeeds is told the number of the families that are served from then on. No reading changes any
later answer. -/
theorem serves_lastStored {settings : ScrapeSettings} {files : FileTree} {store : DefinitionStore}
    {database : δ} {exporter : Exporter δ}
    (hnew : create settings files store database true = .ok exporter) (clock : Binary64)
    (past : List (Use δ)) :
    let new : Clocked (Exporter δ) := ⟨clock, exporter⟩
    let s := afterUses db past new
    let shown := lastStored db past new
    (∀ c : Cycle, Serves db c.order (c.enter s) shown ∧
      Serves db.watched c.order (watched (c.enter s)) shown) ∧
    (∀ c : Cycle,
      let cycle := (run (scrape db c.order c.tick) (c.enter s)).result
      let stored := (run (scrapeIntoSnapshot db c.order c.tick) (c.enter s)).result
      let next := lastStored db (past ++ [.scrapeIntoSnapshot c]) new
      (∃ failure, cycle = .error failure ∧ stored = .error failure ∧ next = shown) ∨
        (∃ families, cycle = .ok families ∧ stored = .ok families.length ∧ next = families)) ∧
    (∀ reader : Use δ, reader.reads = true → ∀ later : List (Use δ),
      answers db later (reader.after db s) = answers db later s) := by
  intro new s shown
  have hempty : served? new = some [] := by
    rw [create] at hnew
    split at hnew
    · cases hnew
    · cases hnew
      rfl
  have hserved : served? s = some shown := served_afterUses db past hempty
  refine ⟨fun c => ⟨serves_of_served? hserved, serves_of_served? hserved⟩, ?_,
    fun reader hreads later => answers_after db hreads hserved later⟩
  intro c cycle stored next
  have hmode : (c.enter s).inner.scheduled = true := scheduled_of_served? hserved
  have hnext : next = ((storedBy db past new ++ cycle.toOption.toList).getLast?).getD [] := by
    change lastStored db (past ++ [.scrapeIntoSnapshot c]) new = _
    rw [lastStored, storedBy_concat]
    rfl
  cases hcycle : cycle with
  | error failure =>
    refine .inl ⟨failure, rfl, ?_, ?_⟩
    · exact congrArg Ran.result (run_scrapeIntoSnapshot_of_error hmode hcycle)
    · rw [hnext, hcycle, Except.toOption, Option.toList_none, List.append_nil]
      rfl
  | ok families =>
    refine .inr ⟨families, rfl, ?_, ?_⟩
    · exact congrArg Ran.result (run_scrapeIntoSnapshot_of_ok hmode hcycle)
    · rw [hnext, hcycle, Except.toOption, Option.toList_some, List.getLast?_concat]
      rfl

/-- After a cycle that stores families and one that fails, those of the first are served. -/
theorem serves_lastStored_brokenSource :
    let exporter := { twoFailures with snapshot := some {} }
    let past := [.scrapeIntoSnapshot (scheduledWith [] 100),
      .collect (scheduledWith [] 130), .scrapeIntoSnapshot (scheduledWith brokenSource 160)]
    let new : Clocked (Exporter Scripted.DatabaseState) := ⟨0, exporter⟩
    let s := afterUses Scripted.database past new
    let c := cycleWith brokenSource
    create {} [] twoFailures.store twoFailures.database true = .ok exporter ∧
    ∃ shown : List Family,
      run (collect Scripted.database c.order) (c.enter s) = ⟨.ok shown, c.enter s, []⟩ ∧
      shown.map Family.name = ["oracledb_answered_value",
        "oracledb_exporter_last_scrape_duration_seconds", "oracledb_exporter_scrapes",
        "oracledb_exporter_last_scrape_error", "oracledb_exporter_scrape_errors", "oracledb_up",
        "oracledb_dbtype"] ∧
      s.inner.ledger.scrapes = 2 := by
  intro exporter past new s c
  have htimeout : ¬({} : ScrapeSettings).queryTimeout ≤ 0 := by decide +kernel
  have hnew : create {} [] twoFailures.store twoFailures.database true = .ok exporter := by
    rw [create, if_neg htimeout]
    rfl
  have hscrapes : s.inner.ledger.scrapes = 2 := by decide +kernel
  obtain ⟨hserves, -, -⟩ := serves_lastStored Scripted.database hnew 0 past
  exact ⟨hnew, _, (hserves c).1.collect, by decide +kernel, hscrapes⟩

end Exporter

end QueryMetrics
