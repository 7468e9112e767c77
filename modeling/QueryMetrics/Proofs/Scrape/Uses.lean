import QueryMetrics.Proofs.Scrape.Collector
import QueryMetrics.Proofs.Scrape.Isolation

/-!
# Uses of an exporter

An exporter is used in several ways: a cycle is run, with or without its result being stored, the
families are collected or described, the metrics are asked for as a text, the exporter is
registered. A run is any list of such uses, each in a cycle of its own; between them the files
change, time passes, and others may do what they like to the database (`Use.elsewhere`).

Only cycles change what an exporter remembers (`Use.ledger_after`), so whatever every cycle keeps
holds after any uses of a new exporter.
-/

namespace QueryMetrics

open QueryMetrics.Action

/-- A use of an exporter whose database has states `δ`. A use that is no cycle of its own, or runs
one on demand, is not told the tick. -/
inductive Use (δ : Type) where
  | scrape (c : Cycle)
  | scrapeIntoSnapshot (c : Cycle)
  | collect (c : Cycle)
  | describe (c : Cycle)
  | register (c : Cycle)
  /-- The metrics are requested. -/
  | exposition (c : Cycle)
  /-- Others do something to the database. -/
  | elsewhere (change : δ → δ)

/-- What a use gives. -/
inductive Answer where
  | families (result : Except Failure (List Family))
  | count (result : Except Failure Nat)
  | text (result : Except Failure String)
  | done (result : Except Failure Unit)

namespace Exporter

variable {δ : Type} {db : Database δ} {order : TaskOrder} {s : Clocked (Exporter δ)}

/-- A collection leaves a scheduled exporter as it is, and is a cycle of another one. -/
theorem state_collect (db : Database δ) (order : TaskOrder) (s : Clocked (Exporter δ)) :
    (run (collect db order) s).state = s ∨
      (run (collect db order) s).state = (run (scrape db order none) s).state := by
  cases hmode : s.inner.scheduled with
  | false => exact .inr (by rw [run_collect_of_onDemand hmode])
  | true =>
    obtain ⟨snapshot, hsnapshot⟩ := Option.isSome_iff_exists.mp hmode
    exact .inl (by rw [run_collect_of_stored hsnapshot])

/-- To describe the families takes a collection. -/
theorem run_describe :
    run (describe db order) s =
      let ran := run (collect db order) s
      ⟨ran.result.map (·.map fun family => { family with points := [] }), ran.state, ran.events⟩ :=
  run_map _ (collect db order) s

/-- To write the metrics takes a collection. -/
theorem run_exposition :
    run (exposition db order) s =
      let ran := run (collect db order) s
      ⟨ran.result.bind fun families => (Exposition.text families).mapError .exposition,
        ran.state, ran.events⟩ := by
  rw [exposition]
  cases h : (run (collect db order) s).result with
  | error failure =>
    dsimp only
    rw [run_bind_error h, h]
    rfl
  | ok families =>
    dsimp only
    rw [run_bind_ok h, run_ofExcept, List.append_nil, h]
    rfl

/-- An exporter on demand has nowhere to store a result. -/
theorem run_scrapeIntoSnapshot_of_onDemand {tick : Option Binary64}
    (hmode : s.inner.scheduled = false) :
    run (scrapeIntoSnapshot db order tick) s = ⟨.error .noSnapshot, s, []⟩ := by
  have hsnapshot : s.inner.snapshot = none := by
    rw [scheduled] at hmode
    simpa using hmode
  simp only [scrapeIntoSnapshot, run_bind, run_part, hsnapshot, run_fail, List.nil_append]

/-- Storing the result of a cycle changes nothing that is remembered. -/
theorem ledger_scrapeIntoSnapshot (db : Database δ) (order : TaskOrder) (tick : Option Binary64)
    (s : Clocked (Exporter δ)) :
    (run (scrapeIntoSnapshot db order tick) s).state.inner.ledger = s.inner.ledger ∨
      (run (scrapeIntoSnapshot db order tick) s).state.inner.ledger =
        (run (scrape db order tick) s).state.inner.ledger := by
  cases hmode : s.inner.scheduled with
  | false =>
    rw [run_scrapeIntoSnapshot_of_onDemand hmode]
    exact .inl rfl
  | true =>
    refine .inr ?_
    cases h : (run (scrape db order tick) s).result with
    | error failure => rw [run_scrapeIntoSnapshot_of_error hmode h]
    | ok families =>
      rw [run_scrapeIntoSnapshot_of_ok hmode h]
      rfl

end Exporter

open Exporter

namespace Use

variable {δ : Type} (db : Database δ)

/-- The exporter after a use. -/
def after : Use δ → Clocked (Exporter δ) → Clocked (Exporter δ)
  | .scrape c, s => (run (Exporter.scrape db c.order c.tick) (c.enter s)).state
  | .scrapeIntoSnapshot c, s =>
    (run (Exporter.scrapeIntoSnapshot db c.order c.tick) (c.enter s)).state
  | .collect c, s => (run (Exporter.collect db c.order) (c.enter s)).state
  | .describe c, s => (run (Exporter.describe db c.order) (c.enter s)).state
  | .register c, s => (run (Exporter.register db c.order) (c.enter s)).state
  | .exposition c, s => (run (Exporter.exposition db c.order) (c.enter s)).state
  | .elsewhere change, s => ⟨s.clock, { s.inner with database := change s.inner.database }⟩

/-- What a use gives. -/
def answer : Use δ → Clocked (Exporter δ) → Answer
  | .scrape c, s => .families (run (Exporter.scrape db c.order c.tick) (c.enter s)).result
  | .scrapeIntoSnapshot c, s =>
    .count (run (Exporter.scrapeIntoSnapshot db c.order c.tick) (c.enter s)).result
  | .collect c, s => .families (run (Exporter.collect db c.order) (c.enter s)).result
  | .describe c, s => .families (run (Exporter.describe db c.order) (c.enter s)).result
  | .register c, s => .done (run (Exporter.register db c.order) (c.enter s)).result
  | .exposition c, s => .text (run (Exporter.exposition db c.order) (c.enter s)).result
  | .elsewhere _, _ => .done (.ok ())

/-- What is remembered after a use is what was remembered before, or what a cycle has left. -/
theorem ledger_after (use : Use δ) (s : Clocked (Exporter δ)) :
    (use.after db s).inner.ledger = s.inner.ledger ∨
      ∃ (c : Cycle) (tick : Option Binary64), (use.after db s).inner.ledger =
        (run (Exporter.scrape db c.order tick) (c.enter s)).state.inner.ledger := by
  have hcollect : ∀ c : Cycle,
      (run (Exporter.collect db c.order) (c.enter s)).state.inner.ledger = s.inner.ledger ∨
        ∃ (c' : Cycle) (tick : Option Binary64),
          (run (Exporter.collect db c.order) (c.enter s)).state.inner.ledger =
            (run (Exporter.scrape db c'.order tick) (c'.enter s)).state.inner.ledger := by
    intro c
    obtain hsame | hcycle := state_collect db c.order (c.enter s)
    · exact .inl (by rw [hsame]; rfl)
    · exact .inr ⟨c, none, by rw [hcycle]⟩
  cases use with
  | scrape c => exact .inr ⟨c, c.tick, rfl⟩
  | scrapeIntoSnapshot c =>
    obtain hsame | hcycle := ledger_scrapeIntoSnapshot db c.order c.tick (c.enter s)
    · exact .inl hsame
    · exact .inr ⟨c, c.tick, hcycle⟩
  | collect c => exact hcollect c
  | describe c =>
    rw [after, run_describe]
    exact hcollect c
  | register c =>
    rw [after, state_register]
    exact hcollect c
  | exposition c =>
    rw [after, run_exposition]
    exact hcollect c
  | elsewhere change => exact .inl rfl

end Use

namespace Exporter

variable {δ : Type} (db : Database δ)

/-- The exporter after uses. -/
def afterUses : List (Use δ) → Clocked (Exporter δ) → Clocked (Exporter δ)
  | [], s => s
  | use :: rest, s => afterUses rest (use.after db s)

/-- What is remembered stays fully labelled, whatever an exporter is used for. -/
theorem fullyLabelled_afterUses (uses : List (Use δ)) {s : Clocked (Exporter δ)}
    (h : s.inner.ledger.FullyLabelled) : (afterUses db uses s).inner.ledger.FullyLabelled := by
  induction uses generalizing s with
  | nil => exact h
  | cons use rest ih =>
    refine ih ?_
    obtain hsame | ⟨c, tick, hcycle⟩ := use.ledger_after db s
    · rwa [hsame]
    · rw [hcycle]
      exact fullyLabelled_scrape db c.order tick (s := c.enter s) h

/-- The samples of a cycle can be grouped if everything that is remembered is fully labelled. -/
theorem exists_grouping {order : TaskOrder} (tick : Option Binary64) {s : Clocked (Exporter δ)}
    (h : s.inner.ledger.FullyLabelled) (horder : order.Lawful) :
    ∃ grouping,
      Grouping.ofSamples ((collected db order tick s).flatMap Outcome.samples) = .ok grouping := by
  have hlabelled : ∀ sample ∈ (collected db order tick s).flatMap Outcome.samples,
      sample.FullyLabelled := by
    intro sample hsample
    obtain ⟨outcome, houtcome, hmem⟩ := List.mem_flatMap.mp hsample
    exact fullyLabelled_outcomes db tick _ (fullyLabelled_prepared db h) outcome
      ((horder.collecting _).mem_iff.mp houtcome) sample hmem
  exact ⟨_, Grouping.ofSamples_eq_described hlabelled⟩

end Exporter

end QueryMetrics
