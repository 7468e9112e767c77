import QueryMetrics.Metric.Exposition
import QueryMetrics.Scrape.Cycle

/-!
# Collecting

Families are collected in one of two modes. **On demand**, every collection runs a cycle.
**Scheduled**, a timer runs the cycles and stores their results, and a collection only reads the
last result; before the first one it is empty.
-/

namespace QueryMetrics

namespace Exporter

variable {δ : Type}

/-- A timer runs the cycles. -/
def scheduled (exporter : Exporter δ) : Bool := exporter.snapshot.isSome

/-- The families to expose. -/
def collect (db : Database δ) (order : TaskOrder) : ExporterAction δ (List Family) := do
  match ← part (·.snapshot) with
  | some snapshot => pure snapshot.items
  | none => scrape db order none

/-- The families of one collection without their points. -/
def describe (db : Database δ) (order : TaskOrder) : ExporterAction δ (List Family) := do
  let families ← collect db order
  pure (families.map fun family => { family with points := [] })

/-- Makes the exporter known, which takes one collection. -/
def register (db : Database δ) (order : TaskOrder) : ExporterAction δ Unit := do
  let _ ← describe db order
  let mode ← part scheduled
  Action.report [.registered mode]

/-- Runs a cycle and stores its result; gives the number of families. The timer gives a tick;
without one the cycle runs every definition. -/
def scrapeIntoSnapshot (db : Database δ) (order : TaskOrder) (tick : Option Binary64) :
    ExporterAction δ Nat := do
  match ← part (·.snapshot) with
  | none => Action.fail .noSnapshot
  | some _ =>
    let families ← scrape db order tick
    let stored ← now
    update fun exporter =>
      { exporter with snapshot := exporter.snapshot.map fun old => old.replace families stored }
    pure families.length

/-- The text of one collection. -/
def exposition (db : Database δ) (order : TaskOrder) : ExporterAction δ String := do
  let families ← collect db order
  Action.ofExcept ((Exposition.text families).mapError .exposition)

end Exporter

end QueryMetrics
