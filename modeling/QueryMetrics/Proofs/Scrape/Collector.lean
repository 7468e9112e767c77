import QueryMetrics.Proofs.Scrape.Cycle
import QueryMetrics.Scrape.Collector

/-!
# What a collection does

On demand a collection is a cycle without a tick. A scheduled exporter takes a cycle into its
snapshot, and a collection gives what is stored there and changes nothing.
-/

namespace QueryMetrics

open QueryMetrics.Action

namespace Exporter

variable {δ : Type} {db : Database δ} {order : TaskOrder} {tick : Option Binary64}
  {s : Clocked (Exporter δ)}

/-- A collection on demand is a cycle without a tick. -/
theorem run_collect_of_onDemand (hmode : s.inner.scheduled = false) :
    run (collect db order) s = run (scrape db order none) s := by
  have hsnapshot : s.inner.snapshot = none := by
    rw [scheduled] at hmode
    simpa using hmode
  simp only [collect, run_bind, run_part, hsnapshot, List.nil_append]

/-- A scheduled collection gives what is stored and changes nothing. -/
theorem run_collect_of_stored {snapshot : Snapshot Family} (h : s.inner.snapshot = some snapshot) :
    run (collect db order) s = ⟨.ok snapshot.items, s, []⟩ := by
  simp only [collect, run_bind, run_part, h, run_pure, List.append_nil]

/-- A scheduled scrape fails as its cycle does. -/
theorem run_scrapeIntoSnapshot_of_error {failure : Failure} (hmode : s.inner.scheduled = true)
    (h : (run (scrape db order tick) s).result = .error failure) :
    run (scrapeIntoSnapshot db order tick) s =
      ⟨.error failure, (run (scrape db order tick) s).state,
        (run (scrape db order tick) s).events⟩ := by
  obtain ⟨snapshot, hsnapshot⟩ := Option.isSome_iff_exists.mp hmode
  simp only [scrapeIntoSnapshot, run_bind, run_part, hsnapshot, h, List.nil_append]

/-- The state of an exporter that stores families in its snapshot, if it has one. -/
def storing (families : List Family) (s : Clocked (Exporter δ)) : Clocked (Exporter δ) :=
  ⟨s.clock, { s.inner with
    snapshot := s.inner.snapshot.map fun old => old.replace families s.clock }⟩

/-- A scheduled scrape stores the families of its cycle. -/
theorem run_scrapeIntoSnapshot_of_ok {families : List Family} (hmode : s.inner.scheduled = true)
    (h : (run (scrape db order tick) s).result = .ok families) :
    run (scrapeIntoSnapshot db order tick) s =
      ⟨.ok families.length, storing families (run (scrape db order tick) s).state,
        (run (scrape db order tick) s).events⟩ := by
  obtain ⟨snapshot, hsnapshot⟩ := Option.isSome_iff_exists.mp hmode
  simp only [scrapeIntoSnapshot, run_bind, run_part, hsnapshot, h, run_now, List.nil_append]
  exact congrArg _ (List.append_nil _)

/-- The text of a collection on demand fails as its cycle does. -/
theorem run_exposition_of_error {failure : Failure} (hmode : s.inner.scheduled = false)
    (h : (run (scrape db order none) s).result = .error failure) :
    run (exposition db order) s =
      ⟨.error failure, (run (scrape db order none) s).state,
        (run (scrape db order none) s).events⟩ := by
  rw [← run_collect_of_onDemand hmode] at h ⊢
  rw [exposition, run_bind_error h]

/-- To register an exporter takes a collection. -/
theorem state_register :
    (run (register db order) s).state = (run (collect db order) s).state := by
  rw [register, describe]
  cases hcollect : (run (collect db order) s).result with
  | error failure => simp [run_bind, hcollect]
  | ok families => simp [run_bind, hcollect]

end Exporter

end QueryMetrics
