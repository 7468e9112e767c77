import QueryMetrics.Definition.Basic

/-!
# Definitions without problems

What later stages may rely on when `Definition.problems` is empty: both durations of the definition
can be read, every column is of a kind, declared or not, and every histogram has buckets.
-/

namespace QueryMetrics.Definition

variable {d : Definition}

private theorem not_isBadDuration_of_problems_eq_nil (h : d.problems = []) :
    isBadDuration d.queryTimeout = false ∧ isBadDuration d.scrapeInterval = false := by
  simp only [problems, List.append_eq_nil_iff] at h
  obtain ⟨⟨-, htimeout⟩, hinterval⟩ := h
  constructor
  · cases hbad : isBadDuration d.queryTimeout with
    | false => rfl
    | true => simp [hbad] at htimeout
  · cases hbad : isBadDuration d.scrapeInterval with
    | false => rfl
    | true => simp [hbad] at hinterval

/-- A text that is given and is no bad duration can be read. -/
private theorem exists_parseDuration {text : String} (h : isBadDuration text = false)
    (hgiven : text.isEmpty = false) : ∃ seconds, parseDuration text = .ok seconds := by
  rw [isBadDuration] at h
  cases hparse : parseDuration text with
  | ok seconds => exact ⟨seconds, rfl⟩
  | error fault => simp [hparse, hgiven, Except.isOk, Except.toBool] at h

/-- The time for the query is known, whatever the default is. -/
theorem exists_timeout (h : d.problems = []) (default : Binary64) :
    ∃ seconds, d.timeout default = .ok seconds := by
  rw [timeout]
  cases hgiven : d.queryTimeout.isEmpty with
  | true => exact ⟨default, rfl⟩
  | false => exact exists_parseDuration (not_isBadDuration_of_problems_eq_nil h).1 hgiven

/-- The least interval is known, or there is none. -/
theorem exists_minInterval (h : d.problems = []) : ∃ interval, d.minInterval = .ok interval := by
  rw [minInterval]
  cases hgiven : d.scrapeInterval.isEmpty with
  | true => exact ⟨none, rfl⟩
  | false =>
    obtain ⟨seconds, hseconds⟩ :=
      exists_parseDuration (not_isBadDuration_of_problems_eq_nil h).2 hgiven
    exact ⟨some seconds, by simp [hseconds, Except.map]⟩

/-- No declared kind has a problem. -/
private theorem kindProblem?_of_problems_eq_nil (h : d.problems = []) {entry : String × String}
    (hentry : entry ∈ d.kinds) : d.kindProblem? entry.1 entry.2 = none := by
  simp only [problems, List.append_eq_nil_iff] at h
  obtain ⟨⟨⟨-, hkinds⟩, -⟩, -⟩ := h
  exact List.filterMap_eq_nil_iff.mp hkinds entry hentry

/-- Every column is of a kind, whether it is declared or not, and if it is a histogram it has
buckets. -/
theorem exists_kind (h : d.problems = []) (column : String) :
    ∃ kind, Kind.ofWord? (d.kindOf column) = some kind ∧
      (kind = .histogram → (d.buckets.find? column).isSome) := by
  cases hdeclared : d.kinds.find? column with
  | none =>
    refine ⟨.gauge, ?_, nofun⟩
    rw [kindOf, hdeclared]
    exact Kind.ofWord?_word .gauge
  | some word =>
    have hkind : d.kindOf column = word := by rw [kindOf, hdeclared, Option.getD_some]
    have hnone := kindProblem?_of_problems_eq_nil h (Entries.mem_of_find? hdeclared)
    rw [hkind]
    unfold kindProblem? at hnone
    cases hword : Kind.ofWord? word with
    | none => simp [hword] at hnone
    | some kind =>
      refine ⟨kind, rfl, ?_⟩
      rintro rfl
      cases hbuckets : d.buckets.find? column with
      | none => simp [hword, Entries.has, hbuckets] at hnone
      | some bounds => rfl

/-- Exactly a definition without the text of an interval has no least interval. -/
theorem minInterval_eq_none_iff : d.minInterval = .ok none ↔ d.scrapeInterval = "" := by
  rw [minInterval]
  cases hgiven : d.scrapeInterval.isEmpty with
  | true => simp [String.isEmpty_iff.mp hgiven]
  | false =>
    have hne : d.scrapeInterval ≠ "" := fun he => by simp [he] at hgiven
    cases parseDuration d.scrapeInterval <;> simp [hne, Except.map]

end QueryMetrics.Definition
