import QueryMetrics.Proofs.Connection.Fetching
import QueryMetrics.Proofs.Definition.Durations
import QueryMetrics.Proofs.Definition.Problems
import QueryMetrics.Scrape.Ledger

/-!
# Durations that can be used

The two durations of a definition are used far from where they are read: the time for the query
gives the limit for round trips and the deadline, and the least interval is compared with the time
since the last run. A definition can be used (`Definition.Usable`) if its time is finite and
positive and its interval finite and not negative, so that the limit can be computed, the deadline
is not behind the clock already, and the definition comes up again.

That a definition has no problems says only that both texts can be read. Bare numbers may be
infinite, negative or no number at all, and a sum of parts may overflow or be zero. Therefore what
is left to be asked for is said of the numbers (`Definition.usable_iff`). Apart from bare numbers
nothing denotes less than zero (`Duration.literal_of_not_nonneg`), so a least interval in parts can
only be too large.
-/

namespace QueryMetrics

/-! ### Limits and deadlines -/

namespace Binary64

variable {x y : Binary64}

/-- A product is finite only if its first factor is. -/
theorem isFinite_of_mul (h : (x * y).isFinite = true) : x.isFinite = true := by
  cases x with
  | finite negative size => rfl
  | nan => cases h
  | infinite negative =>
    cases y with
    | nan => cases h
    | infinite negative' => cases h
    | finite negative' size =>
      change isFinite (if size.units = 0 then nan else infinite (negative != negative')) = true at h
      split at h <;> cases h

/-- A moment behind a positive finite span is not past when the span begins. -/
theorem not_add_lt (hpos : 0 < y) (hfinite : y.isFinite = true) (x : Binary64) : ¬ x + y < x := by
  by_cases hnan : x = nan
  · rw [hnan]
    exact Bool.eq_false_iff.mp (nan_lt _).2
  · exact not_lt_of_le (le_add_of_pos hnan hpos hfinite)

end Binary64

/-- The limit for round trips can be computed exactly if the time is finite in milliseconds. -/
theorem Link.exists_roundTripLimit_iff {timeout : Binary64} :
    (∃ limit, Link.roundTripLimit timeout = .ok limit) ↔ (timeout * 1000).isFinite = true := by
  refine ⟨?_, Link.exists_roundTripLimit⟩
  rintro ⟨limit, hlimit⟩
  unfold Link.roundTripLimit at hlimit
  cases hscaled : timeout * 1000 with
  | finite negative size => rfl
  | nan =>
    rw [hscaled] at hlimit
    cases hlimit
  | infinite negative =>
    rw [hscaled] at hlimit
    cases hlimit

namespace Definition

variable {d : Definition} {default : Binary64}

/-- The durations of a definition can be used wherever they are. -/
structure Usable (d : Definition) (default : Binary64) : Prop where
  /-- The time for the query is finite and positive. -/
  timeout : ∃ timeout, d.timeout default = .ok timeout ∧ timeout.isFinite = true ∧ 0 < timeout
  /-- There is no least interval, or it is finite and not negative. -/
  interval : ∃ interval, d.minInterval = .ok interval ∧
    ∀ span ∈ interval, span.isFinite = true ∧ 0 ≤ span
  /-- The limit for round trips can be computed. -/
  limit : ∀ timeout, d.timeout default = .ok timeout →
    ∃ limit, Link.roundTripLimit timeout = .ok limit
  /-- No query begins behind its deadline. -/
  deadline : ∀ timeout, d.timeout default = .ok timeout → ∀ clock, ¬ clock + timeout < clock
  /-- Some finite time after its last run the definition is due, and from then on. -/
  gate : ∃ span, span.isFinite = true ∧ ∀ (ledger : Ledger) (tick last : Binary64),
    ledger.lastRun.find? d.identity = some last → span ≤ tick - last →
      ledger.isDue d (some tick) = .ok true

/-- A definition is due when its least interval has passed. -/
theorem isDue_of_elapsed {ledger : Ledger} {interval tick last : Binary64}
    (hinterval : d.minInterval = .ok (some interval))
    (hlast : ledger.lastRun.find? d.identity = some last) (h : interval ≤ tick - last) :
    ledger.isDue d (some tick) = .ok true := by
  have helapsed : ledger.hasElapsed d.identity tick interval = true := by
    unfold Ledger.hasElapsed
    rw [hlast]
    exact decide_eq_true h
  rw [Ledger.isDue, hinterval]
  exact congrArg Except.ok helapsed

/-- A finite interval that is not negative does not keep the definition from being due for ever. -/
theorem gate_opens {interval : Option Binary64} (h : d.minInterval = .ok interval)
    (hinterval : ∀ span ∈ interval, span.isFinite = true ∧ 0 ≤ span) :
    ∃ span : Binary64, span.isFinite = true ∧ ∀ (ledger : Ledger) (tick last : Binary64),
      ledger.lastRun.find? d.identity = some last → span ≤ tick - last →
        ledger.isDue d (some tick) = .ok true := by
  cases interval with
  | none =>
    refine ⟨0, by decide +kernel, fun ledger tick last _ _ => ?_⟩
    rw [Ledger.isDue, h]
    rfl
  | some span =>
    obtain ⟨hfinite, -⟩ := hinterval span rfl
    exact ⟨span, hfinite, fun _ _ _ hlast helapsed => isDue_of_elapsed h hlast helapsed⟩

/-- Durations with usable values can be used. -/
theorem usable_of_values {timeout : Binary64} {interval : Option Binary64}
    (htimeout : d.timeout default = .ok timeout) (hpos : 0 < timeout)
    (hmilliseconds : (timeout * 1000).isFinite = true) (hminInterval : d.minInterval = .ok interval)
    (hinterval : ∀ span ∈ interval, span.isFinite = true ∧ 0 ≤ span) : Usable d default where
  timeout := ⟨timeout, htimeout, Binary64.isFinite_of_mul hmilliseconds, hpos⟩
  interval := ⟨interval, hminInterval, hinterval⟩
  limit := by
    intro other hother
    obtain rfl := Except.ok.inj (htimeout.symm.trans hother)
    exact Link.exists_roundTripLimit hmilliseconds
  deadline := by
    intro other hother clock
    obtain rfl := Except.ok.inj (htimeout.symm.trans hother)
    exact Binary64.not_add_lt hpos (Binary64.isFinite_of_mul hmilliseconds) clock
  gate := gate_opens hminInterval hinterval

/-- The time for the query is the default, or what the text denotes. -/
theorem timeout_cases (h : d.problems = []) (default : Binary64) :
    (d.queryTimeout = "" ∧ d.timeout default = .ok default) ∨
      (d.queryTimeout ≠ "" ∧ ∃ seconds, parseDuration d.queryTimeout = .ok seconds ∧
        d.timeout default = .ok seconds) := by
  obtain ⟨seconds, hseconds⟩ := exists_timeout h default
  rw [timeout] at hseconds ⊢
  by_cases hgiven : d.queryTimeout = ""
  · rw [if_pos (String.isEmpty_iff.mpr hgiven)]
    exact .inl ⟨hgiven, rfl⟩
  · have hnonempty : ¬ d.queryTimeout.isEmpty = true := fun he => hgiven (String.isEmpty_iff.mp he)
    rw [if_neg hnonempty] at hseconds ⊢
    exact .inr ⟨hgiven, seconds, hseconds, hseconds⟩

/-- There is no least interval, or it is what the text denotes. -/
theorem minInterval_cases (h : d.problems = []) :
    (d.scrapeInterval = "" ∧ d.minInterval = .ok none) ∨
      (d.scrapeInterval ≠ "" ∧ ∃ seconds, parseDuration d.scrapeInterval = .ok seconds ∧
        d.minInterval = .ok (some seconds)) := by
  obtain ⟨interval, hinterval⟩ := exists_minInterval h
  by_cases hgiven : d.scrapeInterval = ""
  · exact .inl ⟨hgiven, minInterval_eq_none_iff.mpr hgiven⟩
  · have hnonempty : ¬ d.scrapeInterval.isEmpty = true :=
      fun he => hgiven (String.isEmpty_iff.mp he)
    rw [minInterval, if_neg hnonempty] at hinterval ⊢
    cases hparse : parseDuration d.scrapeInterval with
    | error fault =>
      rw [hparse] at hinterval
      cases hinterval
    | ok seconds => exact .inr ⟨hgiven, seconds, rfl, rfl⟩

/-- **Durations that can be used.** With a positive default, the durations of a definition without
problems can be used exactly if the time for the query is finite in milliseconds and, if it is
given, positive, and the least interval, if there is one, is finite and not negative. -/
theorem usable_iff (h : d.problems = []) (hpos : 0 < default) :
    Usable d default ↔
      (d.queryTimeout = "" → (default * 1000).isFinite = true) ∧
      (d.queryTimeout ≠ "" → ∀ seconds, parseDuration d.queryTimeout = .ok seconds →
        0 < seconds ∧ (seconds * 1000).isFinite = true) ∧
      (d.scrapeInterval ≠ "" → ∀ seconds, parseDuration d.scrapeInterval = .ok seconds →
        seconds.isFinite = true ∧ 0 ≤ seconds) := by
  constructor
  · intro husable
    have hlimit : ∀ timeout, d.timeout default = .ok timeout →
        (timeout * 1000).isFinite = true := by
      intro timeout htimeout
      exact Link.exists_roundTripLimit_iff.mp (husable.limit timeout htimeout)
    obtain ⟨timeout, htimeout, -, hpositive⟩ := husable.timeout
    obtain ⟨interval, hinterval, hspan⟩ := husable.interval
    refine ⟨?_, ?_, ?_⟩
    · intro hempty
      obtain ⟨-, hdefault⟩ | ⟨hgiven, -⟩ := timeout_cases h default
      · exact hlimit default hdefault
      · exact absurd hempty hgiven
    · intro hgiven seconds hparse
      obtain ⟨hempty, -⟩ | ⟨-, seconds', hparse', htimeout'⟩ := timeout_cases h default
      · exact absurd hempty hgiven
      · obtain rfl := Except.ok.inj (hparse.symm.trans hparse')
        obtain rfl := Except.ok.inj (htimeout.symm.trans htimeout')
        exact ⟨hpositive, hlimit timeout htimeout⟩
    · intro hgiven seconds hparse
      obtain ⟨hempty, -⟩ | ⟨-, seconds', hparse', hinterval'⟩ := minInterval_cases h
      · exact absurd hempty hgiven
      · obtain rfl := Except.ok.inj (hparse.symm.trans hparse')
        obtain rfl := Except.ok.inj (hinterval.symm.trans hinterval')
        exact hspan seconds rfl
  · rintro ⟨hdefault, htimeout, hinterval⟩
    obtain ⟨interval, hminInterval, hspan⟩ : ∃ interval, d.minInterval = .ok interval ∧
        ∀ span ∈ interval, span.isFinite = true ∧ 0 ≤ span := by
      obtain ⟨-, hnone⟩ | ⟨hgiven, seconds, hparse, hsome⟩ := minInterval_cases h
      · refine ⟨none, hnone, ?_⟩
        intro span hmem
        cases hmem
      · refine ⟨some seconds, hsome, ?_⟩
        rintro _ ⟨⟩
        exact hinterval hgiven seconds hparse
    obtain ⟨hempty, hvalue⟩ | ⟨hgiven, seconds, hparse, hvalue⟩ := timeout_cases h default
    · exact usable_of_values hvalue hpos (hdefault hempty) hminInterval hspan
    · obtain ⟨hpositive, hmilliseconds⟩ := htimeout hgiven seconds hparse
      exact usable_of_values hvalue hpositive hmilliseconds hminInterval hspan

/-! ### Waiting in parts -/

/-- A definition that may take a minute and a half and runs every five minutes. -/
def inParts : Definition where
  helps := [("value", "Value.")]
  request := "select 1"
  queryTimeout := "1m30s"
  scrapeInterval := "5M"

theorem usable_iff_inParts :
    inParts.problems = [] ∧ 0 < (5 : Binary64) ∧ Usable inParts 5 := by
  have hproblems : inParts.problems = [] := by decide +kernel
  have hpos : 0 < (5 : Binary64) := by decide +kernel
  have htimeout : parseDuration inParts.queryTimeout = .ok 90 := by decide +kernel
  have hinterval : parseDuration inParts.scrapeInterval = .ok 300 := by decide +kernel
  refine ⟨hproblems, hpos, (usable_iff hproblems hpos).mpr ⟨?_, ?_, ?_⟩⟩
  · intro hempty
    exact absurd hempty (by decide)
  · intro _ seconds hparse
    rw [← Except.ok.inj (htimeout.symm.trans hparse)]
    decide +kernel
  · intro _ seconds hparse
    rw [← Except.ok.inj (hinterval.symm.trans hparse)]
    decide +kernel

/-- A definition whose query may take as long as no number says. -/
def timeless : Definition where
  helps := [("value", "Value.")]
  request := "select 1"
  queryTimeout := "nan"

/-- The word for what is no number is read as a time, and no problem is found with it. -/
theorem not_usable_timeless :
    timeless.problems = [] ∧ 0 < (5 : Binary64) ∧ (5 : Binary64).isFinite = true ∧
      ¬ Usable timeless 5 := by
  refine ⟨by decide +kernel, by decide +kernel, by decide +kernel, ?_⟩
  intro husable
  have hnan : timeless.timeout 5 = .ok .nan := by decide +kernel
  obtain ⟨timeout, htimeout, hfinite, -⟩ := husable.timeout
  obtain rfl := Except.ok.inj (hnan.symm.trans htimeout)
  cases hfinite

end Definition

end QueryMetrics
