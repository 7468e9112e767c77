import QueryMetrics.Proofs.Metric.Attribution
import QueryMetrics.Proofs.Metric.Columns
import QueryMetrics.Proofs.Metric.Merging
import QueryMetrics.Proofs.Number.Letters

/-!
# Histograms from rows

A histogram column comes with a table of bucket columns and the texts of their upper bounds. Its
sample is made from this table and a row, and its points from the sample.

* **Reading.** An entry of the table is used if its bound is a finite number and its column holds a
  count (`Row.Uses`). Any other entry is left out with one report. What becomes of an entry depends
  on no other entry (`Row.EntryEnds`).
* **Merging.** Of every bound that some used entry has there is one bucket, with the count of the
  last of these entries (`Definition.Reconstructs`).
* **Showing.** A family shows the buckets in strictly ascending order of their bounds, and then one
  bucket without bound, which has the count of the row (`Sample.ShowsBuckets`).
-/

namespace QueryMetrics

open Text

/-! ### Counts -/

/-- The text is a count of 64 bits: it consists of ASCII digits, blanks around them ignored. Like
other whole numbers, counts are not read from more than `maxIntegerDigits` digits. -/
structure IsCount (text : String) (n : Nat) : Prop where
  nonempty : trim text.toList ≠ []
  ascii : ∀ c ∈ trim text.toList, c.isDigit = true
  length : (trim text.toList).length ≤ maxIntegerDigits
  value : numberOfDigits ((trim text.toList).filterMap digitValue?) = n
  bounded : n < Nat.pow 2 64

theorem unsigned?_eq_some_iff {text : String} {n : Nat} :
    unsigned? text = some n ↔ IsCount text n := by
  have hbound : ∀ m, m ≤ maxCount ↔ m < Nat.pow 2 64 := fun m => Nat.lt_succ_iff.symm
  unfold unsigned?
  dsimp only
  constructor
  · intro h
    split at h
    · cases h
    · rename_i hdigits
      simp only [Bool.or_eq_true, not_or, List.isEmpty_iff, Bool.not_eq_true, Bool.not_eq_false',
        List.all_eq_true, decide_eq_true_eq, Nat.not_lt] at hdigits
      split at h
      · rename_i hle
        obtain rfl := Option.some.inj h
        exact ⟨hdigits.1.1, hdigits.1.2, hdigits.2, rfl, (hbound _).mp hle⟩
      · cases h
  · rintro ⟨hnonempty, hascii, hlength, rfl, hbounded⟩
    have hall : (trim text.toList).all Char.isDigit = true := List.all_eq_true.mpr hascii
    have hempty : (trim text.toList).isEmpty = false := List.isEmpty_eq_false_iff.mpr hnonempty
    rw [if_neg (by simp [hall, hempty, Nat.not_lt.mpr hlength]), if_pos ((hbound _).mpr hbounded)]

/-! ### Reading the table of buckets -/

namespace Row

variable {row : Row} {column : String} {entry : String × String}

/-- The entry is used as a bucket: its bound is a finite number, and its column holds a count. -/
structure Uses (row : Row) (entry : String × String) (bound : Binary64) (count : Nat) : Prop where
  number : Binary64.ofText? entry.2 = some bound
  finite : bound.isFinite = true
  whole : IsCount (row.get entry.1) count

/-- What becomes of an entry: the bucket that it is used as, or the first reason why it is not. -/
inductive EntryEnds (row : Row) (column : String) (entry : String × String) :
    Except BucketFault (Binary64 × Int) → Prop where
  | used {bound : Binary64} {count : Nat} (uses : row.Uses entry bound count) :
    EntryEnds row column entry (.ok (bound, count))
  | boundNotNumber (number : Binary64.ofText? entry.2 = none) :
    EntryEnds row column entry (.error (.boundNotNumber column entry.2))
  | boundNotFinite {bound : Binary64} (number : Binary64.ofText? entry.2 = some bound)
      (infinite : bound.isFinite = false) :
    EntryEnds row column entry (.error (.boundNotFinite column entry.2))
  | countNotWhole {bound : Binary64} (number : Binary64.ofText? entry.2 = some bound)
      (finite : bound.isFinite = true) (whole : ∀ n, ¬ IsCount (row.get entry.1) n) :
    EntryEnds row column entry (.error (.countNotWhole column entry.1 (row.get entry.1)))

theorem entryEnds_readBucket (row : Row) (column : String) (entry : String × String) :
    row.EntryEnds column entry (readBucket row column entry.1 entry.2) := by
  unfold readBucket
  cases hbound : Binary64.ofText? entry.2 with
  | none => exact .boundNotNumber hbound
  | some bound =>
    cases hfinite : bound.isFinite with
    | false =>
      simp only [hfinite, Bool.false_eq_true, if_false]
      exact .boundNotFinite hbound hfinite
    | true =>
      simp only [hfinite, if_true]
      cases hcount : unsigned? (row.get entry.1) with
      | none =>
        refine .countNotWhole hbound hfinite fun n hn => ?_
        rw [unsigned?_eq_some_iff.mpr hn] at hcount
        cases hcount
      | some count => exact .used ⟨hbound, hfinite, unsigned?_eq_some_iff.mp hcount⟩

/-- An entry becomes a bucket exactly if it can be used. -/
theorem EntryEnds.isOk_iff {result : Except BucketFault (Binary64 × Int)}
    (h : row.EntryEnds column entry result) :
    result.isOk = true ↔ ∃ bound count, row.Uses entry bound count := by
  cases h with
  | used uses => exact ⟨fun _ => ⟨_, _, uses⟩, fun _ => rfl⟩
  | boundNotNumber hnumber =>
    refine ⟨nofun, fun ⟨bound, count, uses⟩ => ?_⟩
    have hbound := uses.number
    rw [hnumber] at hbound
    cases hbound
  | boundNotFinite hnumber hinfinite =>
    refine ⟨nofun, fun ⟨bound, count, uses⟩ => ?_⟩
    have hfinite := uses.finite
    rw [← Option.some.inj (hnumber.symm.trans uses.number), hinfinite] at hfinite
    cases hfinite
  | countNotWhole hnumber hfinite hwhole =>
    exact ⟨nofun, fun ⟨_, count, uses⟩ => absurd uses.whole (hwhole count)⟩

end Row

/-! ### The sample of a histogram -/

namespace Definition

variable {d : Definition} {ns : String} {row : Row} {column help : String} {s : Sample}
  {left : List BucketFault}

/-- The sample is made from what becomes of the entries of a table and from the count of the row. -/
structure Reconstructs (row : Row) (column : String) (bounds : Entries String String)
    (ends : List (Except BucketFault (Binary64 × Int))) (s : Sample) : Prop where
  /-- Every entry becomes a bucket if it can be used, and is left out for a reason otherwise. -/
  entries : List.Forall₂ (fun entry result => row.EntryEnds column entry result ∧
    (result.isOk = true ↔ ∃ bound count, row.Uses entry bound count)) bounds ends
  /-- Of every bound there is one bucket with the last count that an entry gives for it, or there is
  none if no entry gives one. -/
  buckets : ∀ bound, Entries.valuesLike Binary64.agrees bound s.buckets =
    (Entries.valuesLike Binary64.agrees bound (valids ends)).getLast?.toList
  finite : ∀ bucket ∈ s.buckets, bucket.1.isFinite = true
  count : ∃ n : Nat, IsCount (row.get "count") n ∧ s.count = some (n : Int)

/-- How a histogram column comes to its sample. -/
theorem histogram_of_columnOutcome (h : d.columnOutcome ns row column help = .ok (s, left))
    (hkind : s.kind = .histogram) :
    ∃ bounds count, d.buckets.find? column = some bounds ∧
      unsigned? (row.get "count") = some count ∧ s.count = some (count : Int) ∧
      s.buckets =
        mergeBuckets (valids (bounds.map fun entry => readBucket row column entry.1 entry.2)) ∧
      left = faults (bounds.map fun entry => readBucket row column entry.1 entry.2) := by
  unfold columnOutcome at h
  cases hvalue : Binary64.ofText? (row.get column) with
  | none =>
    rw [hvalue] at h
    cases h
  | some value =>
    rw [hvalue] at h
    cases hword : Kind.ofWord? (d.kindOf column) with
    | none =>
      rw [hword] at h
      cases h
    | some kind =>
      rw [hword] at h
      cases kind with
      | gauge =>
        cases h
        cases hkind
      | counter =>
        cases h
        cases hkind
      | histogram =>
        dsimp only at h
        unfold histogramOutcome at h
        cases hbounds : d.buckets.find? column with
        | none =>
          rw [hbounds] at h
          cases h
        | some bounds =>
          rw [hbounds] at h
          cases hcount : unsigned? (row.get "count") with
          | none =>
            rw [hcount] at h
            cases h
          | some count =>
            rw [hcount] at h
            cases h
            exact ⟨bounds, count, rfl, rfl, rfl, rfl, rfl⟩

theorem isFinite_of_mem_valids {bounds : Entries String String} {bucket : Binary64 × Int}
    (h : bucket ∈ valids (bounds.map fun entry => readBucket row column entry.1 entry.2)) :
    bucket.1.isFinite = true := by
  obtain ⟨result, hresult, hvalid⟩ := List.mem_filterMap.mp h
  obtain ⟨entry, -, hentry⟩ := List.mem_map.mp hresult
  have hends := row.entryEnds_readBucket column entry
  rw [hentry] at hends
  cases hends with
  | used uses =>
    cases hvalid
    exact uses.finite
  | boundNotNumber => cases hvalid
  | boundNotFinite => cases hvalid
  | countNotWhole => cases hvalid

/-- A histogram sample has the count of the row and the buckets of the entries that can be used. -/
theorem exists_reconstructs (h : d.columnOutcome ns row column help = .ok (s, left))
    (hkind : s.kind = .histogram) :
    ∃ bounds ends, d.buckets.find? column = some bounds ∧
      Reconstructs row column bounds ends s ∧ left = faults ends := by
  obtain ⟨bounds, count, hbounds, hcount, hscount, hbuckets, rfl⟩ :=
    histogram_of_columnOutcome h hkind
  -- merging writes no bound that was not read, so its buckets are finite as the read ones are
  refine ⟨bounds, _, hbounds, ⟨?_, fun bound => ?_, fun bucket hbucket => ?_, ?_⟩, rfl⟩
  · rw [List.forall₂_map_right_iff, List.forall₂_same]
    exact fun entry _ =>
      ⟨row.entryEnds_readBucket column entry, (row.entryEnds_readBucket column entry).isOk_iff⟩
  · rw [hbuckets, valuesLike_mergeBuckets]
  · rw [hbuckets] at hbucket
    have hkey := Entries.mem_keys_foldl_putBy (List.mem_map_of_mem hbucket)
    obtain ⟨read, hread, hbound⟩ := List.mem_map.mp hkey
    rw [← hbound]
    exact isFinite_of_mem_valids hread
  · exact ⟨count, unsigned?_eq_some_iff.mp hcount, hscount⟩

/-- No two buckets have the same bound. -/
theorem Reconstructs.apart {bounds : Entries String String}
    {ends : List (Except BucketFault (Binary64 × Int))}
    (h : Reconstructs row column bounds ends s) :
    s.buckets.Pairwise fun a b => ¬ a.1.agrees b.1 = true :=
  Entries.pairwise_not_same Binary64.coherent_agrees fun bound => by
    rw [h.buckets]
    cases (Entries.valuesLike Binary64.agrees bound (valids ends)).getLast? <;> simp

end Definition

/-! ### The points of a histogram -/

/-- The points show the buckets of the sample in strictly ascending order, then one bucket without
bound for the count of the sample, and then no bucket any more. -/
def Sample.ShowsBuckets (s : Sample) (labels : Entries String String) (points : List Point) :
    Prop :=
  ∃ (ordered : List (Binary64 × Int)) (others : List Point),
    points = ordered.map (fun bucket => bucketPoint s.name labels bucket.1 bucket.2) ++
      bucketPoint s.name labels (.infinite false) (s.count.getD 0) :: others ∧
    ordered.Perm s.buckets ∧
    ordered.Pairwise (fun a b => a.1 < b.1) ∧
    (∀ bucket ∈ ordered, exposedNumber bucket.1 ≠ exposedNumber (.infinite false)) ∧
    ∀ point ∈ others, point.name ≠ s.name ++ "_bucket"

/-- Buckets that are finite and apart are shown in order. -/
theorem Sample.showsBuckets_histogramPoints {s : Sample}
    (hfinite : ∀ bucket ∈ s.buckets, bucket.1.isFinite = true)
    (hapart : s.buckets.Pairwise fun a b => ¬ a.1.agrees b.1 = true)
    (labels : Entries String String) :
    s.ShowsBuckets labels (histogramPoints s.name labels s) := by
  have hnan : ∀ bucket ∈ s.buckets, bucket.1 ≠ .nan := by
    intro bucket hbucket heq
    have := hfinite bucket hbucket
    rw [heq] at this
    cases this
  have hperm := sortedBuckets_perm hnan
  let others : List Point :=
    if startsNonnegative (sortedBuckets s.buckets) then
      [⟨s.name ++ "_count", labels, .counted (s.count.getD 0)⟩,
       ⟨s.name ++ "_sum", labels, .measured s.value⟩]
    else []
  refine ⟨sortedBuckets s.buckets, others, ?_, hperm, pairwise_lt_sortedBuckets hnan hapart,
    fun bucket hbucket => exposedNumber_ne_infinite (hfinite bucket (hperm.mem_iff.mp hbucket)),
    ?_⟩
  · rw [histogramPoints, List.append_assoc, List.singleton_append]
  · -- count and sum, if they follow, have names of their own
    intro point hpoint
    unfold others at hpoint
    split at hpoint
    · have hname : point.name = s.name ++ "_count" ∨ point.name = s.name ++ "_sum" := by
        simp only [List.mem_cons, List.not_mem_nil, or_false] at hpoint
        exact hpoint.imp (congrArg Point.name) (congrArg Point.name)
      obtain hname | hname := hname
      all_goals
        rw [hname]
        simp
    · cases hpoint

namespace Definition

variable {d : Definition} {ns : String} {row : Row} {column help : String} {s : Sample}
  {left : List BucketFault}

/-- **Histograms from rows.** The sample of a histogram column has the count of the row and, of
every bound that some entry of its table can be used for, one bucket with the count of the last of
these entries. What cannot be used is left out with one report each. Wherever the sample is taken
into a family, the family shows these buckets in strictly ascending order and one bucket without
bound after them. -/
theorem reconstructs_histogram (h : d.columnOutcome ns row column help = .ok (s, left))
    (hkind : s.kind = .histogram) :
    (∃ bounds ends, d.buckets.find? column = some bounds ∧
      Reconstructs row column bounds ends s ∧
      noticesOf (d.columnOutcome ns row column help) = (faults ends).map .bucket) ∧
    ∀ before after opener, (∀ other ∈ before ++ after, other.FullyLabelled) →
      Grouping.Keeps (before ++ s :: after) opener s →
        ∃ grouping, Grouping.ofSamples (before ++ s :: after) = .ok grouping ∧
          ∃ group ∈ grouping.groups, group.sampleName = s.name ∧
            group.family.kind = .histogram ∧
            ∃ points, group.family.points =
              (Grouping.members opener before).flatMap opener.pointsIn ++ points ++
                (Grouping.members opener after).flatMap opener.pointsIn ∧
              s.ShowsBuckets (opener.labelsIn s) points := by
  obtain ⟨bounds, ends, hbounds, hmade, hleft⟩ := exists_reconstructs h hkind
  refine ⟨⟨bounds, ends, hbounds, hmade, by rw [h, ← hleft, noticesOf]⟩, ?_⟩
  rintro before after opener hothers ⟨hfirst, hopens, hsame⟩
  -- grouping fails on samples that lack label values, and nothing is assumed of this one
  have hlabelled : s.FullyLabelled := by
    obtain ⟨t, left', ht, hemits⟩ | ⟨fault, hfault, -⟩ := columnOutcome_cases d ns row column help
    · rw [h] at ht
      cases ht
      rw [Sample.FullyLabelled, hemits.labelValues, List.length_map]
    · rw [h] at hfault
      cases hfault
  have hall : ∀ other ∈ before ++ s :: after, other.FullyLabelled := by
    intro other hother
    obtain hbefore | hrest := List.mem_append.mp hother
    · exact hothers other (List.mem_append_left _ hbefore)
    · obtain rfl | hafter := List.mem_cons.mp hrest
      · exact hlabelled
      · exact hothers other (List.mem_append_right _ hafter)
  obtain ⟨hopener, hname⟩ := Grouping.find?_eq_some_iff_opener.mp hfirst
  refine ⟨_, Grouping.ofSamples_eq_described hall, _,
    List.mem_map_of_mem (List.mem_filter.mpr ⟨hopener, hopens⟩), hname, hsame.trans hkind,
    opener.pointsIn s,
    Grouping.points_groupOf_append opener s before after hname.symm hsame.symm, ?_⟩
  rw [Sample.pointsIn, Sample.pointsUnder, hkind]
  exact Sample.showsBuckets_histogramPoints hmade.finite hmade.apart _

/-- A histogram with two spellings of zero and three of one, and with bounds that are unusable. -/
def respelledBounds : Definition where
  context := "queue"
  helps := [("wait", "Wait")]
  kinds := [("wait", "histogram")]
  buckets := [("wait", [("a", "1"), ("b", " 1.0 "), ("c", "1e0"), ("d", "-0.0"), ("e", "0"),
    ("f", "nan"), ("g", "many"), ("h", "2")])]

/-- A row with counts for most of the bounds; one of them is no count, and one is missing. -/
def countedRow : Row :=
  [("wait", "3.5"), ("count", "9"), ("a", "1"), ("b", "4"), ("c", "-4"), ("d", "2"), ("e", "3"),
    ("f", "1"), ("g", "1")]

/-- Of the two spellings of zero and the three of one, two buckets are left, and the family of the
sample alone shows them. -/
theorem reconstructs_histogram_respelled :
    ∃ s left, respelledBounds.columnOutcome "db" countedRow "wait" "Wait" = .ok (s, left) ∧
      s.kind = .histogram ∧ s.count = some 9 ∧ s.buckets.map (·.2) = [4, 3] ∧ left.length = 4 ∧
      Grouping.Keeps [s] s s ∧
      ∃ grouping, Grouping.ofSamples [s] = .ok grouping ∧
        ∃ group ∈ grouping.groups, s.ShowsBuckets (s.labelsIn s) group.family.points := by
  have hread : (respelledBounds.columnOutcome "db" countedRow "wait" "Wait").map
      (fun emission => (emission.1.kind, emission.1.count, emission.1.buckets.map (·.2),
        emission.2.length, emission.1.name)) =
      .ok (.histogram, some 9, [4, 3], 4, "db_queue_wait") := by
    decide +kernel
  obtain ⟨s, left, hs⟩ :
      ∃ s left, respelledBounds.columnOutcome "db" countedRow "wait" "Wait" = .ok (s, left) := by
    cases h : respelledBounds.columnOutcome "db" countedRow "wait" "Wait" with
    | error fault =>
      rw [h] at hread
      cases hread
    | ok emission => exact ⟨emission.1, emission.2, rfl⟩
  obtain ⟨hkind, hcount, hbuckets, hleft, hname⟩ :
      s.kind = .histogram ∧ s.count = some 9 ∧ s.buckets.map (·.2) = [4, 3] ∧ left.length = 4 ∧
        s.name = "db_queue_wait" := by
    rw [hs] at hread
    simpa [Except.map] using hread
  have hkeeps : Grouping.Keeps [s] s s := by
    refine ⟨by simp, ?_, rfl⟩
    simp [Sample.opensFamily, familyName, hkind, hname]
  obtain ⟨-, hshown⟩ := reconstructs_histogram hs hkind
  obtain ⟨grouping, hgrouping, group, hgroup, -, -, points, hpoints, hshows⟩ :=
    hshown [] [] s (List.forall_mem_nil _) hkeeps
  refine ⟨s, left, hs, hkind, hcount, hbuckets, hleft, hkeeps, grouping, hgrouping, group, hgroup,
    ?_⟩
  have hall : group.family.points = points := by
    rw [hpoints]
    simp [Grouping.members]
  rw [hall]
  exact hshows

end Definition

end QueryMetrics
