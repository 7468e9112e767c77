import Mathlib.Data.List.Forall2
import QueryMetrics.Proofs.Metric.Grouping

/-!
# Whose labels a point carries

A sample comes with its own label names and values. Whether its points carry exactly these labels
depends on the family they end up in:

* A counter without the ending of counters keeps its own labels, whatever the other samples of its
  name are.
* Every other sample has its values paired with the label names of the first sample of its name.
  So it carries its own labels only if that pairing happens to be the same mapping.

The condition is exact, for any list of samples and every sample of it that is not left out. The
label `le` of buckets is aside: buckets overwrite it, so for a histogram that only shows buckets it
cannot be told apart.
-/

namespace QueryMetrics

/-! ### Labels as mappings -/

/-- Both tables give every label the same value; their orders may differ. -/
def SameLabels (first second : Entries String String) : Prop :=
  ∀ label, first.find? label = second.find? label

/-- The points differ in nothing but the order of their labels. -/
structure Point.SameAs (p q : Point) : Prop where
  name : p.name = q.name
  value : p.value = q.value
  labels : SameLabels p.labels q.labels

/-- Points that differ in their labels only are the same if these are. -/
theorem Point.sameAs_mk_iff {name : String} {value : Quantity}
    {first second : Entries String String} :
    Point.SameAs ⟨name, first, value⟩ ⟨name, second, value⟩ ↔ SameLabels first second :=
  ⟨fun h => h.labels, fun h => ⟨rfl, rfl, h⟩⟩

/-- Writing one label into both tables makes them agree there. -/
theorem sameLabels_put_iff {first second : Entries String String} {label text : String} :
    SameLabels (first.put label text) (second.put label text) ↔
      ∀ other, other = label ∨ first.find? other = second.find? other := by
  constructor
  · intro h other
    by_cases hother : other = label
    · exact .inl hother
    · have hput := h other
      rw [Entries.find?_put_of_ne hother, Entries.find?_put_of_ne hother] at hput
      exact .inr hput
  · intro h other
    rcases h other with rfl | hsame
    · rw [Entries.find?_put_self, Entries.find?_put_self]
    · by_cases hother : other = label
      · rw [hother, Entries.find?_put_self, Entries.find?_put_self]
      · rw [Entries.find?_put_of_ne hother, Entries.find?_put_of_ne hother, hsame]

/-! ### Points under two sets of labels -/

/-- A histogram whose buckets are all that is exposed of it. -/
def Sample.showsBucketsOnly (s : Sample) : Bool :=
  s.kind == .histogram && !startsNonnegative (sortedBuckets s.buckets)

/-- The points of a histogram, each as a function of the labels. -/
private def histogramShapes (s : Sample) : List (Entries String String → Point) :=
  (sortedBuckets s.buckets).map
      (fun bucket labels => bucketPoint s.name labels bucket.1 bucket.2) ++
    [fun labels => bucketPoint s.name labels (.infinite false) (s.count.getD 0)] ++
    if startsNonnegative (sortedBuckets s.buckets) then
      [fun labels => ⟨s.name ++ "_count", labels, .counted (s.count.getD 0)⟩,
       fun labels => ⟨s.name ++ "_sum", labels, .measured s.value⟩]
    else []

private theorem histogramPoints_eq_map (s : Sample) (labels : Entries String String) :
    histogramPoints s.name labels s = (histogramShapes s).map fun shape => shape labels := by
  unfold histogramPoints histogramShapes
  dsimp only
  split <;> simp

/-- A histogram has the same points under two tables of labels if these agree, `le` aside unless
count and sum are shown: the bucket without bound is always there and shows every label but `le`. -/
private theorem forall₂_histogramPoints_iff {s : Sample} {first second : Entries String String} :
    List.Forall₂ Point.SameAs (histogramPoints s.name first s) (histogramPoints s.name second s) ↔
      ∀ label, (label = "le" ∧ startsNonnegative (sortedBuckets s.buckets) = false) ∨
        first.find? label = second.find? label := by
  have hbucket : ∀ bound count, Point.SameAs (bucketPoint s.name first bound count)
      (bucketPoint s.name second bound count) ↔
        ∀ label, label = "le" ∨ first.find? label = second.find? label :=
    fun bound count => Point.sameAs_mk_iff.trans sameLabels_put_iff
  -- both lists are one list of shapes, so they can be compared shape by shape
  rw [histogramPoints_eq_map, histogramPoints_eq_map, List.forall₂_map_left_iff,
    List.forall₂_map_right_iff, List.forall₂_same, histogramShapes]
  cases hstart : startsNonnegative (sortedBuckets s.buckets) with
  | true =>
    simp only [if_true, Bool.true_eq_false, and_false, false_or, List.forall_mem_append,
      List.forall_mem_cons, List.forall_mem_map, hbucket, Point.sameAs_mk_iff]
    exact ⟨fun h => h.2.1, fun h => ⟨⟨fun _ _ label => .inr (h label),
      fun label => .inr (h label), nofun⟩, h, h, nofun⟩⟩
  | false =>
    simp only [Bool.false_eq_true, if_false, and_true, List.append_nil, List.forall_mem_append,
      List.forall_mem_cons, List.forall_mem_map, hbucket]
    exact ⟨fun h => h.2.1, fun h => ⟨fun _ _ => h, h, nofun⟩⟩

/-- A sample has the same points under two tables of labels exactly if these agree, `le` aside
where only buckets are shown. -/
theorem Sample.forall₂_pointsUnder_iff {s : Sample} {first second : Entries String String} :
    List.Forall₂ Point.SameAs (s.pointsUnder first) (s.pointsUnder second) ↔
      ∀ label, (label = "le" ∧ s.showsBucketsOnly) ∨
        first.find? label = second.find? label := by
  unfold pointsUnder showsBucketsOnly
  cases hk : s.kind with
  | histogram => simpa [hk] using forall₂_histogramPoints_iff
  | gauge => simp [Point.sameAs_mk_iff, SameLabels]
  | counter => simp [Point.sameAs_mk_iff, SameLabels]

/-! ### The labels of samples in a list -/

namespace Grouping

/-- The sample is not left out: the first sample of its name has its kind and opens a family. -/
def Keeps (samples : List Sample) (opener s : Sample) : Prop :=
  samples.find? (fun other => other.name == s.name) = some opener ∧
    opener.opensFamily ∧ opener.kind = s.kind

/-- The samples of a list that are not left out from the family of an opener, with what each of
them adds. -/
theorem points_groupOf_append (opener s : Sample) (before after : List Sample)
    (hname : s.name = opener.name) (hkind : s.kind = opener.kind) :
    (groupOf (before ++ s :: after) opener).family.points =
      (members opener before).flatMap opener.pointsIn ++ opener.pointsIn s ++
        (members opener after).flatMap opener.pointsIn := by
  simp [groupOf, members, List.filter_append, hname, hkind]

/-- **Label attribution.** Fully labelled samples can be grouped, and every sample that is not left
out adds its points to the group of its name, between those of the samples before and after it.
These points carry the sample's own labels exactly if it is a counter without the ending of
counters, or if its values paired with the label names of the first sample of its name are the
same mapping (`le` aside where only buckets are shown). -/
theorem carriesOwnLabels_iff {samples : List Sample} (h : ∀ s ∈ samples, s.FullyLabelled) :
    ∃ grouping, ofSamples samples = .ok grouping ∧
      ∀ before s after opener, samples = before ++ s :: after → Keeps samples opener s →
        ∃ group ∈ grouping.groups, group.sampleName = s.name ∧
          group.family.points = (members opener before).flatMap opener.pointsIn ++
            opener.pointsIn s ++ (members opener after).flatMap opener.pointsIn ∧
          (List.Forall₂ Point.SameAs (opener.pointsIn s) (s.pointsUnder s.ownLabels) ↔
            s.isPlainCounter ∨ ∀ label, (label = "le" ∧ s.showsBucketsOnly) ∨
              (pairLabels opener.labelNames s.labelValues).find? label =
                s.ownLabels.find? label) := by
  refine ⟨described samples, ofSamples_eq_described h, ?_⟩
  rintro before s after opener rfl ⟨hfirst, hopens, hkind⟩
  obtain ⟨hopener, hname⟩ := find?_eq_some_iff_opener.mp hfirst
  have hgroup : groupOf (before ++ s :: after) opener ∈ (described (before ++ s :: after)).groups :=
    List.mem_map_of_mem (List.mem_filter.mpr ⟨hopener, hopens⟩)
  refine ⟨_, hgroup, hname, points_groupOf_append opener s before after hname.symm hkind.symm, ?_⟩
  -- only the labels that the sample has in the family are left to compare
  rw [Sample.pointsIn, Sample.forall₂_pointsUnder_iff, Sample.labelsIn]
  cases hplain : s.isPlainCounter with
  | true => simp
  | false => simp

/-- Two counters of one name, which is not the name of a counter, with different labels. -/
def relabelledCounters : List Sample :=
  [{ name := "jobs", kind := .counter, value := 1, labelNames := ["queue"], labelValues := ["a"] },
   { name := "jobs", kind := .counter, value := 2, labelNames := ["host"], labelValues := ["b"] }]

/-- Of two counters with different labels, both are exposed with their own. -/
theorem carriesOwnLabels_relabelledCounters :
    ∃ grouping, ofSamples relabelledCounters = .ok grouping ∧
      ∀ before s after opener, relabelledCounters = before ++ s :: after →
        Keeps relabelledCounters opener s →
          ∃ group ∈ grouping.groups, group.sampleName = s.name ∧
            group.family.points = (members opener before).flatMap opener.pointsIn ++
              opener.pointsIn s ++ (members opener after).flatMap opener.pointsIn ∧
            List.Forall₂ Point.SameAs (opener.pointsIn s) (s.pointsUnder s.ownLabels) := by
  obtain ⟨grouping, hgrouping, h⟩ := @carriesOwnLabels_iff relabelledCounters (by decide)
  refine ⟨grouping, hgrouping, fun before s after opener hsplit hkeeps => ?_⟩
  obtain ⟨group, hgroup, hname, hpoints, hiff⟩ := h before s after opener hsplit hkeeps
  have hplain : ∀ t ∈ relabelledCounters, t.isPlainCounter := by decide
  have hmem : s ∈ relabelledCounters := hsplit ▸ List.mem_append_right _ List.mem_cons_self
  exact ⟨group, hgroup, hname, hpoints, hiff.mpr (.inl (hplain s hmem))⟩

/-- Two gauges of one name with different labels. -/
def relabelledGauges : List Sample :=
  [{ name := "load", kind := .gauge, value := 1, labelNames := ["queue"], labelValues := ["a"] },
   { name := "load", kind := .gauge, value := 2, labelNames := ["host"], labelValues := ["b"] }]

/-- Of two gauges with different labels, the second is exposed nowhere with its own. -/
theorem not_carriesOwnLabels_relabelledGauges :
    (∀ s ∈ relabelledGauges, s.FullyLabelled) ∧
      ∃ grouping, ofSamples relabelledGauges = .ok grouping ∧
        ∃ s ∈ relabelledGauges, (∃ opener, Keeps relabelledGauges opener s) ∧
          ∀ group ∈ grouping.groups, ∀ point ∈ group.family.points,
            ¬ SameLabels point.labels s.ownLabels := by
  refine ⟨by decide, described relabelledGauges, ofSamples_eq_described (by decide), ?_⟩
  refine ⟨_, List.mem_cons_of_mem _ List.mem_cons_self, ⟨_, rfl, by decide, rfl⟩, ?_⟩
  intro group hgroup point hpoint hsame
  -- no point has the label that the second sample has a value for
  have hhost : ∀ group ∈ (described relabelledGauges).groups, ∀ point ∈ group.family.points,
      point.labels.find? "host" = none := by decide
  have hown := hsame "host"
  rw [hhost group hgroup point hpoint] at hown
  cases hown

end Grouping

end QueryMetrics
