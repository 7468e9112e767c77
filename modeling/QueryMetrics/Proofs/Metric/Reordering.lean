import Mathlib.Data.List.Forall2
import QueryMetrics.Proofs.Metric.Grouping

/-!
# Samples in another order

The grouping of samples depends on their order: the first sample of a name decides about the kind,
the help text and the label names of its family, and about the others of its name. Samples whose
names agree on these things leave nothing to decide (`Agreeing`). Then a family consists of
all samples of its name, each with its own labels (`Grouping.familyWith`), so that samples in
another order can be grouped as well, and give the same families up to the order of families and
the order of samples within a family (`Grouping.reordered_of_perm`). The points of one sample stay
together in this.
-/

namespace QueryMetrics

/-! ### Agreement -/

/-- The points of a sample that is exposed with its own labels. -/
def Sample.ownPoints (s : Sample) : List Point := s.pointsUnder s.ownLabels

/-- Samples of one name have the same kind, help text and label names. -/
def Agreeing (samples : List Sample) : Prop :=
  ∀ s ∈ samples, ∀ t ∈ samples, s.name = t.name →
    s.kind = t.kind ∧ s.help = t.help ∧ s.labelNames = t.labelNames

instance (samples : List Sample) : Decidable (Agreeing samples) :=
  inferInstanceAs (Decidable (∀ s ∈ samples, ∀ t ∈ samples, s.name = t.name →
    s.kind = t.kind ∧ s.help = t.help ∧ s.labelNames = t.labelNames))

namespace Agreeing

variable {samples samples' : List Sample} {s t : Sample}

/-- Agreeing samples of one name open the same group. -/
theorem openGroup_eq (h : Agreeing samples) (hs : s ∈ samples) (ht : t ∈ samples)
    (hname : s.name = t.name) : openGroup s = openGroup t := by
  obtain ⟨hkind, hhelp, hlabels⟩ := h s hs t ht hname
  rw [openGroup, openGroup, familyName, familyName, hname, hkind, hhelp, hlabels]

theorem perm (h : Agreeing samples) (hperm : samples.Perm samples') : Agreeing samples' :=
  fun s hs t ht => h s (hperm.mem_iff.mpr hs) t (hperm.mem_iff.mpr ht)

theorem of_concat (h : Agreeing (samples ++ [s])) : Agreeing samples :=
  fun t ht u hu => h t (List.mem_append_left _ ht) u (List.mem_append_left _ hu)

end Agreeing

/-! ### Families in any order -/

/-- Two families show the same samples, in any order; the points of one sample stay together. -/
structure Family.SameSamples (first second : Family) : Prop where
  name : first.name = second.name
  kind : first.kind = second.kind
  help : first.help = second.help
  points : ∃ samples samples' : List Sample, samples.Perm samples' ∧
    first.points = samples.flatMap Sample.ownPoints ∧
    second.points = samples'.flatMap Sample.ownPoints

/-- Two lists of families show the same samples in the same families, in any order. -/
def Family.Reordered (first second : List Family) : Prop :=
  ∃ middle, first.Perm middle ∧ List.Forall₂ Family.SameSamples middle second

namespace Grouping

variable {samples samples' : List Sample}

/-- The groups that samples open, still without points. -/
def opened (samples : List Sample) : List Group := (openers samples).map openGroup

/-- Agreeing samples open the groups that any of them would open. -/
theorem mem_opened_iff (h : Agreeing samples) {group : Group} :
    group ∈ opened samples ↔ group ∈ samples.map openGroup := by
  constructor
  · rintro hmem
    obtain ⟨opener, hopener, rfl⟩ := List.mem_map.mp hmem
    exact List.mem_map_of_mem (mem_of_mem_openers hopener)
  · rintro hmem
    obtain ⟨s, hs, rfl⟩ := List.mem_map.mp hmem
    obtain ⟨opener, hopener, hname⟩ := exists_opener (List.mem_map_of_mem hs)
    rw [← h.openGroup_eq (mem_of_mem_openers hopener) hs hname]
    exact List.mem_map_of_mem hopener

theorem nodup_opened (samples : List Sample) : (opened samples).Nodup := by
  have hnames : (opened samples).map Group.sampleName = (openers samples).map Sample.name := by
    rw [opened, List.map_map]
    rfl
  exact .of_map Group.sampleName (hnames ▸ nodup_openers samples)

/-- Agreeing samples open the same groups in any order. -/
theorem perm_opened (h : Agreeing samples) (hperm : samples.Perm samples') :
    (opened samples).Perm (opened samples') := by
  refine (List.perm_ext_iff_of_nodup (nodup_opened _) (nodup_opened _)).mpr fun group => ?_
  rw [mem_opened_iff h, mem_opened_iff (h.perm hperm)]
  exact (hperm.map openGroup).mem_iff

/-- The family of a group with all samples of its name, each with its own labels. -/
def familyWith (samples : List Sample) (group : Group) : Family :=
  { group.family with
    points := (samples.filter fun s => s.name = group.sampleName).flatMap Sample.ownPoints }

/-- All samples of an opener's name are members of its group, with their own labels. -/
theorem points_groupOf (h : Agreeing samples) {opener : Sample}
    (hopener : opener ∈ openers samples) :
    (members opener samples).flatMap opener.pointsIn =
      (samples.filter fun s => s.name = opener.name).flatMap Sample.ownPoints := by
  have hmem := mem_of_mem_openers hopener
  have hmembers : members opener samples = samples.filter fun s => s.name = opener.name := by
    refine List.filter_congr fun s hs => ?_
    by_cases hname : s.name = opener.name
    · simp [hname, (h s hs opener hmem hname).1]
    · simp [hname]
  rw [hmembers]
  refine List.flatMap_congr fun s hs => ?_
  obtain ⟨hs, hname⟩ := List.mem_filter.mp hs
  obtain ⟨-, -, hlabels⟩ := h s hs opener hmem (of_decide_eq_true hname)
  rw [Sample.pointsIn, Sample.ownPoints, Sample.labelsIn]
  split
  · rfl
  · rw [← hlabels, Sample.ownLabels]

/-- The families of agreeing samples, group by group. -/
theorem families_described (h : Agreeing samples) :
    (described samples).families =
      ((opened samples).filter fun group => !group.family.name.isEmpty).map
        (familyWith samples) := by
  have hfilter : (opened samples).filter (fun group => !group.family.name.isEmpty) =
      ((openers samples).filter Sample.opensFamily).map openGroup := by
    rw [opened, List.filter_map]
    rfl
  rw [families, described, hfilter, List.map_map, List.map_map]
  refine List.map_congr_left fun opener hopener => ?_
  have hpoints := points_groupOf h (List.mem_of_mem_filter hopener)
  simp only [Function.comp_apply, groupOf, familyWith, hpoints]
  rfl

/-- Agreeing samples in another order give the same families, up to order. -/
theorem reordered_families_described (h : Agreeing samples) (hperm : samples.Perm samples') :
    Family.Reordered (described samples).families (described samples').families := by
  rw [families_described h, families_described (h.perm hperm)]
  refine ⟨_, ((perm_opened h hperm).filter _).map _, ?_⟩
  rw [List.forall₂_map_left_iff, List.forall₂_map_right_iff, List.forall₂_same]
  intro group _
  exact ⟨rfl, rfl, rfl, _, _, hperm.filter _, rfl, rfl⟩

/-- Among agreeing samples, one joins a group exactly if it can open one. -/
theorem joinsAfter_of_agreeing {s : Sample} (h : Agreeing (samples ++ [s])) :
    joinsAfter samples s = s.opensFamily := by
  rw [joinsAfter]
  split
  · rfl
  · rename_i opener hfind
    obtain ⟨hopener, hname⟩ := find?_eq_some_iff_opener.mp hfind
    have hmem : opener ∈ samples ++ [s] := List.mem_append_left _ (mem_of_mem_openers hopener)
    obtain ⟨hkind, -, -⟩ := h opener hmem s (List.mem_append_right _ List.mem_cons_self) hname
    rw [Sample.opensFamily, Sample.opensFamily, familyName, familyName, hkind, hname]
    simp

/-- Agreeing samples can be grouped exactly if each that opens or joins a group can be exposed. -/
theorem isOk_ofSamples_iff (h : Agreeing samples) :
    (ofSamples samples).isOk = true ↔ ∀ s ∈ samples, s.opensFamily = true → s.IsExposable := by
  induction samples using List.reverseRecOn with
  | nil => exact iff_of_true rfl fun s hs => absurd hs List.not_mem_nil
  | append_singleton front s ih =>
    have hfront := ih h.of_concat
    rw [List.forall_mem_append, List.forall_mem_singleton, ← hfront, ofSamples_concat]
    cases hresult : ofSamples front with
    | error mismatch => exact iff_of_false nofun fun hall => nomatch hall.1
    | ok grouping =>
      rw [eq_described_of_ofSamples hresult]
      change ((described front).add s).isOk = true ↔ _
      rw [add_described, joinsAfter_of_agreeing h]
      split
      · rename_i hexposable
        exact iff_of_true rfl ⟨rfl, hexposable⟩
      · rename_i hexposable
        exact iff_of_false nofun fun hall => hexposable hall.2

/-- **Reordering.** Agreeing samples can be grouped in any order or in none, and in any other order
they give the same families, up to the order of families and of the samples within a family. -/
theorem reordered_of_perm (h : Agreeing samples) (hperm : samples.Perm samples') :
    (∃ mismatch mismatch', ofSamples samples = .error mismatch ∧
      ofSamples samples' = .error mismatch') ∨
    ∃ grouping grouping', ofSamples samples = .ok grouping ∧ ofSamples samples' = .ok grouping' ∧
      Family.Reordered grouping.families grouping'.families := by
  have hok : (ofSamples samples).isOk = (ofSamples samples').isOk := by
    rw [Bool.eq_iff_iff, isOk_ofSamples_iff h, isOk_ofSamples_iff (h.perm hperm)]
    exact forall_congr' fun s => by rw [hperm.mem_iff]
  cases hfirst : ofSamples samples with
  | error mismatch =>
    rw [hfirst] at hok
    cases hsecond : ofSamples samples' with
    | error mismatch' => exact .inl ⟨mismatch, mismatch', rfl, rfl⟩
    | ok grouping' =>
      rw [hsecond] at hok
      cases hok
  | ok grouping =>
    rw [hfirst] at hok
    cases hsecond : ofSamples samples' with
    | error mismatch' =>
      rw [hsecond] at hok
      cases hok
    | ok grouping' =>
      refine .inr ⟨grouping, grouping', rfl, rfl, ?_⟩
      rw [eq_described_of_ofSamples hfirst, eq_described_of_ofSamples hsecond]
      exact reordered_families_described h hperm

end Grouping

end QueryMetrics
