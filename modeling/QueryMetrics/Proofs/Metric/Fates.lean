import QueryMetrics.Metric.Report
import QueryMetrics.Proofs.Metric.Grouping

/-!
# What becomes of every sample

The first sample of a name decides what becomes of all samples of that name (`Grouping.fate`):

* If it cannot open a family, the name is **rejected**, and with it all its samples. This is
  reported once for the name.
* If it opens a family, the samples of its kind **join** it, in their order. A gauge or a counter is
  exposed there as one point with its own name and value, whether or not its name has the ending of
  counters.
* A sample of **another kind** is left out. This is reported once for the sample.

`Grouping.accounts_for_all` says that this is all: the families, the rejected names and the reports
are those of the samples, and there are no others (`Grouping.AccountsFor`).
-/

namespace QueryMetrics

/-- The report is about a name, in contrast to a single sample. -/
def FamilyFault.rejectsName : FamilyFault → Bool
  | emptyName _ => true
  | otherKind .. => false

/-- The messages tell the two kinds of reports apart. -/
theorem FamilyFault.rejectsName_iff_message (fault : FamilyFault) :
    (fault.rejectsName = true ↔ fault.record.message = "Invalid metric") ∧
      (fault.rejectsName = false ↔
        fault.record.message = "Metric already collected with a different type") := by
  cases fault <;> simp [rejectsName, record, leftOutRecord]

namespace Grouping

/-! ### Fates -/

/-- What becomes of a sample. -/
inductive Fate where
  | joins
  | nameRejected
  | otherKind (collected : Kind)
  deriving DecidableEq

/-- The first sample of a name. -/
def first? (samples : List Sample) (name : String) : Option Sample :=
  samples.find? fun s => s.name == name

/-- The first sample of the name can open a family. -/
def accepts (samples : List Sample) (name : String) : Bool :=
  (first? samples name).any Sample.opensFamily

/-- What the first sample of a name decides about a sample of that name. -/
def fateUnder (opener s : Sample) : Fate :=
  if opener.opensFamily then if opener.kind = s.kind then .joins else .otherKind opener.kind
  else .nameRejected

/-- What becomes of a sample; the first of its name decides about itself. -/
def fate (samples : List Sample) (s : Sample) : Fate :=
  fateUnder ((first? samples s.name).getD s) s

/-- What is reported about a sample of another kind than its family. -/
def kindNotice? (samples : List Sample) (s : Sample) : Option FamilyFault :=
  match fate samples s with
  | .otherKind collected => some (.otherKind s.name s.kind collected)
  | _ => none

/-- The samples that join the family of a name, in their order. -/
def joining (samples : List Sample) (name : String) : List Sample :=
  samples.filter fun s => s.name = name ∧ fate samples s = .joins

variable {samples : List Sample} {s opener : Sample}

/-- A later sample is the first of its name only if there was none before. -/
theorem first?_concat (samples : List Sample) (s : Sample) (name : String) :
    first? (samples ++ [s]) name =
      (first? samples name).or (if s.name = name then some s else none) := by
  rw [first?, first?, List.find?_append, List.find?_singleton]
  simp

theorem first?_of_mem_openers (h : opener ∈ openers samples) (hname : opener.name = s.name) :
    first? samples s.name = some opener :=
  hname ▸ find?_eq_opener h

theorem exists_opener_of_mem (h : s ∈ samples) : ∃ opener ∈ openers samples, opener.name = s.name :=
  exists_opener (List.mem_map_of_mem h)

/-- The opener of its name decides about a sample. -/
theorem fate_eq_fateUnder (h : opener ∈ openers samples) (hname : opener.name = s.name) :
    fate samples s = fateUnder opener s := by
  rw [fate, first?_of_mem_openers h hname, Option.getD_some]

/-- No later sample changes what becomes of one that is there. -/
theorem fate_concat_of_mem (h : s ∈ samples) (t : Sample) :
    fate (samples ++ [t]) s = fate samples s := by
  obtain ⟨opener, hopener, hname⟩ := exists_opener_of_mem h
  rw [fate, fate, first?_concat, first?_of_mem_openers hopener hname, Option.some_or]

/-- The samples that join a family are the members of the group of its opener. -/
theorem joining_eq_members (h : opener ∈ openers samples) (hopens : opener.opensFamily) :
    joining samples opener.name = members opener samples := by
  refine List.filter_congr fun s hs => ?_
  by_cases hname : s.name = opener.name
  · rw [fate_eq_fateUnder h hname.symm, fateUnder, if_pos hopens]
    by_cases hkind : opener.kind = s.kind
    · simp [hkind]
    · simp [hkind, Ne.symm hkind]
  · simp [hname]

/-! ### Names -/

/-- The openers have the names of all samples, each once, in the order of first appearance. -/
theorem map_name_openers (samples : List Sample) :
    (openers samples).map Sample.name = (samples.map Sample.name).eraseDups := by
  induction samples using List.reverseRecOn with
  | nil => rfl
  | append_singleton front s ih =>
    rw [openers_concat, List.map_append, List.eraseDups_append, ← ih, List.map_cons, List.map_nil,
      List.removeAll, List.filter_cons, List.filter_nil]
    by_cases hmem : s.name ∈ front.map Sample.name
    · rw [if_pos hmem, List.elem_eq_true_of_mem hmem]
      simp
    · rw [if_neg hmem, List.elem_eq_contains, List.contains_eq_mem, decide_eq_false hmem]
      simp [List.eraseDups_cons]

/-- An opener can open a family exactly if its name is accepted. -/
theorem accepts_of_mem_openers (h : opener ∈ openers samples) :
    accepts samples opener.name = opener.opensFamily := by
  rw [accepts, first?_of_mem_openers h rfl, Option.any_some]

/-- Openers that are chosen by whether they open a family have the names that are chosen alike. -/
theorem map_name_filter_openers (samples : List Sample) (choice : Bool → Bool) :
    ((openers samples).filter fun opener => choice opener.opensFamily).map Sample.name =
      (samples.map Sample.name).eraseDups.filter fun name => choice (accepts samples name) := by
  rw [← map_name_openers, List.filter_map]
  refine congrArg (List.map Sample.name) (List.filter_congr fun opener hopener => ?_)
  rw [Function.comp_apply, accepts_of_mem_openers hopener]

/-- There is a group for every accepted name, in the order of first appearance. -/
theorem map_sampleName_described (samples : List Sample) :
    (described samples).groups.map Group.sampleName =
      (samples.map Sample.name).eraseDups.filter (accepts samples) := by
  rw [described, List.map_map]
  exact map_name_filter_openers samples id

/-- The other names are rejected. -/
theorem rejected_described (samples : List Sample) :
    (described samples).rejected =
      (samples.map Sample.name).eraseDups.filter fun name => !accepts samples name :=
  map_name_filter_openers samples (!·)

/-! ### Reports -/

/-- A sample of a new name has the kind of the first sample of its name. -/
theorem kindNotice?_of_new (h : s.name ∉ samples.map Sample.name) :
    kindNotice? (samples ++ [s]) s = none := by
  have hopener : s ∈ openers (samples ++ [s]) := by
    rw [openers_concat, if_neg h]
    exact List.mem_append_right _ List.mem_cons_self
  rw [kindNotice?, fate_eq_fateUnder hopener rfl, fateUnder, if_pos rfl]
  cases s.opensFamily <;> rfl

/-- What is reported about a sample when it comes: a new name that is not accepted, or a sample of
another kind than its family. -/
theorem noticeAfter?_eq (samples : List Sample) (s : Sample) :
    noticeAfter? samples s =
      if s.name ∉ samples.map Sample.name ∧ s.opensFamily = false then some (.emptyName s.name)
      else kindNotice? (samples ++ [s]) s := by
  by_cases hold : s.name ∈ samples.map Sample.name
  · obtain ⟨opener, hopener, hname⟩ := exists_opener hold
    have hfirst : opener ∈ openers (samples ++ [s]) := by rwa [openers_concat, if_pos hold]
    rw [if_neg fun h => h.1 hold, noticeAfter?_of_opener hopener hname, kindNotice?,
      fate_eq_fateUnder hfirst hname, fateUnder]
    by_cases hopens : opener.opensFamily <;> by_cases hkind : opener.kind = s.kind <;>
      simp [hopens, hkind]
  · have hfind : samples.find? (fun other => other.name == s.name) = none :=
      List.find?_eq_none.mpr fun other hother hsame =>
        hold (List.mem_map.mpr ⟨other, hother, by simpa using hsame⟩)
    rw [kindNotice?_of_new hold, noticeAfter?, hfind]
    cases s.opensFamily <;> simp [hold]

theorem rejectsName_of_kindNotice? {fault : FamilyFault} (h : kindNotice? samples s = some fault) :
    fault.rejectsName = false := by
  rw [kindNotice?] at h
  split at h
  · cases h
    rfl
  · cases h

theorem notices_described_concat (samples : List Sample) (s : Sample) :
    (described (samples ++ [s])).notices =
      (described samples).notices ++ (noticeAfter? samples s).toList :=
  noticesAfter_concat [] samples s

/-- Every rejected name is reported once. -/
theorem filter_rejectsName_described (samples : List Sample) :
    (described samples).notices.filter FamilyFault.rejectsName =
      (described samples).rejected.map .emptyName := by
  induction samples using List.reverseRecOn with
  | nil => rfl
  | append_singleton front s ih =>
    have hrejected : (described (front ++ [s])).rejected = (described front).rejected ++
        if s.name ∉ front.map Sample.name ∧ s.opensFamily = false then [s.name] else [] := by
      rw [described, openers_concat]
      by_cases hold : s.name ∈ front.map Sample.name
      · rw [if_pos hold, if_neg fun h => h.1 hold, List.append_nil, described]
      · cases hopens : s.opensFamily <;> simp [hold, hopens, described]
    rw [notices_described_concat, hrejected, List.filter_append, ih, List.map_append,
      noticeAfter?_eq]
    congr 1
    split
    · rfl
    · cases hnotice : kindNotice? (front ++ [s]) s with
      | none => rfl
      | some fault => simp [rejectsName_of_kindNotice? hnotice]

/-- Every sample of another kind than its family is reported once, in the order of the samples. -/
theorem filter_not_rejectsName_described (samples : List Sample) :
    (described samples).notices.filter (fun fault => !fault.rejectsName) =
      samples.filterMap (kindNotice? samples) := by
  induction samples using List.reverseRecOn with
  | nil => rfl
  | append_singleton front s ih =>
    have hfront : front.filterMap (kindNotice? (front ++ [s])) =
        front.filterMap (kindNotice? front) :=
      List.filterMap_congr fun t ht => by rw [kindNotice?, kindNotice?, fate_concat_of_mem ht]
    rw [notices_described_concat, List.filter_append, ih, List.filterMap_append, hfront,
      noticeAfter?_eq]
    congr 1
    split
    · rename_i hrejected
      simp [kindNotice?_of_new hrejected.1, FamilyFault.rejectsName]
    · cases hnotice : kindNotice? (front ++ [s]) s with
      | none => simp [hnotice]
      | some fault => simp [hnotice, rejectsName_of_kindNotice? hnotice]

/-! ### Points -/

/-- A gauge or a counter is exposed as one point, with its own name and value. -/
theorem pointsIn_of_ne_histogram (opener : Sample) (h : s.kind ≠ .histogram) :
    opener.pointsIn s = [⟨s.name, opener.labelsIn s, .measured s.value⟩] := by
  rw [Sample.pointsIn, Sample.pointsUnder]
  split
  · contradiction
  · rfl

/-! ### The main statement -/

/-- The grouping is that of the samples, and nothing is lost or invented. -/
structure AccountsFor (grouping : Grouping) (samples : List Sample) : Prop where
  /-- There is a family for every accepted name, in the order of first appearance. -/
  accepted : grouping.groups.map Group.sampleName =
    (samples.map Sample.name).eraseDups.filter (accepts samples)
  /-- All other names are rejected. -/
  rejected : grouping.rejected =
    (samples.map Sample.name).eraseDups.filter fun name => !accepts samples name
  /-- The first sample of the name decides the kind and the help text of a family, and the family
  shows the samples that join it, in their order. -/
  families : ∀ group ∈ grouping.groups, ∃ opener,
    first? samples group.sampleName = some opener ∧ group.family.name = familyName opener ∧
    group.family.kind = opener.kind ∧ group.family.help = opener.help ∧
    group.family.points = (joining samples group.sampleName).flatMap opener.pointsIn
  /-- Gauges and counters are exposed as one point each, with their own names and values. -/
  exposed : ∀ group ∈ grouping.groups, group.family.kind ≠ .histogram →
    group.family.points.map (fun point => (point.name, point.value)) =
      (joining samples group.sampleName).map fun s => (s.name, .measured s.value)
  /-- A sample joins the family of its name, or its name is rejected, or the family has another
  kind. -/
  fates : ∀ s ∈ samples,
    match fate samples s with
    | .joins => ∃ group ∈ grouping.groups,
        group.sampleName = s.name ∧ group.family.kind = s.kind
    | .nameRejected => s.name ∈ grouping.rejected
    | .otherKind collected => collected ≠ s.kind ∧ ∃ group ∈ grouping.groups,
        group.sampleName = s.name ∧ group.family.kind = collected
  /-- Every rejected name is reported once. -/
  rejections : grouping.notices.filter (fun fault => fault.record.message = "Invalid metric") =
    grouping.rejected.map .emptyName
  /-- Every sample of another kind than its family is reported once, in the order of samples. -/
  leftOut : grouping.notices.filter (fun fault =>
      fault.record.message = "Metric already collected with a different type") =
    samples.filterMap (kindNotice? samples)

theorem groupOf_mem_described (h : opener ∈ openers samples) (hopens : opener.opensFamily) :
    groupOf samples opener ∈ (described samples).groups :=
  List.mem_map_of_mem (List.mem_filter.mpr ⟨h, hopens⟩)

theorem accountsFor_described (samples : List Sample) :
    (described samples).AccountsFor samples where
  accepted := map_sampleName_described samples
  rejected := rejected_described samples
  families := by
    intro group hgroup
    obtain ⟨opener, hopener, rfl⟩ := List.mem_map.mp hgroup
    obtain ⟨hmem, hopens⟩ := List.mem_filter.mp hopener
    refine ⟨opener, first?_of_mem_openers hmem rfl, rfl, rfl, rfl, ?_⟩
    have hname : (groupOf samples opener).sampleName = opener.name := rfl
    rw [hname, joining_eq_members hmem hopens, groupOf]
  exposed := by
    intro group hgroup hkind
    obtain ⟨opener, hopener, rfl⟩ := List.mem_map.mp hgroup
    obtain ⟨hmem, hopens⟩ := List.mem_filter.mp hopener
    have hname : (groupOf samples opener).sampleName = opener.name := rfl
    rw [hname, joining_eq_members hmem hopens, groupOf, List.map_flatMap, List.map_eq_flatMap]
    refine List.flatMap_congr fun s hs => ?_
    -- a member has the kind of the family
    have hs' : s.kind ≠ .histogram := by
      obtain ⟨-, hsame⟩ := List.mem_filter.mp hs
      rw [decide_eq_true_eq] at hsame
      rw [hsame.2]
      exact hkind
    rw [pointsIn_of_ne_histogram opener hs', List.map_cons, List.map_nil]
  fates := by
    intro s hs
    obtain ⟨opener, hopener, hname⟩ := exists_opener_of_mem hs
    rw [fate_eq_fateUnder hopener hname, fateUnder]
    cases hopens : opener.opensFamily with
    | false =>
      exact mem_rejected_described.mpr ⟨opener, hopener, hopens, hname⟩
    | true =>
      have hgroup := groupOf_mem_described hopener hopens
      by_cases hkind : opener.kind = s.kind
      · simp only [if_true, hkind]
        exact ⟨_, hgroup, hname, hkind⟩
      · simp only [if_true, hkind, if_false]
        exact ⟨hkind, _, hgroup, hname, rfl⟩
  rejections := by
    rw [← filter_rejectsName_described]
    refine List.filter_congr fun fault _ => ?_
    simp [← fault.rejectsName_iff_message.1]
  leftOut := by
    rw [← filter_not_rejectsName_described]
    refine List.filter_congr fun fault _ => ?_
    simp [← fault.rejectsName_iff_message.2]

/-- **Every sample is accounted for.** Samples that have a value for each of their labels can be
grouped. Every one of them joins the family of its name once, or is left out for one reason, which
is reported, and there are no families, points or reports besides. -/
theorem accounts_for_all {samples : List Sample} (h : ∀ s ∈ samples, s.FullyLabelled) :
    ∃ grouping, ofSamples samples = .ok grouping ∧ grouping.AccountsFor samples :=
  ⟨described samples, ofSamples_eq_described h, accountsFor_described samples⟩

/-- Samples with every fate: two counters of one name, a gauge whose name is that of their family, a
counter of the gauge's name, and names that no family can have. -/
def samplesOfEveryFate : List Sample :=
  [{ name := "jobs_total", kind := .counter, value := 1 },
   { name := "jobs", kind := .gauge, value := 2, labelNames := ["queue"], labelValues := ["a"] },
   { name := "jobs", kind := .counter, value := 3 },
   { name := "_total", kind := .counter, value := 4 },
   { name := "jobs_total", kind := .counter, value := 5 },
   { name := "_total", kind := .gauge, value := 6 }]

/-- Both counters join, the counter of the gauge's name is left out, and the name that is an ending
only is rejected for the gauge as well, as a counter came first. -/
theorem accounts_for_all_everyFate :
    (∀ s ∈ samplesOfEveryFate, s.FullyLabelled) ∧
    samplesOfEveryFate.map (fate samplesOfEveryFate) =
      [.joins, .joins, .otherKind .gauge, .nameRejected, .joins, .nameRejected] ∧
    ∃ grouping, ofSamples samplesOfEveryFate = .ok grouping ∧
      grouping.groups.map Group.sampleName = ["jobs_total", "jobs"] ∧
      grouping.rejected = ["_total"] ∧
      ∀ group ∈ grouping.groups, group.sampleName = "jobs_total" →
        group.family.points.map (fun point => (point.name, point.value)) =
          [("jobs_total", .measured 1), ("jobs_total", .measured 5)] := by
  have hlabelled : ∀ s ∈ samplesOfEveryFate, s.FullyLabelled := by decide
  obtain ⟨grouping, hgrouping, haccounts⟩ := accounts_for_all hlabelled
  refine ⟨hlabelled, by decide, grouping, hgrouping, ?_, ?_, fun group hgroup hname => ?_⟩
  · rw [haccounts.accepted]
    decide
  · rw [haccounts.rejected]
    decide
  · have hcounter : group.family.kind ≠ .histogram := by
      obtain ⟨opener, hfirst, -, hkind, -⟩ := haccounts.families group hgroup
      have hopener : opener ∈ samplesOfEveryFate := List.mem_of_find?_eq_some hfirst
      have hnone : ∀ s ∈ samplesOfEveryFate, s.kind ≠ .histogram := by decide
      rw [hkind]
      exact hnone opener hopener
    rw [haccounts.exposed group hgroup hcounter, hname]
    decide +kernel

end Grouping

end QueryMetrics
