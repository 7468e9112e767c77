import Mathlib.Data.List.Induction
import Mathlib.Data.List.Nodup
import QueryMetrics.Metric.Family

/-!
# The grouping of samples, all at once

`Grouping.add` takes samples one after another. Here the result for a whole list of samples is
described without the sequence of steps:

* The **openers** of a list are the samples whose name has not appeared before, in order. An opener
  whose family has a name opens a group; the name of any other opener is rejected.
* The **members** of a group are the samples that share name and kind with its opener, in order.
* Every member adds the points of `Sample.pointsUnder` with the labels of `Sample.labelsIn`: a
  counter without the ending of counters has its own labels, and every other sample pairs its
  values with the label names of the opener.

The main statements are `Grouping.eq_described_of_ofSamples`, that a grouping is always the one
described, and `Grouping.ofSamples_eq_described`, that samples which have a value for each of their
labels can be grouped. A grouping fails over one kind of sample only: a counter without the ending
of counters that joins a group and has more or fewer values than labels (`Sample.IsExposable`).
-/

namespace QueryMetrics

/-! ### The points of a sample -/

namespace Sample

/-- Every label has a value, and every value has a label. -/
def FullyLabelled (s : Sample) : Prop := s.labelValues.length = s.labelNames.length

instance (s : Sample) : Decidable s.FullyLabelled := inferInstanceAs (Decidable (_ = _))

/-- A counter whose name does not end as the names of counters do. -/
def isPlainCounter (s : Sample) : Bool := s.kind == .counter && (withoutTotal? s.name).isNone

/-- The sample can be exposed in a group that it joins. A counter whose name does not end as those
of counters do needs a value for each of its labels. -/
def IsExposable (s : Sample) : Prop := s.isPlainCounter = true → s.FullyLabelled

instance (s : Sample) : Decidable s.IsExposable := inferInstanceAs (Decidable (_ → _))

theorem FullyLabelled.isExposable {s : Sample} (h : s.FullyLabelled) : s.IsExposable := fun _ => h

/-- The labels of the sample itself. -/
def ownLabels (s : Sample) : Entries String String := pairLabels s.labelNames s.labelValues

/-- The labels that a sample is exposed with in the family of an opener. -/
def labelsIn (opener s : Sample) : Entries String String :=
  if s.isPlainCounter then s.ownLabels else pairLabels opener.labelNames s.labelValues

/-- The points of a sample that is exposed with these labels. -/
def pointsUnder (labels : Entries String String) (s : Sample) : List Point :=
  match s.kind with
  | .histogram => histogramPoints s.name labels s
  | _ => [⟨s.name, labels, .measured s.value⟩]

/-- The points that a sample adds to the family of an opener. -/
def pointsIn (opener s : Sample) : List Point := s.pointsUnder (opener.labelsIn s)

/-- The sample can open a family. -/
def opensFamily (s : Sample) : Bool := !(familyName s).isEmpty

end Sample

/-- Putting the ending of counters back gives the name again. -/
theorem append_totalEnding_of_withoutTotal? {name base : String}
    (h : withoutTotal? name = some base) : base ++ totalEnding = name := by
  unfold withoutTotal? at h
  dsimp only at h
  split at h
  · rename_i hsuffix
    cases h
    obtain ⟨front, hfront⟩ := List.isSuffixOf_iff_suffix.mp hsuffix
    apply String.toList_injective
    rw [String.toList_append, String.toList_ofList, ← hfront, List.length_append,
      Nat.add_sub_cancel, List.take_left]
  · cases h

/-- What a sample adds to any group that an opener of its name and kind opened; a sample that
cannot be exposed makes the grouping fail. -/
theorem pointsFor_eq_pointsIn {group : Group} {opener s : Sample}
    (hname : opener.name = s.name) (hkind : opener.kind = s.kind)
    (hsample : group.sampleName = opener.name) (hlabels : group.labelNames = opener.labelNames)
    (hfamily : group.family.name = familyName opener) (hgroup : group.family.kind = opener.kind) :
    pointsFor group s =
      if s.IsExposable then .ok (opener.pointsIn s)
      else .error ⟨s.labelNames.length, s.labelValues.length⟩ := by
  rw [pointsFor, Sample.pointsIn, Sample.pointsUnder, Sample.labelsIn]
  rw [hsample, hlabels, hfamily, hgroup, hkind, familyName, hkind, hname]
  cases hk : s.kind with
  | gauge => simp [Sample.IsExposable, Sample.isPlainCounter, hk]
  | histogram => simp [Sample.IsExposable, Sample.isPlainCounter, hk]
  | counter =>
    cases htotal : withoutTotal? s.name with
    | some base =>
      simp [Sample.IsExposable, Sample.isPlainCounter, hk, htotal,
        append_totalEnding_of_withoutTotal? htotal]
    | none =>
      simp [Sample.IsExposable, Sample.isPlainCounter, Sample.FullyLabelled, Sample.ownLabels, hk,
        htotal, eq_comm]

namespace Grouping

/-! ### Openers -/

/-- The samples whose name has not appeared before. -/
def openers : List Sample → List Sample
  | [] => []
  | s :: rest => s :: (openers rest).filter fun other => other.name ≠ s.name

/-- A sample at the end is an opener if its name is new. -/
theorem openers_concat (samples : List Sample) (s : Sample) :
    openers (samples ++ [s]) =
      if s.name ∈ samples.map Sample.name then openers samples else openers samples ++ [s] := by
  induction samples with
  | nil => simp [openers]
  | cons t rest ih =>
    simp only [List.cons_append, openers, ih, List.map_cons, List.mem_cons]
    by_cases hrest : s.name ∈ rest.map Sample.name
    · simp only [hrest, or_true, if_true]
    · rw [if_neg hrest, List.filter_append]
      by_cases ht : s.name = t.name
      · simp [ht]
      · simp [ht, hrest]

/-- Openers are samples of the list. -/
theorem mem_of_mem_openers {samples : List Sample} {s : Sample} (h : s ∈ openers samples) :
    s ∈ samples := by
  induction samples with
  | nil => exact h
  | cons t rest ih =>
    rcases List.mem_cons.mp h with rfl | hrest
    · exact List.mem_cons_self
    · exact List.mem_cons_of_mem t (ih (List.mem_of_mem_filter hrest))

/-- Every name that appears has an opener. -/
theorem exists_opener {samples : List Sample} {name : String}
    (h : name ∈ samples.map Sample.name) : ∃ opener ∈ openers samples, opener.name = name := by
  induction samples with
  | nil => simp at h
  | cons t rest ih =>
    by_cases ht : t.name = name
    · exact ⟨t, List.mem_cons_self, ht⟩
    · have hrest : name ∈ rest.map Sample.name := by
        rw [List.map_cons, List.mem_cons] at h
        exact h.resolve_left fun he => ht he.symm
      obtain ⟨opener, hmem, hname⟩ := ih hrest
      refine ⟨opener, List.mem_cons_of_mem t (List.mem_filter.mpr ⟨hmem, ?_⟩), hname⟩
      simpa [hname] using fun he => ht he.symm

/-- No two openers share a name. -/
theorem nodup_openers (samples : List Sample) : ((openers samples).map Sample.name).Nodup := by
  induction samples with
  | nil => exact List.nodup_nil
  | cons t rest ih =>
    rw [openers, List.map_cons, List.nodup_cons]
    refine ⟨?_, ?_⟩
    · rintro hmem
      obtain ⟨other, hother, hname⟩ := List.mem_map.mp hmem
      have hne := (List.mem_filter.mp hother).2
      simp [hname] at hne
    · exact ih.sublist (List.filter_sublist.map _)

/-- An opener is the only one of its name. -/
theorem eq_of_mem_openers {samples : List Sample} {s t : Sample} (hs : s ∈ openers samples)
    (ht : t ∈ openers samples) (h : s.name = t.name) : s = t :=
  List.inj_on_of_nodup_map (nodup_openers samples) hs ht h

/-- The opener of a name is the first sample of that name. -/
theorem find?_eq_opener {samples : List Sample} {opener : Sample}
    (h : opener ∈ openers samples) :
    samples.find? (fun s => s.name == opener.name) = some opener := by
  induction samples with
  | nil => cases h
  | cons t rest ih =>
    rcases List.mem_cons.mp h with rfl | hrest
    · simp
    · obtain ⟨hmem, hne⟩ := List.mem_filter.mp hrest
      have ht : t.name ≠ opener.name := fun he => by simp [he] at hne
      rw [List.find?_cons, beq_eq_false_iff_ne.mpr ht]
      exact ih hmem

/-- The first sample of a name is the opener of that name, and the other way round. -/
theorem find?_eq_some_iff_opener {samples : List Sample} {name : String} {opener : Sample} :
    samples.find? (fun s => s.name == name) = some opener ↔
      opener ∈ openers samples ∧ opener.name = name := by
  constructor
  · intro h
    have hname : opener.name = name := by simpa using List.find?_some h
    have hmem : name ∈ samples.map Sample.name :=
      List.mem_map.mpr ⟨opener, List.mem_of_find?_eq_some h, hname⟩
    obtain ⟨other, hother, hotherName⟩ := exists_opener hmem
    have hfirst := find?_eq_opener hother
    rw [hotherName, h, Option.some.injEq] at hfirst
    exact ⟨hfirst ▸ hother, hname⟩
  · rintro ⟨hmem, rfl⟩
    exact find?_eq_opener hmem

/-! ### The described grouping -/

/-- The samples that share name and kind with an opener. -/
def members (opener : Sample) (samples : List Sample) : List Sample :=
  samples.filter fun s => s.name = opener.name ∧ s.kind = opener.kind

/-- The group of an opener with the points of all its members. -/
def groupOf (samples : List Sample) (opener : Sample) : Group :=
  { openGroup opener with
    family := { (openGroup opener).family with
      points := (members opener samples).flatMap opener.pointsIn } }

/-- What is noticed about a sample that follows others. -/
def noticeAfter? (before : List Sample) (s : Sample) : Option FamilyFault :=
  match before.find? (fun other => other.name == s.name) with
  | none => if s.opensFamily then none else some (.emptyName s.name)
  | some opener =>
    if opener.opensFamily ∧ opener.kind ≠ s.kind then
      some (.otherKind s.name s.kind opener.kind)
    else none

/-- What is noticed about samples that follow others. -/
def noticesAfter (before : List Sample) : List Sample → List FamilyFault
  | [] => []
  | s :: rest => (noticeAfter? before s).toList ++ noticesAfter (before ++ [s]) rest

/-- The grouping of a list of samples. -/
def described (samples : List Sample) : Grouping where
  groups := ((openers samples).filter Sample.opensFamily).map (groupOf samples)
  rejected := ((openers samples).filter fun s => !s.opensFamily).map Sample.name
  notices := noticesAfter [] samples

theorem noticesAfter_concat (before samples : List Sample) (s : Sample) :
    noticesAfter before (samples ++ [s]) =
      noticesAfter before samples ++ (noticeAfter? (before ++ samples) s).toList := by
  induction samples generalizing before with
  | nil => simp [noticesAfter]
  | cons t rest ih => simp [noticesAfter, ih]

theorem members_concat (opener : Sample) (samples : List Sample) (s : Sample) :
    members opener (samples ++ [s]) = members opener samples ++
      if s.name = opener.name ∧ s.kind = opener.kind then [s] else [] := by
  rw [members, List.filter_append, members]
  by_cases h : s.name = opener.name ∧ s.kind = opener.kind <;> simp [h]

/-- A sample of another name or kind leaves a group as it is. -/
theorem groupOf_concat_of_not {samples : List Sample} {opener s : Sample}
    (h : ¬ (s.name = opener.name ∧ s.kind = opener.kind)) :
    groupOf (samples ++ [s]) opener = groupOf samples opener := by
  rw [groupOf, members_concat, if_neg h, List.append_nil, groupOf]

/-- The points that a sample of the group's name and kind adds. -/
theorem pointsFor_groupOf {samples : List Sample} {opener s : Sample}
    (hname : opener.name = s.name) (hkind : opener.kind = s.kind) :
    pointsFor (groupOf samples opener) s =
      if s.IsExposable then .ok (opener.pointsIn s)
      else .error ⟨s.labelNames.length, s.labelValues.length⟩ :=
  pointsFor_eq_pointsIn hname hkind rfl rfl rfl rfl

/-- A group is found under the name of its opener. -/
theorem find?_described {samples : List Sample} {opener : Sample}
    (h : opener ∈ openers samples) (hopens : opener.opensFamily) :
    (described samples).find? opener.name = some (groupOf samples opener) := by
  rw [find?, described, List.find?_map]
  have hmem : opener ∈ (openers samples).filter Sample.opensFamily :=
    List.mem_filter.mpr ⟨h, hopens⟩
  cases hfound : ((openers samples).filter Sample.opensFamily).find?
      ((fun group : Group => group.sampleName == opener.name) ∘ groupOf samples) with
  | none =>
    have hall := List.find?_eq_none.mp hfound opener hmem
    simp [groupOf, openGroup] at hall
  | some found =>
    have hname : found.name = opener.name := by
      simpa [groupOf, openGroup] using List.find?_some hfound
    have hfoundMem := List.mem_of_mem_filter (List.mem_of_find?_eq_some hfound)
    rw [eq_of_mem_openers hfoundMem h hname, Option.map_some]

/-- No group stands under a name without an opener that opened one. -/
theorem find?_described_eq_none {samples : List Sample} {name : String}
    (h : ∀ opener ∈ openers samples, opener.opensFamily → opener.name ≠ name) :
    (described samples).find? name = none := by
  rw [find?, described]
  refine List.find?_eq_none.mpr fun group hgroup => ?_
  obtain ⟨opener, hopener, rfl⟩ := List.mem_map.mp hgroup
  obtain ⟨hmem, hopens⟩ := List.mem_filter.mp hopener
  simpa [groupOf, openGroup] using h opener hmem hopens

/-- Exactly the names of openers without a family are rejected. -/
theorem mem_rejected_described {samples : List Sample} {name : String} :
    name ∈ (described samples).rejected ↔
      ∃ opener ∈ openers samples, opener.opensFamily = false ∧ opener.name = name := by
  simp [described, and_assoc]

/-! ### One more sample -/

/-- What is noticed about a sample is decided by the opener of its name. -/
theorem noticeAfter?_of_opener {samples : List Sample} {opener s : Sample}
    (h : opener ∈ openers samples) (hname : opener.name = s.name) :
    noticeAfter? samples s =
      if opener.opensFamily ∧ opener.kind ≠ s.kind then
        some (.otherKind s.name s.kind opener.kind)
      else none := by
  have hfind := find?_eq_opener h
  rw [hname] at hfind
  rw [noticeAfter?, hfind]

/-- A sample of no group's name and kind leaves all groups as they are. -/
theorem map_groupOf_concat (samples : List Sample) (s : Sample)
    (h : ∀ opener ∈ openers samples, opener.opensFamily →
      ¬ (s.name = opener.name ∧ s.kind = opener.kind)) :
    ((openers samples).filter Sample.opensFamily).map (groupOf (samples ++ [s])) =
      (described samples).groups := by
  refine List.map_congr_left fun opener hopener => ?_
  obtain ⟨hmem, hopens⟩ := List.mem_filter.mp hopener
  exact groupOf_concat_of_not (h opener hmem hopens)

/-- A sample whose name has appeared before adds to the groups and to what is noticed at most. -/
theorem described_concat_of_opener {samples : List Sample} {opener s : Sample}
    (h : opener ∈ openers samples) (hname : opener.name = s.name) :
    described (samples ++ [s]) =
      { described samples with
        groups := ((openers samples).filter Sample.opensFamily).map (groupOf (samples ++ [s]))
        notices := (described samples).notices ++ (noticeAfter? samples s).toList } := by
  have hmem : s.name ∈ samples.map Sample.name :=
    hname ▸ List.mem_map_of_mem (mem_of_mem_openers h)
  rw [described, openers_concat, if_pos hmem, noticesAfter_concat, List.nil_append, described]

/-- A sample whose name has appeared before and was rejected changes nothing. -/
theorem described_concat_of_rejected {samples : List Sample} {opener s : Sample}
    (h : opener ∈ openers samples) (hname : opener.name = s.name)
    (hopens : opener.opensFamily = false) : described (samples ++ [s]) = described samples := by
  have hgroups := map_groupOf_concat samples s fun other hother hotherOpens hsame => by
    have heq := eq_of_mem_openers hother h (hsame.1.symm.trans hname.symm)
    rw [heq, hopens] at hotherOpens
    cases hotherOpens
  rw [described_concat_of_opener h hname, hgroups, noticeAfter?_of_opener h hname, hopens]
  simp

/-- A sample of another kind than the opener of its name is only noticed. -/
theorem described_concat_of_otherKind {samples : List Sample} {opener s : Sample}
    (h : opener ∈ openers samples) (hname : opener.name = s.name)
    (hopens : opener.opensFamily) (hkind : opener.kind ≠ s.kind) :
    described (samples ++ [s]) =
      (described samples).note (.otherKind s.name s.kind opener.kind) := by
  have hgroups := map_groupOf_concat samples s fun other hother _ hsame => by
    have heq := eq_of_mem_openers hother h (hsame.1.symm.trans hname.symm)
    exact hkind (heq ▸ hsame.2.symm)
  rw [described_concat_of_opener h hname, hgroups, noticeAfter?_of_opener h hname,
    if_pos ⟨hopens, hkind⟩]
  rfl

/-- A sample of the name and the kind of an opener extends the opener's group. -/
theorem described_concat_of_member {samples : List Sample} {opener s : Sample}
    (h : opener ∈ openers samples) (hname : opener.name = s.name)
    (hkind : opener.kind = s.kind) :
    described (samples ++ [s]) = (described samples).extend s.name (opener.pointsIn s) := by
  have hgroups : ∀ other ∈ (openers samples).filter Sample.opensFamily,
      groupOf (samples ++ [s]) other =
        if (groupOf samples other).sampleName == s.name then
          { groupOf samples other with
            family := { (groupOf samples other).family with
              points := (groupOf samples other).family.points ++ opener.pointsIn s } }
        else groupOf samples other := by
    intro other hother
    by_cases hother' : other.name = s.name
    · have heq : other = opener :=
        eq_of_mem_openers (List.mem_of_mem_filter hother) h (hother'.trans hname.symm)
      subst heq
      simp [groupOf, members_concat, openGroup, hname, hkind]
    · rw [groupOf_concat_of_not fun hsame => hother' hsame.1.symm]
      simp [groupOf, openGroup, hother']
  rw [described_concat_of_opener h hname, List.map_congr_left hgroups,
    noticeAfter?_of_opener h hname, if_neg fun hnot => hnot.2 hkind]
  simp [extend, described]

/-- A sample of a new name opens a group or is rejected. -/
theorem described_concat_of_new {samples : List Sample} {s : Sample}
    (h : s.name ∉ samples.map Sample.name) :
    described (samples ++ [s]) =
      if s.opensFamily then
        { described samples with groups := (described samples).groups ++ [groupOf [s] s] }
      else { described samples with
        rejected := (described samples).rejected ++ [s.name] }.note (.emptyName s.name) := by
  have hfind : samples.find? (fun other => other.name == s.name) = none :=
    List.find?_eq_none.mpr fun other hother => by
      simpa using fun he : other.name = s.name => h (he ▸ List.mem_map_of_mem hother)
  have hgroups := map_groupOf_concat samples s fun other hother _ hsame =>
    h (hsame.1 ▸ List.mem_map_of_mem (mem_of_mem_openers hother))
  -- the only member of the new group is the sample itself
  have hmembers : members s samples = [] :=
    List.filter_eq_nil_iff.mpr fun other hother hsame => by
      simp only [decide_eq_true_eq] at hsame
      exact h (hsame.1 ▸ List.mem_map_of_mem hother)
  have hown : groupOf (samples ++ [s]) s = groupOf [s] s := by
    rw [groupOf, groupOf, members_concat, hmembers, ← List.nil_append [s], members_concat]
    rfl
  cases hopens : s.opensFamily with
  | true =>
    have hnotice : noticeAfter? samples s = none := by simp [noticeAfter?, hfind, hopens]
    rw [described, openers_concat, if_neg h, List.filter_append, List.map_append, hgroups,
      noticesAfter_concat, List.nil_append, hnotice]
    simp [hopens, hown, described]
  | false =>
    have hnotice : noticeAfter? samples s = some (.emptyName s.name) := by
      simp [noticeAfter?, hfind, hopens]
    rw [described, openers_concat, if_neg h, List.filter_append, List.map_append, hgroups,
      noticesAfter_concat, List.nil_append, hnotice]
    simp [hopens, described, note]

/-! ### The main statement -/

/-- Points for a group that was opened last go into that group alone. -/
theorem extend_append_openGroup {grouping : Grouping} {s : Sample} {points : List Point}
    (h : ∀ group ∈ grouping.groups, group.sampleName ≠ s.name) :
    { grouping with groups := grouping.groups ++ [openGroup s] }.extend s.name points =
      { grouping with groups := grouping.groups ++
          [{ openGroup s with family := { (openGroup s).family with points := points } }] } := by
  have hold : ∀ group ∈ grouping.groups, (group.sampleName == s.name) = false :=
    fun group hgroup => beq_eq_false_iff_ne.mpr (h group hgroup)
  rw [extend]
  simp only [List.map_append, List.map_cons, List.map_nil]
  congr 2
  · calc grouping.groups.map _ = grouping.groups.map id :=
          List.map_congr_left fun group hgroup => by simp [hold group hgroup]
      _ = grouping.groups := List.map_id _
  · simp [openGroup]

/-- A sample that follows others joins a group: that of the first sample of its name, or one of its
own. -/
def joinsAfter (before : List Sample) (s : Sample) : Bool :=
  match before.find? (fun other => other.name == s.name) with
  | none => s.opensFamily
  | some opener => opener.opensFamily && opener.kind == s.kind

/-- Adding a sample to a described grouping gives the described grouping, unless it joins a group
and cannot be exposed. -/
theorem add_described (samples : List Sample) (s : Sample) :
    (described samples).add s =
      if joinsAfter samples s = true → s.IsExposable then .ok (described (samples ++ [s]))
      else .error ⟨s.labelNames.length, s.labelValues.length⟩ := by
  by_cases hmem : s.name ∈ samples.map Sample.name
  · -- the name has appeared: its opener decides
    obtain ⟨opener, hopener, hname⟩ := exists_opener hmem
    have hjoins : joinsAfter samples s = (opener.opensFamily && opener.kind == s.kind) := by
      have hfind := find?_eq_opener hopener
      rw [hname] at hfind
      rw [joinsAfter, hfind]
    rw [hjoins]
    cases hopens : opener.opensFamily with
    | false =>
      have hrejected : s.name ∈ (described samples).rejected :=
        mem_rejected_described.mpr ⟨opener, hopener, hopens, hname⟩
      rw [add, if_pos hrejected, described_concat_of_rejected hopener hname hopens]
      simp
    | true =>
      have hrejected : s.name ∉ (described samples).rejected := by
        rintro hin
        obtain ⟨other, hother, hotherOpens, hotherName⟩ := mem_rejected_described.mp hin
        rw [eq_of_mem_openers hother hopener (hotherName.trans hname.symm), hopens] at hotherOpens
        cases hotherOpens
      have hfind : (described samples).find? s.name = some (groupOf samples opener) :=
        hname ▸ find?_described hopener hopens
      rw [add, if_neg hrejected, hfind]
      by_cases hkind : opener.kind = s.kind
      · rw [described_concat_of_member hopener hname hkind]
        change (if opener.kind = s.kind then _ else _) = _
        rw [if_pos hkind, pointsFor_groupOf hname hkind]
        by_cases hs : s.IsExposable
        · simp [hs, Except.map]
        · simp [hs, hkind, Except.map]
      · rw [described_concat_of_otherKind hopener hname hopens hkind]
        change (if opener.kind = s.kind then _ else _) = _
        rw [if_neg hkind]
        simp [hkind, groupOf, openGroup]
  · -- the name is new: the sample is its own opener
    have hrejected : s.name ∉ (described samples).rejected := by
      rintro hin
      obtain ⟨other, hother, -, hotherName⟩ := mem_rejected_described.mp hin
      exact hmem (hotherName ▸ List.mem_map_of_mem (mem_of_mem_openers hother))
    have hfind : (described samples).find? s.name = none :=
      find?_described_eq_none fun other hother _ he =>
        hmem (he ▸ List.mem_map_of_mem (mem_of_mem_openers hother))
    have hjoins : joinsAfter samples s = s.opensFamily := by
      have hnone : samples.find? (fun other => other.name == s.name) = none :=
        List.find?_eq_none.mpr fun other hother => by
          simpa using fun he : other.name = s.name => hmem (he ▸ List.mem_map_of_mem hother)
      rw [joinsAfter, hnone]
    rw [add, if_neg hrejected, hfind, described_concat_of_new hmem, hjoins]
    cases hopens : s.opensFamily with
    | false =>
      have hempty : (familyName s).isEmpty = true := by simpa [Sample.opensFamily] using hopens
      simp [hempty]
    | true =>
      have hempty : (familyName s).isEmpty = false := by simpa [Sample.opensFamily] using hopens
      have hpoints : pointsFor (openGroup s) s =
          if s.IsExposable then .ok (s.pointsIn s)
          else .error ⟨s.labelNames.length, s.labelValues.length⟩ :=
        pointsFor_eq_pointsIn rfl rfl rfl rfl rfl rfl
      have hold : ∀ group ∈ (described samples).groups, group.sampleName ≠ s.name := by
        rintro group hgroup he
        have hnone := List.find?_eq_none.mp hfind group hgroup
        simp [he] at hnone
      simp only [hempty, Bool.false_eq_true, if_false, if_true, hpoints, forall_const]
      by_cases hs : s.IsExposable
      · rw [if_pos hs, if_pos hs]
        simp only [Except.map]
        rw [extend_append_openGroup hold]
        simp [groupOf, members]
      · rw [if_neg hs, if_neg hs]
        rfl

/-- One more sample at the end is added last. -/
theorem ofSamples_concat (samples : List Sample) (s : Sample) :
    ofSamples (samples ++ [s]) = (ofSamples samples).bind (·.add s) := by
  rw [ofSamples, ofSamples, List.foldlM_append]
  change (samples.foldlM add {} >>= fun grouping => [s].foldlM add grouping) = _
  simp only [List.foldlM_cons, List.foldlM_nil, bind_pure]
  rfl

/-- **Grouping.** A grouping of samples is the described one. -/
theorem eq_described_of_ofSamples {samples : List Sample} {grouping : Grouping}
    (h : ofSamples samples = .ok grouping) : grouping = described samples := by
  induction samples using List.reverseRecOn generalizing grouping with
  | nil => exact (Except.ok.inj h).symm
  | append_singleton front s ih =>
    rw [ofSamples_concat] at h
    cases hfront : ofSamples front with
    | error mismatch =>
      rw [hfront] at h
      cases h
    | ok before =>
      rw [hfront, ih hfront] at h
      change (described front).add s = .ok grouping at h
      rw [add_described] at h
      split at h
      · exact (Except.ok.inj h).symm
      · cases h

/-- Fully labelled samples can always be grouped. -/
theorem ofSamples_eq_described {samples : List Sample} (h : ∀ s ∈ samples, s.FullyLabelled) :
    ofSamples samples = .ok (described samples) := by
  induction samples using List.reverseRecOn with
  | nil => rfl
  | append_singleton front s ih =>
    have hfront : ofSamples front = .ok (described front) :=
      ih fun other hother => h other (List.mem_append_left _ hother)
    have hs : s.FullyLabelled := h s (List.mem_append_right _ List.mem_cons_self)
    rw [ofSamples_concat, hfront]
    change (described front).add s = _
    rw [add_described, if_pos fun _ => hs.isExposable]

end Grouping

end QueryMetrics
