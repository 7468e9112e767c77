import Mathlib.Data.List.Induction
import QueryMetrics.Metric.Family
import QueryMetrics.Proofs.Number.Order

/-!
# Merging and sorting buckets

Bounds are compared by position, so `1`, `1.0` and `1e0` are one bound, and so are the two zeros.
All that merging relies on is that this comparison is symmetric and transitive
(`Entries.Coherent`); a NaN does not even agree with itself.

* Of every bound there is one bucket at most, with the last count that was read for it
  (`valuesLike_mergeBuckets`).
* Sorted buckets ascend strictly if no bound is a NaN and none comes twice
  (`pairwise_lt_sortedBuckets`).
-/

namespace QueryMetrics

/-! ### Merging under a comparison of keys -/

namespace Entries

variable {κ α : Type} {same : κ → κ → Bool} {key other : κ} {value : α}

/-- The values under keys that are the same as a key. -/
def valuesLike (same : κ → κ → Bool) (key : κ) (entries : List (κ × α)) : List α :=
  (entries.filter fun entry => same entry.1 key).map (·.2)

/-- The comparison of keys is symmetric and transitive. A key need not be the same as itself. -/
structure Coherent (same : κ → κ → Bool) : Prop where
  symm {a b : κ} : same a b = true → same b a = true
  trans {a b c : κ} : same a b = true → same b c = true → same a c = true

theorem valuesLike_cons (same : κ → κ → Bool) (key : κ) (entry : κ × α) (rest : List (κ × α)) :
    valuesLike same key (entry :: rest) =
      if same entry.1 key then entry.2 :: valuesLike same key rest
      else valuesLike same key rest := by
  rw [valuesLike, List.filter_cons]
  split <;> rfl

theorem valuesLike_append (same : κ → κ → Bool) (key : κ) (first second : List (κ × α)) :
    valuesLike same key (first ++ second) =
      valuesLike same key first ++ valuesLike same key second := by
  simp [valuesLike]

theorem putBy_nil : putBy same key value [] = [(key, value)] := rfl

theorem putBy_cons (entry : κ × α) (rest : Entries κ α) :
    putBy same key value (entry :: rest) =
      if same entry.1 key then (entry.1, value) :: rest
      else entry :: putBy same key value rest := rfl

/-- A written value takes the place of the first one under the same key. -/
theorem valuesLike_putBy (h : Coherent same) (hsame : same key other = true)
    (entries : Entries κ α) :
    valuesLike same other (putBy same key value entries) =
      value :: (valuesLike same other entries).tail := by
  induction entries with
  | nil => simp [putBy_nil, valuesLike, hsame]
  | cons entry rest ih =>
    rw [putBy_cons]
    by_cases hentry : same entry.1 key = true
    · have hother : same entry.1 other = true := h.trans hentry hsame
      rw [if_pos hentry, valuesLike_cons, valuesLike_cons, if_pos hother, if_pos hother,
        List.tail_cons]
    · have hother : ¬ same entry.1 other = true := fun hboth =>
        hentry (h.trans hboth (h.symm hsame))
      rw [if_neg hentry, valuesLike_cons, valuesLike_cons, if_neg hother, if_neg hother, ih]

/-- What stands under other keys is not touched. -/
theorem valuesLike_putBy_of_not (h : Coherent same) (hother : ¬ same key other = true)
    (entries : Entries κ α) :
    valuesLike same other (putBy same key value entries) = valuesLike same other entries := by
  induction entries with
  | nil => simp [putBy_nil, valuesLike, hother]
  | cons entry rest ih =>
    rw [putBy_cons]
    by_cases hentry : same entry.1 key = true
    · have hnot : ¬ same entry.1 other = true := fun hboth =>
        hother (h.trans (h.symm hentry) hboth)
      rw [if_pos hentry, valuesLike_cons, valuesLike_cons, if_neg hnot, if_neg hnot]
    · rw [if_neg hentry, valuesLike_cons, valuesLike_cons, ih]

/-- Of the values that are written under the same key, the last one stays, and there is no other. -/
theorem valuesLike_foldl_putBy (h : Coherent same) (key : κ) (written : List (κ × α)) :
    valuesLike same key
        (written.foldl (fun table entry => putBy same entry.1 entry.2 table) []) =
      (valuesLike same key written).getLast?.toList := by
  induction written using List.reverseRecOn with
  | nil => rfl
  | append_singleton front entry ih =>
    rw [List.foldl_append, List.foldl_cons, List.foldl_nil, valuesLike_append, valuesLike_cons]
    by_cases hentry : same entry.1 key = true
    · -- at most one value stood there before, and it is replaced
      rw [valuesLike_putBy h hentry, ih, if_pos hentry]
      cases (valuesLike same key front).getLast? <;> simp [valuesLike]
    · rw [valuesLike_putBy_of_not h hentry, ih, if_neg hentry]
      simp [valuesLike]

/-- Where no key has two values, no two keys are the same. -/
theorem pairwise_not_same (h : Coherent same) {entries : List (κ × α)}
    (hone : ∀ key, (valuesLike same key entries).length ≤ 1) :
    entries.Pairwise fun a b => ¬ same a.1 b.1 = true := by
  induction entries with
  | nil => exact .nil
  | cons entry rest ih =>
    refine .cons (fun other hother hsame => ?_) (ih fun key => ?_)
    · have hone := hone other.1
      have hself : same other.1 other.1 = true := h.trans (h.symm hsame) hsame
      have hrest : other.2 ∈ valuesLike same other.1 rest :=
        List.mem_map_of_mem (List.mem_filter.mpr ⟨hother, hself⟩)
      rw [valuesLike_cons, if_pos hsame, List.length_cons] at hone
      have := List.length_pos_of_mem hrest
      omega
    · have hone := hone key
      rw [valuesLike_cons] at hone
      split at hone
      · rw [List.length_cons] at hone
        omega
      · exact hone

/-- A write adds its own key at most. -/
theorem mem_keys_putBy {entries : Entries κ α} (h : other ∈ (putBy same key value entries).keys) :
    other ∈ entries.keys ∨ other = key := by
  induction entries with
  | nil => exact .inr (List.mem_singleton.mp h)
  | cons entry rest ih =>
    rw [putBy_cons] at h
    split at h
    · exact .inl h
    · obtain rfl | hrest := List.mem_cons.mp h
      · exact .inl List.mem_cons_self
      · exact (ih hrest).imp_left (List.mem_cons_of_mem _)

/-- No key is there that was not written. -/
theorem mem_keys_foldl_putBy {written : List (κ × α)}
    (h : key ∈ Entries.keys
      (written.foldl (fun table entry => putBy same entry.1 entry.2 table) [])) :
    key ∈ written.map (·.1) := by
  induction written using List.reverseRecOn with
  | nil => cases h
  | append_singleton front last ih =>
    rw [List.foldl_append, List.foldl_cons, List.foldl_nil] at h
    rw [List.map_append, List.mem_append]
    exact (mem_keys_putBy h).imp ih List.mem_singleton.mpr

end Entries

/-! ### Bounds -/

namespace Binary64

variable {x y : Binary64}

theorem agrees_iff : x.agrees y = true ↔ ∃ a, x.position? = some a ∧ y.position? = some a := by
  have hequal : x.agrees y = true ↔
      ∃ a b, x.position? = some a ∧ y.position? = some b ∧ a = b := compared_iff
  rw [hequal]
  constructor
  · rintro ⟨a, _, hx, hy, rfl⟩
    exact ⟨a, hx, hy⟩
  · rintro ⟨a, hx, hy⟩
    exact ⟨a, a, hx, hy, rfl⟩

/-- Numbers are compared by where they stand. -/
theorem coherent_agrees : Entries.Coherent agrees where
  symm h := by
    obtain ⟨a, hx, hy⟩ := agrees_iff.mp h
    exact agrees_iff.mpr ⟨a, hy, hx⟩
  trans h h' := by
    obtain ⟨a, hx, hy⟩ := agrees_iff.mp h
    obtain ⟨b, hy', hz⟩ := agrees_iff.mp h'
    rw [hy] at hy'
    cases hy'
    exact agrees_iff.mpr ⟨a, hx, hz⟩

protected theorem lt_of_le_of_not_agrees (h : x ≤ y) (hnot : ¬ x.agrees y = true) : x < y := by
  obtain ⟨a, b, hx, hy, hab⟩ := le_iff.mp h
  have hne : a ≠ b := by
    rintro rfl
    exact hnot (agrees_iff.mpr ⟨a, hx, hy⟩)
  exact lt_iff.mpr ⟨a, b, hx, hy, by omega⟩

/-- Of two numbers that are no NaN, one is at most the other. -/
protected theorem le_total (hx : x ≠ nan) (hy : y ≠ nan) : x ≤ y ∨ y ≤ x := by
  obtain ⟨a, ha⟩ := exists_position hx
  obtain ⟨b, hb⟩ := exists_position hy
  obtain hab | hba := Int.le_total a b
  · exact .inl (le_iff.mpr ⟨a, b, ha, hb, hab⟩)
  · exact .inr (le_iff.mpr ⟨b, a, hb, ha, hba⟩)

end Binary64

variable {buckets : Entries Binary64 Int}

/-- Of every bound there is one bucket at most, with the last count that was read for it. -/
theorem valuesLike_mergeBuckets (x : Binary64) (read : List (Binary64 × Int)) :
    Entries.valuesLike Binary64.agrees x (mergeBuckets read) =
      (Entries.valuesLike Binary64.agrees x read).getLast?.toList :=
  Entries.valuesLike_foldl_putBy Binary64.coherent_agrees x read

/-- Sorting keeps the buckets. -/
theorem sortedBuckets_perm (hnan : ∀ bucket ∈ buckets, bucket.1 ≠ .nan) :
    (sortedBuckets buckets).Perm buckets := by
  have hall : buckets.all (fun bucket => bucket.1 ≠ .nan) = true := by simpa using hnan
  rw [sortedBuckets, if_pos hall]
  exact List.mergeSort_perm _ _

/-- Sorted buckets do not descend. -/
theorem pairwise_le_sortedBuckets (hnan : ∀ bucket ∈ buckets, bucket.1 ≠ .nan) :
    (sortedBuckets buckets).Pairwise fun a b => a.1 ≤ b.1 := by
  -- among numbers that are no NaN the order is that of a total one, which puts a NaN behind them
  let below (a b : Binary64 × Int) : Bool := b.1 = .nan ∨ a.1 ≤ b.1
  have hall : buckets.all (fun bucket => bucket.1 ≠ .nan) = true := by simpa using hnan
  have hbelow : sortedBuckets buckets = buckets.mergeSort below := by
    have hsame := List.map_mergeSort (r := fun a b : Binary64 × Int => a.1.le b.1) (s := below)
      (f := id) (l := buckets) fun a _ b hb => by
        have hle : (a.1 ≤ b.1) = (a.1.le b.1 = true) := rfl
        simp [below, hnan b hb, hle]
    rw [sortedBuckets, if_pos hall]
    simpa using hsame
  have htrans : ∀ a b c, below a b = true → below b c = true → below a c = true := by
    intro a b c hab hbc
    simp only [below, decide_eq_true_eq] at hab hbc ⊢
    obtain hc | hbc := hbc
    · exact .inl hc
    · exact hab.elim (fun hb => absurd hb (Binary64.ne_nan_of_le hbc).1)
        fun hab => .inr (Binary64.le_trans hab hbc)
  have htotal : ∀ a b, (below a b || below b a) = true := by
    intro a b
    simp only [below, Bool.or_eq_true, decide_eq_true_eq]
    by_cases ha : a.1 = .nan
    · exact .inr (.inl ha)
    · by_cases hb : b.1 = .nan
      · exact .inl (.inl hb)
      · exact (Binary64.le_total ha hb).imp .inr .inr
  have hsorted := List.pairwise_mergeSort htrans htotal buckets
  rw [← hbelow] at hsorted
  refine hsorted.imp_of_mem fun _ hb hab => ?_
  simp only [below, decide_eq_true_eq] at hab
  exact hab.resolve_left (hnan _ ((sortedBuckets_perm hnan).mem_iff.mp hb))

/-- Sorted buckets ascend strictly if no bound comes twice. -/
theorem pairwise_lt_sortedBuckets (hnan : ∀ bucket ∈ buckets, bucket.1 ≠ .nan)
    (hapart : buckets.Pairwise fun a b => ¬ a.1.agrees b.1 = true) :
    (sortedBuckets buckets).Pairwise fun a b => a.1 < b.1 := by
  have hsymm : ∀ {a b : Binary64 × Int},
      ¬ a.1.agrees b.1 = true → ¬ b.1.agrees a.1 = true :=
    fun hnot hsame => hnot (Binary64.coherent_agrees.symm hsame)
  have hsorted := ((sortedBuckets_perm hnan).pairwise_iff hsymm).mpr hapart
  exact (pairwise_le_sortedBuckets hnan).imp₂
    (fun _ _ hle hnot => Binary64.lt_of_le_of_not_agrees hle hnot) hsorted

end QueryMetrics
