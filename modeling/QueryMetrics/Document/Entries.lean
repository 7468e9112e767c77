/-!
# Entries in order

Tables keep their entries in the order in which the keys first appeared. Writing a key again
changes the value in its old place, so the order of keys never depends on later writes.

`putBy` takes the test for equal keys as an argument: names are compared as strings, bucket
bounds by numeric position.
-/

namespace QueryMetrics

/-- Keys with their values, in order of first appearance. -/
abbrev Entries (κ α : Type) := List (κ × α)

namespace Entries

variable {κ α : Type}

/-- Writes a value; a key that is already there keeps its place and its spelling. -/
def putBy (same : κ → κ → Bool) (key : κ) (value : α) : Entries κ α → Entries κ α
  | [] => [(key, value)]
  | entry :: rest =>
    if same entry.1 key then (entry.1, value) :: rest else entry :: putBy same key value rest

/-- Writes a value under a key. -/
def put [BEq κ] (key : κ) (value : α) (entries : Entries κ α) : Entries κ α :=
  putBy (· == ·) key value entries

/-- The value under a key. -/
def find? [BEq κ] (key : κ) (entries : Entries κ α) : Option α :=
  (List.find? (fun entry => entry.1 == key) entries).map (·.2)

/-- The key has a value. -/
def has [BEq κ] (key : κ) (entries : Entries κ α) : Bool := (entries.find? key).isSome

/-- Writes entries one after another into an empty table. -/
def ofList [BEq κ] (entries : List (κ × α)) : Entries κ α :=
  entries.foldl (fun table entry => table.put entry.1 entry.2) []

/-- The keys in order. -/
def keys (entries : Entries κ α) : List κ := entries.map (·.1)

/-- Keeps the entries whose key passes the test. -/
def keep (test : κ → Bool) (entries : Entries κ α) : Entries κ α :=
  entries.filter fun entry => test entry.1

/-! ### Lookup after a write -/

@[simp] theorem find?_nil [BEq κ] (key : κ) : find? key ([] : Entries κ α) = none := rfl

@[simp] theorem find?_cons [BEq κ] (key : κ) (entry : κ × α) (rest : Entries κ α) :
    find? key (entry :: rest) = if entry.1 == key then some entry.2 else find? key rest := by
  unfold find?
  rw [List.find?_cons]
  split <;> simp_all

/-- A kept entry was there before. -/
theorem mem_of_mem_keep {test : κ → Bool} {entries : Entries κ α} {entry : κ × α}
    (h : entry ∈ keep test entries) : entry ∈ entries :=
  (List.mem_filter.mp h).1

/-- The keys that are kept pass the test. -/
theorem keys_keep (test : κ → Bool) (entries : Entries κ α) :
    (keep test entries).keys = entries.keys.filter test :=
  List.filter_map.symm

/-- What is read back was written down. -/
theorem exists_mem_of_find? [BEq κ] {key : κ} {entries : Entries κ α} {value : α}
    (h : find? key entries = some value) : ∃ entry ∈ entries, entry.2 = value := by
  obtain ⟨entry, hentry, rfl⟩ := Option.map_eq_some_iff.mp h
  exact ⟨entry, List.mem_of_find?_eq_some hentry, rfl⟩

@[simp] theorem put_nil [BEq κ] (key : κ) (value : α) : put key value [] = [(key, value)] := rfl

@[simp] theorem put_cons [BEq κ] (key : κ) (value : α) (entry : κ × α) (rest : Entries κ α) :
    put key value (entry :: rest) =
      if entry.1 == key then (entry.1, value) :: rest else entry :: put key value rest := rfl

/-- After a write, an entry was there before or has the written value. -/
theorem mem_put [BEq κ] {key : κ} {value : α} {entries : Entries κ α} {entry : κ × α}
    (h : entry ∈ put key value entries) : entry ∈ entries ∨ entry.2 = value := by
  induction entries with
  | nil =>
    rw [put_nil, List.mem_singleton] at h
    exact .inr (by rw [h])
  | cons first rest ih =>
    rw [put_cons] at h
    split at h
    · rcases List.mem_cons.mp h with rfl | hrest
      · exact .inr rfl
      · exact .inl (List.mem_cons_of_mem first hrest)
    · rcases List.mem_cons.mp h with rfl | hrest
      · exact .inl List.mem_cons_self
      · exact (ih hrest).imp_left (List.mem_cons_of_mem first)

/-- A new key is written behind the others. -/
theorem put_of_find?_eq_none [BEq κ] {key : κ} {entries : Entries κ α} (h : find? key entries = none)
    (value : α) : put key value entries = entries ++ [(key, value)] := by
  induction entries with
  | nil => rfl
  | cons entry rest ih =>
    rw [find?_cons] at h
    split at h
    · cases h
    · rename_i hne
      rw [put_cons, if_neg hne, ih h, List.cons_append]

/-- Both tables have the same entries, in any order, and read back the same values. -/
structure SameTable [BEq κ] (first second : Entries κ α) : Prop where
  perm : first.Perm second
  find? (key : κ) : find? key first = find? key second

theorem SameTable.refl [BEq κ] (entries : Entries κ α) : SameTable entries entries :=
  ⟨.refl _, fun _ => rfl⟩

theorem SameTable.trans [BEq κ] {first second third : Entries κ α} (h : SameTable first second)
    (h' : SameTable second third) : SameTable first third :=
  ⟨h.perm.trans h'.perm, fun key => (h.find? key).trans (h'.find? key)⟩

variable [BEq κ] [LawfulBEq κ]

/-- Kept keys read back what they did, and others nothing. -/
theorem find?_keep (test : κ → Bool) (key : κ) (entries : Entries κ α) :
    find? key (keep test entries) = if test key then find? key entries else none := by
  induction entries with
  | nil => simp [keep]
  | cons entry rest ih =>
    have hkeep : keep test (entry :: rest) =
        if test entry.1 then entry :: keep test rest else keep test rest := by
      simp [keep, List.filter_cons]
    rw [hkeep]
    by_cases hkey : entry.1 = key
    · subst hkey
      cases htest : test entry.1 <;> simp [htest, ih]
    · cases htest : test entry.1 <;> simp [ih, hkey]

/-- A key reads back what was written last. -/
theorem find?_put_self (key : κ) (value : α) (entries : Entries κ α) :
    find? key (put key value entries) = some value := by
  induction entries with
  | nil => simp
  | cons entry rest ih =>
    by_cases h : entry.1 == key
    · simp [h]
    · simp [h, ih]

/-- A write leaves the other keys alone. -/
theorem find?_put_of_ne {key other : κ} (h : other ≠ key) (value : α) (entries : Entries κ α) :
    find? other (put key value entries) = find? other entries := by
  have hne : ¬ (key == other) = true := fun he => h (eq_of_beq he).symm
  induction entries with
  | nil => simp [hne]
  | cons entry rest ih =>
    by_cases hk : entry.1 == key
    · have heq : entry.1 = key := eq_of_beq hk
      simp [heq, hne]
    · simp [hk, ih]

/-! ### Keys -/

/-- A key stands in a table exactly if it has a value. -/
theorem mem_keys_iff {key : κ} {entries : Entries κ α} :
    key ∈ entries.keys ↔ ∃ value, find? key entries = some value := by
  induction entries with
  | nil => simp [keys]
  | cons entry rest ih =>
    by_cases h : entry.1 = key
    · simp [keys, h]
    · have hne : key ≠ entry.1 := Ne.symm h
      rw [keys] at ih ⊢
      simp [ih, h, hne]

/-- A write adds its own key at most. -/
theorem mem_keys_put {key other : κ} {value : α} {entries : Entries κ α} :
    other ∈ (put key value entries).keys ↔ other = key ∨ other ∈ entries.keys := by
  by_cases h : other = key
  · simp [mem_keys_iff, h, find?_put_self]
  · simp [mem_keys_iff, h, find?_put_of_ne h]

/-- A write keeps the keys in their order; a new one stands behind the others. -/
theorem keys_put (key : κ) (value : α) (entries : Entries κ α) :
    (put key value entries).keys =
      if key ∈ entries.keys then entries.keys else entries.keys ++ [key] := by
  induction entries with
  | nil => simp [keys]
  | cons entry rest ih =>
    have hcons : ∀ table : Entries κ α, keys (entry :: table) = entry.1 :: keys table :=
      fun _ => rfl
    by_cases h : entry.1 = key
    · simp [keys, h]
    · rw [put_cons, if_neg (by simpa using h), hcons, hcons, ih]
      by_cases hmem : key ∈ keys rest
      · rw [if_pos hmem, if_pos (List.mem_cons_of_mem entry.1 hmem)]
      · rw [if_neg hmem, if_neg (by simp [hmem, Ne.symm h]), List.cons_append]

/-- A write keeps keys distinct. -/
theorem nodup_keys_put {entries : Entries κ α} (h : entries.keys.Nodup) (key : κ) (value : α) :
    (put key value entries).keys.Nodup := by
  rw [keys_put]
  by_cases hkey : key ∈ entries.keys
  · rwa [if_pos hkey]
  · rw [if_neg hkey]
    refine List.nodup_append.mpr ⟨h, by simp, fun old hold new hnew => ?_⟩
    rw [List.mem_singleton.mp hnew]
    rintro rfl
    exact hkey hold

/-- What a key reads back stands under that key. -/
theorem mem_of_find? {key : κ} {entries : Entries κ α} {value : α}
    (h : find? key entries = some value) : (key, value) ∈ entries := by
  obtain ⟨entry, hentry, rfl⟩ := Option.map_eq_some_iff.mp h
  have hkey := List.find?_some hentry
  rw [← eq_of_beq hkey]
  exact List.mem_of_find?_eq_some hentry

/-- In a table with distinct keys, every entry is what its key reads back. -/
theorem find?_of_mem {entries : Entries κ α} (h : entries.keys.Nodup) {entry : κ × α}
    (hentry : entry ∈ entries) : find? entry.1 entries = some entry.2 := by
  induction entries with
  | nil => cases hentry
  | cons first rest ih =>
    obtain ⟨hfirst, hrest⟩ := List.nodup_cons.mp h
    rcases List.mem_cons.mp hentry with rfl | hmem
    · simp
    · have hne : first.1 ≠ entry.1 := fun he => hfirst (List.mem_map.mpr ⟨entry, hmem, he.symm⟩)
      simpa [hne] using ih hrest hmem

/-! ### The same table in another order -/

/-- A key that is there has its entry replaced. -/
theorem put_perm_of_find?_eq_some [DecidableEq α] {key : κ} {old : α} {entries : Entries κ α}
    (h : find? key entries = some old) (value : α) :
    (put key value entries).Perm ((key, value) :: entries.erase (key, old)) := by
  induction entries with
  | nil => cases h
  | cons entry rest ih =>
    rw [find?_cons] at h
    split at h
    · rename_i hkey
      obtain rfl : entry = (key, old) := Prod.ext (eq_of_beq hkey) (Option.some.inj h)
      rw [put_cons, if_pos hkey, List.erase_cons_head]
    · rename_i hne
      have hentry : (entry == (key, old)) = false := by
        rw [beq_eq_false_iff_ne]
        rintro rfl
        exact hne BEq.rfl
      rw [put_cons, if_neg hne, List.erase_cons_tail (by simpa using hentry)]
      exact ((ih h).cons entry).trans (.swap ..)

/-- The same write makes no difference. -/
theorem SameTable.put [DecidableEq α] {first second : Entries κ α} (h : SameTable first second)
    (key : κ) (value : α) : SameTable (put key value first) (put key value second) := by
  constructor
  · cases hfirst : Entries.find? key first with
    | none =>
      rw [put_of_find?_eq_none hfirst, put_of_find?_eq_none ((h.find? key).symm.trans hfirst)]
      exact h.perm.append_right _
    | some old =>
      have hsecond := put_perm_of_find?_eq_some ((h.find? key).symm.trans hfirst) value
      exact (put_perm_of_find?_eq_some hfirst value).trans
        (((h.perm.erase _).cons _).trans hsecond.symm)
  · intro other
    by_cases hkey : other = key
    · rw [hkey, find?_put_self, find?_put_self]
    · rw [find?_put_of_ne hkey, find?_put_of_ne hkey, h.find? other]

/-- Writes under two keys can be made in either order. -/
theorem sameTable_put_put {key other : κ} (hne : key ≠ other) (value value' : α)
    (entries : Entries κ α) :
    SameTable (put key value (put other value' entries))
      (put other value' (put key value entries)) := by
  constructor
  · induction entries with
    | nil => simpa [hne, hne.symm] using List.Perm.swap ..
    | cons entry rest ih =>
      by_cases hkey : entry.1 = key
      · simp [hkey, hne]
      · by_cases hother : entry.1 = other
        · simp [hother, hne.symm]
        · simpa [hkey, hother] using ih
  · intro name
    by_cases hkey : name = key
    · rw [hkey, find?_put_self, find?_put_of_ne hne, find?_put_self]
    · by_cases hother : name = other
      · rw [hother, find?_put_of_ne (Ne.symm hne), find?_put_self, find?_put_self]
      · rw [find?_put_of_ne hkey, find?_put_of_ne hother, find?_put_of_ne hother,
          find?_put_of_ne hkey]

end Entries

end QueryMetrics
