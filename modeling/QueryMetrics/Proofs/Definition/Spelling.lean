import QueryMetrics.Proofs.Definition.Decoding

/-!
# Tables that are spelled differently

Two tables say the same in different spellings if they agree entry by entry, except that the keys
and some of the names inside are only the same in lower case (`Definition.SpelledAlike`). Which
names these are depends on the field: the labels, the columns, the bucket columns, the words for
kinds, and the suffix column. All other values are the same.

Reading such tables runs in step. What is read on the way may still be spelled differently
(`Checked.Alike`), until the keys are put in lower case, where equal keys fall together at the same
places (`Entries.alike_ofList`). So either both tables are refused, or both give the same definition
(`Definition.alike_ofValue`).
-/

namespace QueryMetrics

open Text

/-! ### Tables with related values -/

namespace Entries

variable {κ α β : Type}

/-- The same keys in the same order, with related values. -/
def Alike (related : κ → α → β → Prop) : Entries κ α → Entries κ β → Prop :=
  List.Forall₂ fun entry entry' => entry.1 = entry'.1 ∧ related entry.1 entry.2 entry'.2

variable [BEq κ] {related : κ → α → β → Prop} {first : Entries κ α} {second : Entries κ β}

theorem Alike.put [LawfulBEq κ] (h : Alike related first second) {key : κ} {value : α} {value' : β}
    (hvalue : related key value value') :
    Alike related (put key value first) (put key value' second) := by
  induction h with
  | nil => exact .cons ⟨rfl, hvalue⟩ .nil
  | @cons entry entry' rest rest' hentry hrest ih =>
    rw [put_cons, put_cons, ← hentry.1]
    by_cases hkey : entry.1 = key
    · subst hkey
      rw [if_pos BEq.rfl, if_pos BEq.rfl]
      exact .cons ⟨rfl, hvalue⟩ hrest
    · rw [if_neg (by simpa using hkey), if_neg (by simpa using hkey)]
      exact .cons hentry ih

/-- Writing the same keys with related values keeps tables alike. -/
theorem Alike.foldl_put [LawfulBEq κ] {entries : List (κ × α)} {entries' : List (κ × β)}
    (hentries : Alike related entries entries') (h : Alike related first second) :
    Alike related (entries.foldl (fun table entry => table.put entry.1 entry.2) first)
      (entries'.foldl (fun table entry => table.put entry.1 entry.2) second) := by
  induction hentries generalizing first second with
  | nil => exact h
  | @cons entry entry' rest rest' hentry hrest ih =>
    refine ih ?_
    dsimp only
    rw [← hentry.1]
    exact h.put hentry.2

theorem alike_ofList [LawfulBEq κ] {entries : List (κ × α)} {entries' : List (κ × β)}
    (h : Alike related entries entries') : Alike related (ofList entries) (ofList entries') :=
  h.foldl_put .nil

/-- Under a key, tables that are alike hold related values or nothing. -/
theorem Alike.find? (h : Alike related first second) [LawfulBEq κ] (key : κ) :
    Option.Rel (related key) (find? key first) (find? key second) := by
  induction h with
  | nil => exact .none
  | @cons entry entry' rest rest' hentry hrest ih =>
    rw [find?_cons, find?_cons, ← hentry.1]
    by_cases hkey : entry.1 = key
    · subst hkey
      rw [if_pos BEq.rfl, if_pos BEq.rfl]
      exact .some hentry.2
    · rw [if_neg (by simpa using hkey), if_neg (by simpa using hkey)]
      exact ih

omit [BEq κ] in
/-- Tables with equal values are equal. -/
theorem eq_of_alike {first second : Entries κ α}
    (h : Alike (fun _ value value' => value = value') first second) : first = second := by
  induction h with
  | nil => rfl
  | cons hentry hrest ih => rw [ih, Prod.ext hentry.1 hentry.2]

end Entries

/-! ### Entries under names -/

/-- Entry by entry the same names in lower case, with related values. -/
def Named {α β : Type} (related : String → α → β → Prop) :
    List (String × α) → List (String × β) → Prop :=
  List.Forall₂ fun entry entry' =>
    lower entry.1 = lower entry'.1 ∧ related (lower entry.1) entry.2 entry'.2

namespace Definition

/-- In lower case the keys of such entries are the same. -/
theorem alike_lowerKeys {α β : Type} {related : String → α → β → Prop}
    {entries : List (String × α)} {entries' : List (String × β)}
    (h : Named related entries entries') :
    Entries.Alike related (lowerKeys entries) (lowerKeys entries') := by
  refine Entries.alike_ofList ?_
  rw [Entries.Alike, List.forall₂_map_left_iff, List.forall₂_map_right_iff]
  exact h

end Definition

/-! ### Checks that run in step -/

namespace Checked

variable {α β γ δ : Type}

/-- Both are valid with related values, or both are not. -/
inductive Alike (related : α → β → Prop) : Checked α → Checked β → Prop
  | valid {a : α} {b : β} (h : related a b) : Alike related (.valid a) (.valid b)
  | invalid (found found' : List Complaint) : Alike related (.invalid found) (.invalid found')

variable {related : α → β → Prop} {x : Checked α} {y : Checked β}

theorem Alike.refl {related : α → α → Prop} (hrefl : ∀ a, related a a) (x : Checked α) :
    Alike related x x := by
  cases x with
  | valid a => exact .valid (hrefl a)
  | invalid found => exact .invalid _ _

theorem Alike.within (h : Alike related x y) (step step' : Step) :
    Alike related (x.within step) (y.within step') := by
  cases h with
  | valid h => exact .valid h
  | invalid found found' => exact .invalid _ _

theorem Alike.map (h : Alike related x y) {related' : γ → δ → Prop} {f : α → γ} {g : β → δ}
    (hmap : ∀ a b, related a b → related' (f a) (g b)) : Alike related' (f <$> x) (g <$> y) := by
  cases h with
  | valid h => exact .valid (hmap _ _ h)
  | invalid found found' => exact .invalid _ _

theorem Alike.seq {f : Checked (α → γ)} {g : Checked (β → δ)} {related' : γ → δ → Prop}
    (hf : Alike (fun f g => ∀ a b, related a b → related' (f a) (g b)) f g)
    (h : Alike related x y) : Alike related' (f <*> x) (g <*> y) := by
  cases hf with
  | valid hf =>
    cases h with
    | valid h => exact .valid (hf _ _ h)
    | invalid found found' => exact .invalid _ _
  | invalid found found' => cases h <;> exact .invalid _ _

/-- Combinations run in step if their parts do. -/
theorem Alike.seq_eq {f g : Checked (α → γ)} {x y : Checked α} (hf : Alike (· = ·) f g)
    (h : Alike (· = ·) x y) : Alike (· = ·) (f <*> x) (g <*> y) := by
  refine Alike.seq ?_ h
  cases hf with
  | valid hf =>
    refine .valid ?_
    rintro a _ rfl
    rw [hf]
  | invalid found found' => exact .invalid _ _

theorem alike_itemsFrom {check : Value → Checked α} {check' : Value → Checked β}
    {values values' : List Value}
    (h : List.Forall₂ (fun value value' => Alike related (check value) (check' value'))
      values values') (index : Nat) :
    Alike (List.Forall₂ related) (itemsFrom check index values)
      (itemsFrom check' index values') := by
  induction h generalizing index with
  | nil => exact .valid .nil
  | cons hvalue hrest ih =>
    exact ((hvalue.within _ _).map fun a b hab as bs hrest => .cons hab hrest).seq (ih _)

/-- Entries keep their names, each with what its value was read as. -/
theorem alike_entries {check : Value → Checked α} {check' : Value → Checked β}
    {values values' : List (String × Value)}
    (h : Named (fun _ value value' => Alike related (check value) (check' value'))
      values values') :
    Alike (Named fun _ => related) (entries check values) (entries check' values') := by
  induction h with
  | nil => exact .valid .nil
  | cons hvalue hrest ih =>
    exact ((hvalue.2.within _ _).map fun a b hab as bs hrest => .cons ⟨hvalue.1, hab⟩ hrest).seq ih

theorem field_cons (fields : Entries String Value) (name : String) (names : List String)
    (default : α) (check : Value → Checked α) :
    field fields (name :: names) default check =
      match fields.find? name with
      | some value => (check value).within (.key name)
      | none => field fields names default check := by
  unfold field
  rw [List.findSome?_cons]
  cases fields.find? name <;> rfl

/-- A field is read in step if it is under each of its names. -/
theorem alike_field {fields fields' : Entries String Value} {names : List String}
    {check : Value → Checked α} (default : α)
    (h : ∀ name ∈ names, Option.Rel (fun value value' => Alike (· = ·) (check value) (check value'))
      (fields.find? name) (fields'.find? name)) :
    Alike (· = ·) (field fields names default check) (field fields' names default check) := by
  induction names with
  | nil => exact .valid rfl
  | cons name rest ih =>
    have hname := h name List.mem_cons_self
    rw [field_cons, field_cons]
    generalize fields.find? name = given at hname ⊢
    generalize fields'.find? name = given' at hname ⊢
    cases hname with
    | some hvalue => exact hvalue.within _ _
    | none => exact ih fun other hother => h other (List.mem_cons_of_mem name hother)

end Checked

/-! ### Values that are spelled differently -/

namespace Value

/-- Equal values, or texts that are the same in lower case. -/
inductive TextAlike : Value → Value → Prop
  | refl (value : Value) : TextAlike value value
  | text {s t : String} (h : lower s = lower t) : TextAlike (.text s) (.text t)

/-- Equal values, or lists of related items. -/
inductive ListAlike (related : Value → Value → Prop) : Value → Value → Prop
  | refl (value : Value) : ListAlike related value value
  | array {items items' : List Value} (h : List.Forall₂ related items items') :
    ListAlike related (.array items) (.array items')

/-- Equal values, or tables that have related values under the same names in lower case. -/
inductive TableAlike (related : Value → Value → Prop) : Value → Value → Prop
  | refl (value : Value) : TableAlike related value value
  | table {entries entries' : List (String × Value)}
      (h : Named (fun _ => related) entries entries') :
    TableAlike related (.table entries) (.table entries')

end Value

namespace Definition

open Checked Value

/-- Which names inside a field may be spelled differently. -/
def FieldAlike (key : String) : Value → Value → Prop :=
  if key = "labels" then ListAlike TextAlike
  else if key = "metricsdesc" ∨ key = "metrics_desc" then TableAlike (· = ·)
  else if key = "metricstype" ∨ key = "metrics_type" then TableAlike TextAlike
  else if key = "metricsbuckets" ∨ key = "metrics_buckets" then TableAlike (TableAlike (· = ·))
  else if key = "fieldtoappend" ∨ key = "field_to_append" then TextAlike
  else (· = ·)

/-- Two tables of definitions that say the same in different spellings. -/
def SpelledAlike : List (String × Value) → List (String × Value) → Prop := Named FieldAlike

variable {value value' : Value}

theorem alike_text (h : TextAlike value value') :
    Checked.Alike (fun s t => lower s = lower t) (Checked.text value) (Checked.text value') := by
  cases h with
  | refl =>
    apply Checked.Alike.refl
    intro s
    rfl
  | text h => exact .valid h

/-- Entries whose names are the same in lower case, with equal values, are one table in lower
case. -/
theorem lowerKeys_eq {α : Type} {entries entries' : List (String × α)}
    (h : Named (fun _ => Eq) entries entries') : lowerKeys entries = lowerKeys entries' :=
  Entries.eq_of_alike (alike_lowerKeys h)

/-- Mappings whose values are read in step. -/
theorem alike_mapping {α : Type} {related : α → α → Prop} (hrefl : ∀ a, related a a)
    {inner : Value → Value → Prop} {check : Value → Checked α}
    (hcheck : ∀ value value',
      inner value value' → Checked.Alike related (check value) (check value'))
    (h : TableAlike inner value value') :
    Checked.Alike (Named fun _ => related) (Checked.mapping check value)
      (Checked.mapping check value') := by
  cases h with
  | refl => exact .refl (fun entries => List.forall₂_same.mpr fun entry _ => ⟨rfl, hrefl _⟩) _
  | table h =>
    exact Checked.alike_entries (h.imp fun entry entry' hentry => ⟨hentry.1, hcheck _ _ hentry.2⟩)

theorem alike_readLabels (h : ListAlike TextAlike value value') :
    Checked.Alike (· = ·) (readLabels value) (readLabels value') := by
  cases h with
  | refl => exact .refl (fun _ => rfl) _
  | array h =>
    have hitems := Checked.alike_itemsFrom (h.imp fun _ _ => alike_text) 0
    refine hitems.map fun labels labels' hall => ?_
    rw [← List.forall₂_eq_eq_eq, List.forall₂_map_left_iff, List.forall₂_map_right_iff]
    exact hall

theorem alike_readTexts (h : TableAlike (· = ·) value value') :
    Checked.Alike (· = ·) (readTexts value) (readTexts value') := by
  refine (alike_mapping (fun _ => rfl) ?_ h).map fun entries entries' => lowerKeys_eq
  rintro text _ rfl
  exact .refl (fun _ => rfl) _

theorem alike_readKinds (h : TableAlike TextAlike value value') :
    Checked.Alike (· = ·) (readKinds value) (readKinds value') := by
  have hread : Checked.Alike (Named fun _ kind kind' => lower kind = lower kind')
      (Checked.mapping Checked.text value) (Checked.mapping Checked.text value') := by
    refine alike_mapping ?_ (fun _ _ => alike_text) h
    intro kind
    rfl
  refine hread.map fun kinds kinds' hkinds => lowerKeys_eq ?_
  rw [Named, List.forall₂_map_left_iff, List.forall₂_map_right_iff]
  exact hkinds

theorem alike_readBuckets (h : TableAlike (TableAlike (· = ·)) value value') :
    Checked.Alike (· = ·) (readBuckets value) (readBuckets value') := by
  have hread : Checked.Alike (Named fun _ => Eq) (Checked.mapping readTexts value)
      (Checked.mapping readTexts value') :=
    alike_mapping (fun _ => rfl) (fun _ _ => alike_readTexts) h
  exact hread.map fun entries entries' => lowerKeys_eq

variable {entries entries' : List (String × Value)}

/-- A field is read in step if all its names ask for what its check needs. -/
theorem alike_read {α : Type} (h : SpelledAlike entries entries') {names : List String}
    (default : α) {check : Value → Checked α} (related : Value → Value → Prop)
    (hnames : ∀ name ∈ names, FieldAlike name = related)
    (hcheck : ∀ value value', related value value' →
      Checked.Alike (· = ·) (check value) (check value')) :
    Checked.Alike (· = ·) (Checked.field (lowerKeys entries) names default check)
      (Checked.field (lowerKeys entries') names default check) := by
  refine Checked.alike_field default fun name hname => ?_
  have hfield := (alike_lowerKeys h).find? name
  rw [hnames name hname] at hfield
  generalize (lowerKeys entries).find? name = given at hfield ⊢
  generalize (lowerKeys entries').find? name = given' at hfield ⊢
  cases hfield with
  | some hvalue => exact .some (hcheck _ _ hvalue)
  | none => exact .none

/-- A field in which nothing may be spelled differently is read in step by any check. -/
theorem alike_read_of_eq {α : Type} (h : SpelledAlike entries entries') {names : List String}
    (default : α) (check : Value → Checked α) (hnames : ∀ name ∈ names, FieldAlike name = (· = ·)) :
    Checked.Alike (· = ·) (Checked.field (lowerKeys entries) names default check)
      (Checked.field (lowerKeys entries') names default check) := by
  refine alike_read h default (· = ·) hnames ?_
  rintro value _ rfl
  exact .refl (fun _ => rfl) _

/-- Tables that say the same in different spellings are both refused, or give one definition. -/
theorem alike_ofValue (h : SpelledAlike entries entries') :
    Checked.Alike (· = ·) (ofValue (.table entries)) (ofValue (.table entries')) := by
  unfold ofValue
  -- one part for each field, in the order in which they are read
  refine .seq_eq (.seq_eq (.seq_eq (.seq_eq (.seq_eq (.seq_eq (.seq_eq (.seq_eq (.seq_eq (.map
    (alike_read_of_eq h "" Checked.text ?_) fun _ _ => congrArg _)
    (alike_read h [] (ListAlike TextAlike) ?_ fun _ _ => alike_readLabels))
    (alike_read h [] (TableAlike (· = ·)) ?_ fun _ _ => alike_readTexts))
    (alike_read h [] (TableAlike TextAlike) ?_ fun _ _ => alike_readKinds))
    (alike_read h [] (TableAlike (TableAlike (· = ·))) ?_ fun _ _ => alike_readBuckets))
    (alike_read h "" TextAlike ?_ fun _ _ htext => (alike_text htext).map fun _ _ => id))
    (alike_read_of_eq h "" Checked.text ?_))
    (alike_read_of_eq h false readBoolean ?_))
    (alike_read_of_eq h "" readDuration ?_))
    (alike_read_of_eq h "" readDuration ?_)
  all_goals simp [FieldAlike]

/-- One of the tables is accepted exactly if the other is, and then as the same definition. -/
theorem ofValue_eq_valid_iff_of_spelledAlike (h : SpelledAlike entries entries') (d : Definition) :
    ofValue (.table entries) = .valid d ↔ ofValue (.table entries') = .valid d := by
  have hread := alike_ofValue h
  generalize ofValue (.table entries) = x at hread ⊢
  generalize ofValue (.table entries') = y at hread ⊢
  cases hread with
  | valid heq => rw [heq]
  | invalid found found' => simp

end Definition

end QueryMetrics
