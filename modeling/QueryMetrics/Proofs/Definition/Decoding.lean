import Mathlib.Data.List.Forall2
import QueryMetrics.Definition.Reading

/-!
# Which tables become definitions

Keys of a definitions file are compared without regard to case, so the tables of `[[metric]]`, of
`[[Metric]]` and of `[[METRIC]]` are meant to be definitions alike. A document keeps these keys
apart, however, and of several spellings of one key only the last counts when the keys are put in
lower case (`Entries.find?_ofList`).

So the definitions of a text are those of the tables under its last spelling (`keptTables`), one for
each table and in their order, and the tables under the other spellings (`lostTables`) are lost
without a complaint. Every table becomes a definition exactly if there are none of these.
-/

namespace QueryMetrics

/-! ### Writing several values of one key -/

namespace Entries

variable {κ α : Type} [BEq κ] [LawfulBEq κ]

/-- The values that were written under a key, in order. -/
def valuesOf (key : κ) (entries : List (κ × α)) : List α :=
  (entries.filter fun entry => entry.1 == key).map (·.2)

/-- After several writes a key reads back the last value, or what it read back before. -/
theorem find?_foldl_put (key : κ) (entries : List (κ × α)) (table : Entries κ α) :
    find? key (entries.foldl (fun table entry => table.put entry.1 entry.2) table) =
      (valuesOf key entries).getLast?.or (find? key table) := by
  induction entries generalizing table with
  | nil => rfl
  | cons entry rest ih =>
    rw [List.foldl_cons, ih]
    by_cases h : entry.1 = key
    · subst h
      rw [find?_put_self, valuesOf, valuesOf, List.filter_cons_of_pos (by simp), List.map_cons,
        List.getLast?_cons]
      cases (List.map (·.2) (rest.filter fun other => other.1 == entry.1)).getLast? <;> rfl
    · rw [find?_put_of_ne (Ne.symm h), valuesOf, valuesOf, List.filter_cons_of_neg (by simpa using h)]

/-- Of several values that are written under one key, the last one stays. -/
theorem find?_ofList (key : κ) (entries : List (κ × α)) :
    find? key (ofList entries) = (valuesOf key entries).getLast? := by
  rw [ofList, find?_foldl_put, find?_nil, Option.or_none]

/-- However often keys are written, they stay distinct. -/
theorem nodup_keys_ofList (entries : List (κ × α)) : (ofList entries).keys.Nodup := by
  suffices h : ∀ table : Entries κ α, table.keys.Nodup →
      (Entries.keys (entries.foldl (fun table entry => table.put entry.1 entry.2) table)).Nodup by
    exact h [] List.nodup_nil
  intro table hnodup
  induction entries generalizing table with
  | nil => exact hnodup
  | cons entry rest ih => exact ih _ (nodup_keys_put hnodup entry.1 entry.2)

/-- What is kept was written under its key. -/
theorem mem_of_mem_ofList {entries : List (κ × α)} {entry : κ × α} (h : entry ∈ ofList entries) :
    entry ∈ entries := by
  have hread := find?_of_mem (nodup_keys_ofList entries) h
  rw [find?_ofList] at hread
  have hvalue := List.mem_of_getLast? hread
  simp only [valuesOf, List.mem_map, List.mem_filter, beq_iff_eq] at hvalue
  obtain ⟨written, ⟨hmem, hkey⟩, hvalue⟩ := hvalue
  rwa [← Prod.ext hkey hvalue]

end Entries

/-! ### Valid items -/

namespace Checked

variable {α β : Type}

theorem within_eq_valid {step : Step} {x : Checked α} {a : α} :
    x.within step = valid a ↔ x = valid a := by
  cases x <;> simp [within]

theorem map_eq_valid {f : α → β} {x : Checked α} {b : β} :
    f <$> x = valid b ↔ ∃ a, x = valid a ∧ f a = b := by
  change Checked.map f x = _ ↔ _
  cases x <;> simp [Checked.map]

theorem seq_eq_valid {f : Checked (α → β)} {x : Checked α} {b : β} :
    f <*> x = valid b ↔ ∃ g a, f = valid g ∧ x = valid a ∧ g a = b := by
  change Checked.seq f (fun _ => x) = _ ↔ _
  cases f <;> cases x <;> simp [Checked.seq, Checked.map]

/-- A combination is valid exactly if all of its parts are. -/
theorem map_seq_eq_valid {γ : Type} {f : α → β → γ} {x : Checked α} {y : Checked β} {c : γ} :
    f <$> x <*> y = valid c ↔ ∃ a b, x = valid a ∧ y = valid b ∧ f a b = c := by
  rw [seq_eq_valid]
  constructor
  · rintro ⟨g, b, hg, hy, rfl⟩
    obtain ⟨a, hx, rfl⟩ := map_eq_valid.mp hg
    exact ⟨a, b, hx, hy, rfl⟩
  · rintro ⟨a, b, hx, hy, rfl⟩
    exact ⟨f a, b, map_eq_valid.mpr ⟨a, hx, rfl⟩, hy, rfl⟩

/-- The items of a list are valid exactly if each of them is. -/
theorem itemsFrom_eq_valid {check : Value → Checked α} {index : Nat} {values : List Value}
    {as : List α} :
    itemsFrom check index values = valid as ↔
      List.Forall₂ (fun value a => check value = valid a) values as := by
  induction values generalizing index as with
  | nil =>
    rw [itemsFrom, List.forall₂_nil_left_iff]
    exact ⟨fun h => (Checked.valid.inj h).symm, fun h => h ▸ rfl⟩
  | cons value rest ih =>
    rw [itemsFrom, map_seq_eq_valid, List.forall₂_cons_left_iff]
    simp only [within_eq_valid, ih]
    constructor
    · rintro ⟨a, others, ha, hothers, rfl⟩
      exact ⟨a, others, ha, hothers, rfl⟩
    · rintro ⟨a, others, ha, hothers, rfl⟩
      exact ⟨a, others, ha, hothers, rfl⟩

end Checked

/-! ### Tables of a document -/

/-- The value is a table. -/
def Value.isTable : Value → Bool
  | table _ => true
  | _ => false

/-- The tables of an array. -/
def Value.tables : Value → List Value
  | array items => items.filter Value.isTable
  | _ => []

namespace Definition

/-- What stands under the spellings of `metric` at the top of a document, in order. -/
def metricValues (entries : List (String × Value)) : List Value :=
  Entries.valuesOf "metric" (entries.map fun entry => (Text.lower entry.1, entry.2))

/-- The tables of all arrays under a spelling of `metric`. -/
def metricTables (entries : List (String × Value)) : List Value :=
  (metricValues entries).flatMap Value.tables

/-- The tables under the last spelling. -/
def keptTables (entries : List (String × Value)) : List Value :=
  (metricValues entries).getLast?.toList.flatMap Value.tables

/-- The tables under the other spellings. -/
def lostTables (entries : List (String × Value)) : List Value :=
  (metricValues entries).dropLast.flatMap Value.tables

theorem metricTables_eq (entries : List (String × Value)) :
    metricTables entries = lostTables entries ++ keptTables entries := by
  rw [metricTables, lostTables, keptTables, ← List.flatMap_append]
  congr 1
  cases h : (metricValues entries).getLast? with
  | none => simp [List.getLast?_eq_none_iff.mp h]
  | some last => exact (List.dropLast_append_getLast? last h).symm

/-- Every table gives the definition at its place. -/
def Decodes (tables : List Value) (definitions : List Definition) : Prop :=
  List.Forall₂ (fun table d => ofValue table = .valid d) tables definitions

/-- Only tables are definitions. -/
theorem isTable_of_ofValue {value : Value} {d : Definition} (h : ofValue value = .valid d) :
    value.isTable = true := by
  cases value <;> first | rfl | cases h

/-- The definitions of a document are those of the tables under the last spelling. -/
theorem decodes_keptTables {document : Value} {definitions : List Definition}
    (h : listOfValue document = .valid definitions) :
    ∃ entries, document = .table entries ∧ Decodes (keptTables entries) definitions := by
  cases document with
  | table entries =>
    refine ⟨entries, rfl, ?_⟩
    have hlast : (lowerKeys entries).find? "metric" = (metricValues entries).getLast? :=
      Entries.find?_ofList ..
    rw [listOfValue, Checked.field, List.findSome?_singleton, hlast] at h
    rw [keptTables]
    cases hvalue : (metricValues entries).getLast? with
    | none =>
      rw [hvalue] at h
      obtain rfl := Checked.valid.inj h
      exact .nil
    | some value =>
      rw [hvalue] at h
      have hcheck := Checked.within_eq_valid.mp h
      cases value with
      | array items =>
        have hitems := Checked.itemsFrom_eq_valid.mp hcheck
        have htables : items.filter Value.isTable = items :=
          List.filter_eq_self.mpr ((List.forall₂_and_left _ _).mp
            (hitems.imp fun item d hd => ⟨isTable_of_ofValue hd, hd⟩)).1
        simpa [Value.tables, htables, Decodes] using hitems
      | _ => cases hcheck
  | _ => cases h

/-- **Which tables become definitions.** A text that is accepted is a document, and its definitions
are those of the tables under the last spelling of `metric`, one for each and in their order. The
tables under all spellings give the definitions in this way exactly if there are none under the
other spellings. -/
theorem everyTableDecoded_iff {text : String} {definitions : List Definition}
    (h : parseAll text = .ok definitions) :
    ∃ entries, parseToml text = .ok (.table entries) ∧
      metricTables entries = lostTables entries ++ keptTables entries ∧
      Decodes (keptTables entries) definitions ∧
      (Decodes (metricTables entries) definitions ↔ lostTables entries = []) := by
  unfold parseAll at h
  cases hdocument : parseToml text with
  | error fault =>
    rw [hdocument] at h
    cases h
  | ok document =>
    rw [hdocument] at h
    dsimp only at h
    cases hlist : listOfValue document with
    | invalid complaints =>
      rw [hlist] at h
      cases h
    | valid found =>
      rw [hlist] at h
      obtain rfl := Except.ok.inj h
      obtain ⟨entries, rfl, hkept⟩ := decodes_keptTables hlist
      refine ⟨entries, rfl, metricTables_eq entries, hkept, fun hall => ?_, fun hnone => ?_⟩
      · -- there are as many definitions as tables that are kept
        have hlength := hall.length_eq.trans hkept.length_eq.symm
        rw [metricTables_eq, List.length_append] at hlength
        exact List.length_eq_zero_iff.mp (by omega)
      · rwa [metricTables_eq, hnone, List.nil_append]

/-- How many tables a document has under the spellings of `metric`, and how many of them are not
under the last one. -/
def tableCounts (text : String) : Nat × Nat :=
  match parseToml text with
  | .ok (.table entries) => ((metricTables entries).length, (lostTables entries).length)
  | _ => (0, 0)

theorem tableCounts_of_parse {text : String} {entries : List (String × Value)}
    (h : parseToml text = .ok (.table entries)) :
    tableCounts text = ((metricTables entries).length, (lostTables entries).length) := by
  rw [tableCounts, h]

/-- A text with two tables under one spelling. -/
def oneSpelling : String := "[[Metric]]\nCONTEXT = \"a\"\n[[Metric]]\ncontext = \"b\"\n"

/-- Both tables under one spelling become definitions. -/
theorem everyTableDecoded_oneSpelling :
    parseAll oneSpelling = .ok [{ context := "a" }, { context := "b" }] ∧
    ∃ entries, parseToml oneSpelling = .ok (.table entries) ∧
      Decodes (metricTables entries) [{ context := "a" }, { context := "b" }] := by
  have hparse : parseAll oneSpelling = .ok [{ context := "a" }, { context := "b" }] := by
    decide +kernel
  obtain ⟨entries, hentries, -, -, hiff⟩ := everyTableDecoded_iff hparse
  have hcounts : tableCounts oneSpelling = (2, 0) := by decide +kernel
  rw [tableCounts_of_parse hentries] at hcounts
  have hlost : lostTables entries = [] := List.length_eq_zero_iff.mp (Prod.mk.inj hcounts).2
  exact ⟨hparse, entries, hentries, hiff.mpr hlost⟩

/-- A text with a table under each of two spellings. -/
def twoSpellings : String := "[[metric]]\ncontext = \"a\"\n[[Metric]]\ncontext = \"b\"\n"

/-- Of two spellings only the last one counts: the text is accepted, and has two tables, but the
first of them gives no definition. -/
theorem not_everyTableDecoded_twoSpellings :
    parseAll twoSpellings = .ok [{ context := "b" }] ∧
    ¬ ∃ entries, parseToml twoSpellings = .ok (.table entries) ∧
      Decodes (metricTables entries) [{ context := "b" }] := by
  refine ⟨by decide +kernel, ?_⟩
  rintro ⟨entries, hentries, hdecodes⟩
  have hcounts : tableCounts twoSpellings = (2, 1) := by decide +kernel
  rw [tableCounts_of_parse hentries] at hcounts
  cases (Prod.mk.inj hcounts).1.symm.trans hdecodes.length_eq

end Definition

end QueryMetrics
