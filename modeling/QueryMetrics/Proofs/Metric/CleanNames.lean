import QueryMetrics.Proofs.Metric.Columns
import QueryMetrics.Proofs.Text.Lowering

/-!
# Names that end with a text of the row

A definition with a suffix column names its samples by the rows, and what stands in a row can be
any text. `IsClean` says what is left of such a text in a name: no blank, no parenthesis, slash or
asterisk, and no letter that has another form in lower case.

Cleaning gives clean texts (`isClean_cleanName`), although it lowers the letters last: lower-casing
brings none of the removed characters back. It changes nothing else (`cleanName_eq_self`), so the
clean texts are those that cleaning leaves as they are. The names of samples are put together from
parts by underscores, one between two parts that are not empty (`qualifiedName_concat`).
-/

namespace QueryMetrics

open Text

/-! ### Names of several parts -/

/-- A name is empty only if all of its parts are. -/
theorem qualifiedName_eq_empty_iff {parts : List String} :
    qualifiedName parts = "" ↔ (parts.filter fun part => !part.isEmpty) = [] := by
  unfold qualifiedName
  cases hparts : parts.filter fun part => !part.isEmpty with
  | nil => simp
  | cons first rest =>
    have hfirst : first ≠ "" := by
      rintro rfl
      have hmem : "" ∈ parts.filter fun part => !part.isEmpty := hparts ▸ List.mem_cons_self
      simp at hmem
    cases rest with
    | nil => simpa using hfirst
    | cons second rest => simp [hfirst]

/-- The last part stands behind an underscore, if it is not empty and something stands before. -/
theorem qualifiedName_concat (parts : List String) (last : String) :
    qualifiedName (parts ++ [last]) =
      qualifiedName parts ++ (if qualifiedName parts ≠ "" ∧ last ≠ "" then "_" else "") ++
        last := by
  by_cases hlast : last = ""
  · subst hlast
    simp [qualifiedName]
  · have hkept : [last].filter (fun part => !part.isEmpty) = [last] := by simp [hlast]
    by_cases hfront : qualifiedName parts = ""
    · rw [hfront, qualifiedName, List.filter_append, hkept, qualifiedName_eq_empty_iff.mp hfront]
      simp
    · have hparts := mt qualifiedName_eq_empty_iff.mpr hfront
      rw [if_pos ⟨hfront, hlast⟩, qualifiedName, List.filter_append, hkept,
        String.intercalate_append_of_ne_nil hparts (List.cons_ne_nil _ _),
        String.intercalate_singleton]
      rfl

/-! ### Clean texts -/

/-- The text has no blank, parenthesis, slash or asterisk, and is in lower case. -/
structure IsClean (text : String) : Prop where
  noNoise : ∀ c ∈ text.toList, c ≠ ' ' ∧ c ≠ '(' ∧ c ≠ ')' ∧ c ≠ '/' ∧ c ≠ '*'
  inLowerCase : lower text = text

theorem isNameNoise_eq_false_iff {c : Char} :
    isNameNoise c = false ↔ c ≠ '(' ∧ c ≠ ')' ∧ c ≠ '/' ∧ c ≠ '*' := by
  simp [isNameNoise]

theorem toList_cleanName (value : String) :
    (cleanName value).toList = lowerChars
      ((value.toList.map fun c => if c = ' ' then '_' else c).filter fun c => !isNameNoise c) := by
  rw [cleanName, String.toList_ofList]

/-- What cleaning hands to lower-casing has none of the characters that are left out. -/
theorem noNoise_of_mem_kept {text : List Char} {c : Char}
    (h : c ∈ (text.map fun c => if c = ' ' then '_' else c).filter fun c => !isNameNoise c) :
    c ≠ ' ' ∧ c ≠ '(' ∧ c ≠ ')' ∧ c ≠ '/' ∧ c ≠ '*' := by
  obtain ⟨hmap, hnoise⟩ := List.mem_filter.mp h
  refine ⟨?_, isNameNoise_eq_false_iff.mp (by simpa using hnoise)⟩
  obtain ⟨before, -, rfl⟩ := List.mem_map.mp hmap
  split
  · decide
  · assumption

/-- Cleaning gives a clean text, whatever the value is. -/
theorem isClean_cleanName (value : String) : IsClean (cleanName value) := by
  refine ⟨fun c hc => ?_, ?_⟩
  · rw [toList_cleanName] at hc
    by_cases hplain : c.toNat < 0x80 ∧ c.isLower = false
    · -- such a character is not brought in by lower-casing, so it was kept before
      exact noNoise_of_mem_kept (mem_of_mem_lowerChars hc hplain.1 hplain.2)
    · refine ⟨?_, ?_, ?_, ?_, ?_⟩ <;>
      · rintro rfl
        exact hplain (by decide)
  · rw [lower, toList_cleanName, lowerChars_lowerChars, cleanName]

/-- Clean texts stay as they are. -/
theorem cleanName_eq_self {text : String} (h : IsClean text) : cleanName text = text := by
  have hblanks : (text.toList.map fun c => if c = ' ' then '_' else c) = text.toList := by
    refine (List.map_congr_left fun c hc => ?_).trans (List.map_id _)
    exact if_neg (h.noNoise c hc).1
  have hnoise : (text.toList.filter fun c => !isNameNoise c) = text.toList := by
    refine List.filter_eq_self.mpr fun c hc => ?_
    rw [isNameNoise_eq_false_iff.mpr (h.noNoise c hc).2]
    rfl
  rw [cleanName, hblanks, hnoise]
  exact h.inLowerCase

theorem cleanName_eq_self_iff {text : String} : cleanName text = text ↔ IsClean text :=
  ⟨fun h => h ▸ isClean_cleanName text, cleanName_eq_self⟩

/-! ### Names of samples -/

/-- **Suffixes are clean.** Whatever text is cleaned, the result is clean, and cleaning it once more
changes nothing; the texts that stay as they are when cleaned are just the clean ones. So if a
definition has a suffix column, every sample of a row is named by the namespace and the context and,
behind them, a clean text, which is what becomes of the row's text under that column. Between the
two stands an underscore exactly if neither is empty. -/
theorem suffix_isClean :
    (∀ value, IsClean (cleanName value) ∧ cleanName (cleanName value) = cleanName value) ∧
    (∀ text, cleanName text = text ↔ IsClean text) ∧
    ∀ (d : Definition) (ns : String) (row : Row), d.suffixColumn ≠ "" →
      let front := qualifiedName [ns, d.context]
      let last := cleanName (row.get d.suffixColumn)
      IsClean last ∧ cleanName last = last ∧
      ∀ s ∈ (d.harvest ns row).samples,
        s.name = front ++ (if front ≠ "" ∧ last ≠ "" then "_" else "") ++ last := by
  have hidempotent : ∀ value, cleanName (cleanName value) = cleanName value :=
    fun value => cleanName_eq_self (isClean_cleanName value)
  refine ⟨fun value => ⟨isClean_cleanName value, hidempotent value⟩,
    fun text => cleanName_eq_self_iff, fun d ns row hsuffix => ?_⟩
  intro front last
  refine ⟨isClean_cleanName _, hidempotent _, fun s hs => ?_⟩
  obtain ⟨entry, -, hemits⟩ := Definition.exists_emits_of_mem_harvest hs
  have hlast : d.lastPart row entry.1 = last := by
    rw [Definition.lastPart, if_neg (by simpa using hsuffix)]
  rw [hemits.name, hlast]
  exact qualifiedName_concat [ns, d.context] last

/-- A definition whose samples are named by the rows. -/
def namedByEvent : Definition where
  context := "waits"
  helps := [("time", "")]
  suffixColumn := "event"

/-- A row with a capital sigma, which another letter follows once the slash is left out, and a
letter that becomes two characters. -/
def greekRow : Row := [("event", "Log File (ΑΣ/İ*)"), ("time", "3")]

/-- The sigma is no final one, as lower-casing comes last. Without a text for the suffix, the name
ends with the context. -/
theorem suffix_isClean_greekRow :
    namedByEvent.suffixColumn ≠ "" ∧ IsClean "log_file_ασi\u0307" ∧
    (∃ s, (namedByEvent.harvest "db" greekRow).samples = [s] ∧
      s.name = "db_waits_log_file_ασi\u0307") ∧
    ∃ s, (namedByEvent.harvest "db" [("time", "3")]).samples = [s] ∧ s.name = "db_waits" := by
  have hsuffix : namedByEvent.suffixColumn ≠ "" := by decide
  obtain ⟨-, -, hnames⟩ := suffix_isClean
  obtain ⟨hclean, -, hname⟩ := hnames namedByEvent "db" greekRow hsuffix
  obtain ⟨-, -, hname'⟩ := hnames namedByEvent "db" [("time", "3")] hsuffix
  have hlast : cleanName (greekRow.get namedByEvent.suffixColumn) = "log_file_ασi\u0307" := by
    decide +kernel
  have hone : ∃ s, (namedByEvent.harvest "db" greekRow).samples = [s] := ⟨_, rfl⟩
  have hone' : ∃ s, (namedByEvent.harvest "db" [("time", "3")]).samples = [s] := ⟨_, rfl⟩
  obtain ⟨s, hs⟩ := hone
  obtain ⟨s', hs'⟩ := hone'
  refine ⟨hsuffix, hlast ▸ hclean, ⟨s, hs, ?_⟩, ⟨s', hs', ?_⟩⟩
  · rw [hname s (hs ▸ List.mem_singleton_self s), hlast]
    decide +kernel
  · rw [hname' s' (hs' ▸ List.mem_singleton_self s')]
    decide +kernel

end QueryMetrics
