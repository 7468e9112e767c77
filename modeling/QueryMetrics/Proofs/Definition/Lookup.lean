import QueryMetrics.Proofs.Definition.Spelling
import QueryMetrics.Proofs.Metric.Columns
import QueryMetrics.Proofs.Row.Decoding

/-!
# Names are found in any spelling

A definition and a decoded row hold their names in lower case, whatever the spelling of the table
and of the cursor that they come from. So a look into a row finds the text of the last column whose
name is the same in lower case (`find?_lowerKeys`), and the kind and the buckets of a column are
found in the same way.

That this covers every look into a row is a fact about samples: the outcome of a row depends on
nothing but its columns, its labels, the suffix column, the bucket columns and the count
(`Definition.outcomes_congr`). Together with what tables in different spellings have in common, this
gives the main result, `Definition.ignoresCase`.
-/

namespace QueryMetrics

open Text

/-! ### The last of several spellings -/

/-- What stands under the last name that is the same in lower case. -/
def lastLike {α : Type} (name : String) (entries : List (String × α)) : Option α :=
  ((entries.filter fun entry => lower entry.1 == lower name).map (·.2)).getLast?

variable {α β : Type}

/-- Something is found if there is such a name. -/
theorem exists_lastLike {name : String} {entries : List (String × α)} {entry : String × α}
    (hentry : entry ∈ entries) (hname : lower entry.1 = lower name) :
    ∃ value, lastLike name entries = some value := by
  have hmem : entry ∈ entries.filter fun entry => lower entry.1 == lower name := by
    simp [hentry, hname]
  cases h : lastLike name entries with
  | some value => exact ⟨value, rfl⟩
  | none =>
    rw [lastLike, List.getLast?_eq_none_iff, List.map_eq_nil_iff] at h
    rw [h] at hmem
    cases hmem

theorem lastLike_map (f : α → β) (name : String) (entries : List (String × α)) :
    lastLike name (entries.map fun entry => (entry.1, f entry.2)) =
      (lastLike name entries).map f := by
  simp [lastLike, List.filter_map, Function.comp_def]

namespace Definition

/-- A table under lower-case keys finds what stands under the last spelling. -/
theorem find?_lowerKeys (name : String) (entries : List (String × α)) :
    (lowerKeys entries).find? (lower name) = lastLike name entries := by
  rw [lowerKeys, Entries.find?_ofList, Entries.valuesOf, lastLike]
  simp [List.filter_map, Function.comp_def]

/-- An entry under a lower-case key was there in some spelling. -/
theorem exists_mem_of_mem_lowerKeys {entries : List (String × α)} {entry : String × α}
    (h : entry ∈ lowerKeys entries) :
    ∃ spelled ∈ entries, lower spelled.1 = entry.1 ∧ spelled.2 = entry.2 := by
  obtain ⟨spelled, hmem, heq⟩ := List.mem_map.mp (Entries.mem_of_mem_ofList h)
  exact ⟨spelled, hmem, by rw [← heq], by rw [← heq]⟩

/-! ### What is looked up in a row -/

/-- The columns that stand for metrics, for labels, for the ends of names, and for buckets, and the
count. -/
def namesIn (helps : List (String × String)) (labels : List String) (suffixColumn : String)
    (buckets : List (String × List (String × String))) : List String :=
  helps.map (·.1) ++ labels ++ [suffixColumn] ++
    buckets.flatMap (fun entry => entry.2.map (·.1)) ++ ["count"]

theorem mem_namesIn {helps : List (String × String)} {labels : List String} {suffixColumn : String}
    {buckets : List (String × List (String × String))} {key : String} :
    key ∈ namesIn helps labels suffixColumn buckets ↔
      (∃ entry ∈ helps, entry.1 = key) ∨ key ∈ labels ∨ key = suffixColumn ∨
        (∃ bucket ∈ buckets, ∃ entry ∈ bucket.2, entry.1 = key) ∨ key = "count" := by
  simp only [namesIn, List.mem_append, List.mem_map, List.mem_singleton, List.mem_flatMap, or_assoc]

/-- All columns that the samples of a definition are made from. -/
def lookups (d : Definition) : List String := namesIn d.helps d.labels d.suffixColumn d.buckets

variable {d : Definition} {row other : Row}

/-- What a column looks up is among what the samples are made from. -/
theorem mem_lookups_of_mem_reads {entry : String × String} (hentry : entry ∈ d.helps) {key : String}
    (h : key ∈ d.reads entry.1) : key ∈ d.lookups := by
  refine mem_namesIn.mpr ?_
  obtain hnamed | hcounted := List.mem_append.mp h
  · obtain rfl | hnamed := List.mem_cons.mp hnamed
    · exact .inl ⟨entry, hentry, rfl⟩
    · split at hnamed
      · exact .inr (.inl hnamed)
      · exact .inr (.inr (.inl (List.mem_singleton.mp hnamed)))
  · split at hcounted
    · obtain rfl | hfield := List.mem_cons.mp hcounted
      · exact .inr (.inr (.inr (.inr rfl)))
      · obtain ⟨bucket, hbucket, rfl⟩ := List.mem_map.mp hfield
        cases hbounds : d.buckets.find? entry.1 with
        | none =>
          rw [hbounds] at hbucket
          cases hbucket
        | some bounds =>
          rw [hbounds] at hbucket
          obtain ⟨found, hfound, rfl⟩ := Entries.exists_mem_of_find? hbounds
          exact .inr (.inr (.inr (.inl ⟨found, hfound, bucket, hbucket, rfl⟩)))
    · cases hcounted

/-- The outcome of a row depends on nothing else. -/
theorem outcomes_congr (h : ∀ key ∈ d.lookups, row.get key = other.get key) (ns : String) :
    d.outcomes ns row = d.outcomes ns other :=
  List.map_congr_left fun entry hentry =>
    columnOutcome_congr (fun key hkey => h key (mem_lookups_of_mem_reads hentry hkey)) ns entry.2

/-! ### The names that a table spells -/

/-- The names of a definition as its table spells them. -/
structure Spelling where
  labels : List String
  helps : List (String × String)
  kinds : List (String × String)
  buckets : List (String × List (String × String))
  suffixColumn : String

namespace Spelling

/-- The names of a table. -/
def ofEntries (entries : List (String × Value)) : Checked Spelling :=
  let fields := lowerKeys entries
  Spelling.mk
    <$> Checked.field fields ["labels"] [] (Checked.list Checked.text .notSequence)
    <*> Checked.field fields ["metricsdesc", "metrics_desc"] [] (Checked.mapping Checked.text)
    <*> Checked.field fields ["metricstype", "metrics_type"] [] (Checked.mapping Checked.text)
    <*> Checked.field fields ["metricsbuckets", "metrics_buckets"] []
      (Checked.mapping (Checked.mapping Checked.text))
    <*> Checked.field fields ["fieldtoappend", "field_to_append"] "" Checked.text

/-- The columns of a row that the names of a table stand for. -/
def lookups (spelling : Spelling) : List String :=
  namesIn spelling.helps spelling.labels spelling.suffixColumn spelling.buckets

end Spelling

/-- The definition holds the names of a spelling in lower case. -/
structure Lowers (d : Definition) (spelling : Spelling) : Prop where
  labels : d.labels = spelling.labels.map lower
  helps : d.helps = lowerKeys spelling.helps
  kinds : d.kinds = lowerKeys (spelling.kinds.map fun entry => (entry.1, lower entry.2))
  buckets : d.buckets = lowerKeys (spelling.buckets.map fun entry => (entry.1, lowerKeys entry.2))
  suffixColumn : d.suffixColumn = lower spelling.suffixColumn

end Definition

namespace Checked

variable {fields : Entries String Value} {names : List String}

/-- What is done to a field in the end can be done after it was read. -/
theorem field_map (f : α → β) (default : α) (check : Value → Checked α) :
    field fields names (f default) (fun value => f <$> check value) =
      f <$> field fields names default check := by
  unfold field
  split
  next name value hfound =>
    dsimp only
    cases check value <;> rfl
  next hnone => rfl

/-- What is done to the values of a table in the end can be done after they were read. -/
theorem mapping_map (f : α → β) (check : Value → Checked α) (value : Value) :
    mapping (fun value => f <$> check value) value =
      (fun entries => entries.map fun entry => (entry.1, f entry.2)) <$> mapping check value := by
  cases value with
  | table values =>
    change entries _ values = _ <$> entries check values
    induction values with
    | nil => rfl
    | cons first rest ih =>
      rw [entries, entries, ih]
      cases check first.2 <;> cases entries check rest <;> rfl
  | _ => rfl

end Checked

namespace Definition

variable {d : Definition} {entries : List (String × Value)}

/-- A field of a definition whose value is put in lower case in the end. -/
theorem exists_of_field_map {names : List String} (default : α) {check : Value → Checked α}
    {f : α → β} {b : β}
    (h : Checked.field (lowerKeys entries) names (f default) (fun value => f <$> check value) =
      .valid b) :
    ∃ a, Checked.field (lowerKeys entries) names default check = .valid a ∧ f a = b :=
  Checked.map_eq_valid.mp ((Checked.field_map f default check).symm.trans h)

/-- The fields of a definition that hold names. -/
theorem fields_of_ofValue (h : ofValue (.table entries) = .valid d) :
    let fields := lowerKeys entries
    Checked.field fields ["labels"] [] readLabels = .valid d.labels ∧
      Checked.field fields ["metricsdesc", "metrics_desc"] [] readTexts = .valid d.helps ∧
      Checked.field fields ["metricstype", "metrics_type"] [] readKinds = .valid d.kinds ∧
      Checked.field fields ["metricsbuckets", "metrics_buckets"] [] readBuckets = .valid d.buckets ∧
      Checked.field fields ["fieldtoappend", "field_to_append"] ""
        (fun value => lower <$> Checked.text value) = .valid d.suffixColumn := by
  simp only [ofValue, Checked.seq_eq_valid, Checked.map_eq_valid] at h
  obtain ⟨_, _, ⟨_, _, ⟨_, _, ⟨_, _, ⟨_, _, names, hsuffix, rfl⟩, -, rfl⟩, -, rfl⟩, -, rfl⟩, -,
    rfl⟩ := h
  obtain ⟨_, _, ⟨_, _, ⟨_, _, ⟨_, _, ⟨_, -, rfl⟩, hlabels, rfl⟩, hhelps, rfl⟩, hkinds, rfl⟩,
    hbuckets, rfl⟩ := names
  exact ⟨hlabels, hhelps, hkinds, hbuckets, hsuffix⟩

/-- Bounds can be put under lower-case names after all of them were read. -/
theorem readBuckets_eq (value : Value) :
    readBuckets value =
      (fun buckets => lowerKeys (buckets.map fun entry => (entry.1, lowerKeys entry.2))) <$>
        Checked.mapping (Checked.mapping Checked.text) value := by
  have hmapping := Checked.mapping_map lowerKeys (Checked.mapping Checked.text) value
  change lowerKeys <$> Checked.mapping (fun value => lowerKeys <$> _) value = _
  rw [hmapping]
  cases Checked.mapping (Checked.mapping Checked.text) value <;> rfl

/-- A definition holds what its table spells, in lower case. -/
theorem exists_lowers (h : ofValue (.table entries) = .valid d) :
    ∃ spelling, Spelling.ofEntries entries = .valid spelling ∧ d.Lowers spelling := by
  obtain ⟨hlabels, hhelps, hkinds, hbuckets, hsuffix⟩ := fields_of_ofValue h
  rw [funext readBuckets_eq] at hbuckets
  obtain ⟨labels, hlabels, hlabelsLower⟩ := exists_of_field_map [] hlabels
  obtain ⟨helps, hhelps, hhelpsLower⟩ := exists_of_field_map [] hhelps
  obtain ⟨kinds, hkinds, hkindsLower⟩ := exists_of_field_map [] hkinds
  obtain ⟨buckets, hbuckets, hbucketsLower⟩ := exists_of_field_map [] hbuckets
  obtain ⟨suffixColumn, hsuffix, hsuffixLower⟩ := exists_of_field_map "" hsuffix
  refine ⟨⟨labels, helps, kinds, buckets, suffixColumn⟩, ?_, hlabelsLower.symm, hhelpsLower.symm,
    hkindsLower.symm, hbucketsLower.symm, hsuffixLower.symm⟩
  rw [Spelling.ofEntries, hlabels, hhelps, hkinds, hbuckets, hsuffix]
  rfl

/-- What a definition looks up is a name of its table in lower case, or the count. -/
theorem Lowers.exists_of_mem_lookups {spelling : Spelling} (h : d.Lowers spelling) {key : String}
    (hkey : key ∈ d.lookups) : ∃ name ∈ spelling.lookups, lower name = key := by
  have hcount : lower "count" = "count" := by decide +kernel
  rcases mem_namesIn.mp hkey with ⟨help, hhelp, rfl⟩ | hlabel | rfl |
    ⟨bucket, hbucket, bound, hbound, rfl⟩ | rfl
  · rw [h.helps] at hhelp
    obtain ⟨spelled, hspelled, hname, -⟩ := exists_mem_of_mem_lowerKeys hhelp
    exact ⟨spelled.1, mem_namesIn.mpr (.inl ⟨spelled, hspelled, rfl⟩), hname⟩
  · rw [h.labels] at hlabel
    obtain ⟨label, hspelled, rfl⟩ := List.mem_map.mp hlabel
    exact ⟨label, mem_namesIn.mpr (.inr (.inl hspelled)), rfl⟩
  · exact ⟨spelling.suffixColumn, mem_namesIn.mpr (.inr (.inr (.inl rfl))), h.suffixColumn.symm⟩
  · rw [h.buckets] at hbucket
    obtain ⟨lowered, hlowered, -, hbounds⟩ := exists_mem_of_mem_lowerKeys hbucket
    obtain ⟨spelled, hspelled, rfl⟩ := List.mem_map.mp hlowered
    rw [← hbounds] at hbound
    obtain ⟨field, hfield, hname, -⟩ := exists_mem_of_mem_lowerKeys hbound
    exact ⟨field.1,
      mem_namesIn.mpr (.inr (.inr (.inr (.inl ⟨spelled, hspelled, field, hfield, rfl⟩)))), hname⟩
  · exact ⟨"count", mem_namesIn.mpr (.inr (.inr (.inr (.inr rfl)))), hcount⟩

end Definition

/-! ### Rows in the spelling of their cursor -/

/-- The texts of cells, under columns as the cursor spells them. -/
structure TextsUnder (columns : List String) (cells : List Cell) (texts : List (String × String)) :
    Prop where
  columns : texts.map (·.1) = columns
  texts : List.Forall₂ (fun cell text => Cell.text cell = .ok text) cells (texts.map (·.2))

namespace Definition

/-- A decoded row holds the texts of its cells under its columns in lower case. -/
theorem exists_textsUnder {columns : List String} {cells : List Cell} {row : Row}
    (h : decodeRow (columnNames columns) cells = .ok row) :
    ∃ texts, TextsUnder columns cells texts ∧ row = lowerKeys texts := by
  rw [decodeRow_eq, unlessFailed_eq_ok, decodingFailures_eq_nil_iff] at h
  obtain ⟨htexts, rfl⟩ := h
  have hlength : (cells.map Cell.shown).length = columns.length := by
    rw [List.length_map, htexts.length]
  refine ⟨columns.zip (cells.map Cell.shown), ⟨?_, ?_⟩, ?_⟩
  · exact List.map_fst_zip (Nat.le_of_eq hlength.symm)
  · rw [List.map_snd_zip (Nat.le_of_eq hlength), List.forall₂_map_right_iff, List.forall₂_same]
    exact fun cell hcell => htexts.text_eq hcell
  · rw [lowerKeys, columnNames, List.zip_map_left]
    rfl

variable {d : Definition} {entries entries' : List (String × Value)}
  {columns columns' : List String}

/-- Whatever the samples of a definition look up is found in any spelling. -/
structure FindsAll (d : Definition) (spelling : Spelling) (texts : List (String × String))
    (row : Row) : Prop where
  /-- A look into a row is for a name of the table in lower case, or for the count. -/
  spelled : ∀ key ∈ d.lookups, ∃ name ∈ spelling.lookups, lower name = key
  /-- Samples and notices depend on nothing else in the row. -/
  only : ∀ ns other, (∀ key ∈ d.lookups, row.get key = Row.get other key) →
    d.outcomes ns row = d.outcomes ns other
  /-- The text of the last column that is the same in lower case is found. -/
  reads : ∀ name, Entries.find? (lower name) row = lastLike name texts
  found : ∀ key ∈ d.lookups, ∀ column ∈ texts.map (·.1), lower column = key →
    ∃ text, Entries.find? key row = some text
  kinds : ∀ name, d.kindOf (lower name) =
    ((lastLike name spelling.kinds).map lower).getD Kind.gauge.word
  buckets : ∀ name, d.buckets.find? (lower name) = (lastLike name spelling.buckets).map lowerKeys

theorem Lowers.findsAll {spelling : Spelling} (h : d.Lowers spelling)
    (texts : List (String × String)) : d.FindsAll spelling texts (lowerKeys texts) where
  spelled _ := h.exists_of_mem_lookups
  only ns _ hlookups := outcomes_congr hlookups ns
  reads name := find?_lowerKeys name texts
  found := by
    rintro key - column hcolumn rfl
    obtain ⟨entry, hentry, rfl⟩ := List.mem_map.mp hcolumn
    rw [find?_lowerKeys]
    exact exists_lastLike hentry rfl
  kinds name := by rw [kindOf, h.kinds, find?_lowerKeys, lastLike_map]
  buckets name := by rw [h.buckets, find?_lowerKeys, lastLike_map]

/-- **Spelling does not matter.** Of two tables that say the same in different spellings, one is
accepted exactly if the other is, and then as the same definition. Cursors whose columns are spelled
differently give the same rows, and so the same samples. In every row, whatever the samples look up
is found, in whichever spelling the table and the cursor have it. -/
theorem ignoresCase (h : SpelledAlike entries entries')
    (hcolumns :
      List.Forall₂ (fun column column' => lower column = lower column') columns columns') :
    (∀ d, ofValue (.table entries) = .valid d ↔ ofValue (.table entries') = .valid d) ∧
    (∀ rows, decodeRows (columnNames columns) rows = decodeRows (columnNames columns') rows) ∧
    (∀ d d', ofValue (.table entries) = .valid d → ofValue (.table entries') = .valid d' →
      d = d' ∧ ∀ ns rows, (decodeRows (columnNames columns) rows).1.map (d.samples ns) =
        (decodeRows (columnNames columns') rows).1.map (d'.samples ns)) ∧
    ∀ d, ofValue (.table entries) = .valid d →
      ∃ spelling, Spelling.ofEntries entries = .valid spelling ∧ d.Lowers spelling ∧
        ∀ cells row, decodeRow (columnNames columns) cells = .ok row →
          ∃ texts, TextsUnder columns cells texts ∧ d.FindsAll spelling texts row := by
  have hnames : columnNames columns = columnNames columns' := by
    rw [columnNames, columnNames, ← List.forall₂_eq_eq_eq, List.forall₂_map_left_iff,
      List.forall₂_map_right_iff]
    exact hcolumns
  have hsame : ∀ d d', ofValue (.table entries) = .valid d →
      ofValue (.table entries') = .valid d' → d = d' := by
    intro d d' hd hd'
    rw [ofValue_eq_valid_iff_of_spelledAlike h, hd'] at hd
    exact (Checked.valid.inj hd).symm
  refine ⟨ofValue_eq_valid_iff_of_spelledAlike h, fun rows => by rw [hnames],
    fun d d' hd hd' => ⟨hsame d d' hd hd', fun ns rows => by rw [hnames, hsame d d' hd hd']⟩,
    fun d hd => ?_⟩
  obtain ⟨spelling, hspelling, hlowers⟩ := exists_lowers hd
  refine ⟨spelling, hspelling, hlowers, fun cells row hrow => ?_⟩
  obtain ⟨texts, htexts, rfl⟩ := exists_textsUnder hrow
  exact ⟨texts, htexts, hlowers.findsAll texts⟩

/-- A table for the waits of a queue, with its names as they are given. -/
def waitTable (context labels queue helps kinds buckets wait bound kind request : String) :
    List (String × Value) :=
  [(context, .text "db"), (labels, .array [.text queue]),
    (helps, .table [(wait, .text "Waits.")]), (kinds, .table [(wait, .text kind)]),
    (buckets, .table [(wait, .table [(bound, .text "1")])]), (request, .text "select 1")]

/-- The definition that both tables are. -/
def waits : Definition where
  context := "db"
  labels := ["queue"]
  helps := [("wait", "Waits.")]
  kinds := [("wait", "histogram")]
  buckets := [("wait", [("le_1", "1")])]
  request := "select 1"

/-- The table in small letters. -/
def smallTable : List (String × Value) :=
  waitTable "context" "labels" "queue" "metricsdesc" "metricstype" "metricsbuckets" "wait" "le_1"
    "histogram" "request"

/-- The table with capitals. -/
def largeTable : List (String × Value) :=
  waitTable "CONTEXT" "Labels" "Queue" "MetricsDesc" "METRICSTYPE" "metricsBuckets" "WAIT" "Le_1"
    "Histogram" "Request"

theorem spelledAlike_smallTable : SpelledAlike smallTable largeTable := by
  refine .cons ⟨by decide +kernel, rfl⟩ (.cons ⟨by decide +kernel, ?labels⟩
    (.cons ⟨by decide +kernel, ?helps⟩ (.cons ⟨by decide +kernel, ?kinds⟩
      (.cons ⟨by decide +kernel, ?buckets⟩ (.cons ⟨by decide +kernel, rfl⟩ .nil)))))
  case labels => exact Value.ListAlike.array (.cons (.text (by decide +kernel)) .nil)
  case helps => exact Value.TableAlike.table (.cons ⟨by decide +kernel, rfl⟩ .nil)
  case kinds =>
    exact Value.TableAlike.table (.cons ⟨by decide +kernel, .text (by decide +kernel)⟩ .nil)
  case buckets =>
    exact Value.TableAlike.table (.cons ⟨by decide +kernel,
      .table (.cons ⟨by decide +kernel, rfl⟩ .nil)⟩ .nil)

/-- Both tables give the definition, and over cursors in capitals and in small letters a row gives
one sample, with its label, its count and its bucket. -/
theorem ignoresCase_waits :
    let columns := ["QUEUE", "Wait", "LE_1", "COUNT"]
    let columns' := ["Queue", "WAIT", "le_1", "Count"]
    let cells := [Cell.value (.text "a"), .value (.integer 7), .value (.integer 3),
      .value (.integer 4)]
    let row := [("queue", "a"), ("wait", "7"), ("le_1", "3"), ("count", "4")]
    (SpelledAlike smallTable largeTable ∧
      List.Forall₂ (fun column column' => lower column = lower column') columns columns') ∧
    (ofValue (.table smallTable) = .valid waits ∧ ofValue (.table largeTable) = .valid waits) ∧
    decodeRows (columnNames columns) [cells] = decodeRows (columnNames columns') [cells] ∧
    waits.samples "ns" row =
      [{ name := "ns_db_wait", kind := .histogram, value := 7, help := "Waits.",
         labelNames := ["queue"], labelValues := ["a"], count := some 4, buckets := [(1, 3)] }] ∧
    ∃ spelling texts, waits.Lowers spelling ∧ TextsUnder columns cells texts ∧
      waits.FindsAll spelling texts row := by
  intro columns columns' cells row
  have hcolumns : List.Forall₂ (fun column column' => lower column = lower column')
      columns columns' :=
    .cons (by decide +kernel) (.cons (by decide +kernel)
      (.cons (by decide +kernel) (.cons (by decide +kernel) .nil)))
  obtain ⟨haccepted, hrows, -, hfinds⟩ := ignoresCase spelledAlike_smallTable hcolumns
  have hsmall : ofValue (.table smallTable) = .valid waits := by with_unfolding_all rfl
  have hrow : decodeRow (columnNames columns) cells = .ok row := by decide +kernel
  obtain ⟨spelling, -, hlowers, hrowFinds⟩ := hfinds waits hsmall
  obtain ⟨texts, htexts, hall⟩ := hrowFinds cells row hrow
  exact ⟨⟨spelledAlike_smallTable, hcolumns⟩, ⟨hsmall, (haccepted waits).mp hsmall⟩, hrows [cells],
    by decide +kernel, spelling, texts, hlowers, htexts, hall⟩

end Definition

end QueryMetrics
