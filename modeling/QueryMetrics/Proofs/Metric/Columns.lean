import QueryMetrics.Metric.Report
import QueryMetrics.Proofs.Metric.Grouping

/-!
# Every column is accounted for

A row is taken column by column, and every column that is declared as a metric ends in one of two
ways. It gives one sample (`Definition.Emits`), and what is reported then is about buckets only. Or
it gives none, and one report says why (`Definition.Refuses`): its text is no number, its kind is
unknown, it is a histogram without buckets, or the count of the row is no count.

Which of the two it is depends on the column alone. It is the same for the definition that declares
no other column (`Definition.onlyColumn`), and for every row that holds the same texts where the
column looks them up (`Definition.reads`). So whatever else is malformed in the row or in the
definition, it takes nothing away from a column (`Definition.accounts_for_columns`).
-/

namespace QueryMetrics

/-! ### Reports about columns -/

/-- The messages saying that a column gives no sample. -/
def columnMessages : List String :=
  ["Unable to convert current value to float", "No metricsbuckets entry for histogram",
   "Unable to convert count value to int", "Unknown metric type"]

/-- The report says that a column gives no sample. -/
def RowNotice.isColumn (notice : RowNotice) : Bool := notice.record.message ∈ columnMessages

@[simp] theorem RowNotice.isColumn_column (fault : ColumnFault) :
    (RowNotice.column fault).isColumn = true := by
  cases fault <;> simp [isColumn, record, ColumnFault.record, leftOutRecord, columnMessages]

@[simp] theorem RowNotice.isColumn_bucket (fault : BucketFault) :
    (RowNotice.bucket fault).isColumn = false := by
  cases fault <;> simp [isColumn, record, BucketFault.record, leftOutRecord, columnMessages]

namespace Definition

variable {d : Definition} {ns : String} {row other : Row} {column help : String}

/-! ### What a column gives -/

/-- The sample is the one that the column gives for the row. -/
structure Emits (d : Definition) (ns : String) (row : Row) (column help : String) (s : Sample) :
    Prop where
  value : Binary64.ofText? (row.get column) = some s.value
  kind : d.kindOf column = s.kind.word
  name : s.name = qualifiedName [ns, d.context, d.lastPart row column]
  help : s.help = help
  labelNames : s.labelNames = if d.suffixColumn = "" then d.labels else []
  labelValues : s.labelValues = s.labelNames.map row.get

/-- The fault is the first reason why the column gives no sample for the row. -/
inductive Refuses (d : Definition) (row : Row) (column help : String) : ColumnFault → Prop where
  | valueNotNumber (value : Binary64.ofText? (row.get column) = none) :
    Refuses d row column help (.valueNotNumber column help (row.get column))
  | unknownKind (value : (Binary64.ofText? (row.get column)).isSome)
      (kind : ∀ kind : Kind, d.kindOf column ≠ kind.word) :
    Refuses d row column help (.unknownKind column (d.kindOf column))
  | noBuckets (value : (Binary64.ofText? (row.get column)).isSome)
      (kind : d.kindOf column = Kind.histogram.word) (buckets : d.buckets.find? column = none) :
    Refuses d row column help (.noBuckets column)
  | countNotWhole (value : (Binary64.ofText? (row.get column)).isSome)
      (kind : d.kindOf column = Kind.histogram.word) (buckets : (d.buckets.find? column).isSome)
      (count : unsigned? (row.get "count") = none) :
    Refuses d row column help (.countNotWhole column help (row.get "count"))

/-- The columns of a row that a column looks texts up in: itself, those that name or label its
sample, and for a histogram those of its counts. -/
def reads (d : Definition) (column : String) : List String :=
  column :: (if d.suffixColumn = "" then d.labels else [d.suffixColumn]) ++
    if d.kindOf column = Kind.histogram.word then
      "count" :: ((d.buckets.find? column).getD []).map (·.1)
    else []

/-- The word of a kind stands for that kind, and every other word for none. -/
theorem ofWord?_eq_some_iff {word : String} {kind : Kind} :
    Kind.ofWord? word = some kind ↔ word = kind.word := by
  constructor
  · unfold Kind.ofWord?
    intro h
    split at h
    · cases h
      assumption
    · split at h
      · cases h
        assumption
      · split at h
        · cases h
          assumption
        · cases h
  · rintro rfl
    exact Kind.ofWord?_word kind

theorem emits_plainSample {kind : Kind} {value : Binary64}
    (hvalue : Binary64.ofText? (row.get column) = some value)
    (hkind : d.kindOf column = kind.word) :
    d.Emits ns row column help (d.plainSample ns row column help kind value) where
  value := hvalue
  kind := hkind
  name := rfl
  help := rfl
  labelNames := by
    change d.attachedLabels = _
    simp [attachedLabels]
  labelValues := rfl

/-- **The end of a column.** It gives its sample, or none for the first reason that there is. -/
theorem columnOutcome_cases (d : Definition) (ns : String) (row : Row) (column help : String) :
    (∃ s left, d.columnOutcome ns row column help = .ok (s, left) ∧
      d.Emits ns row column help s) ∨
    ∃ fault, d.columnOutcome ns row column help = .error fault ∧
      d.Refuses row column help fault := by
  unfold columnOutcome
  cases hvalue : Binary64.ofText? (row.get column) with
  | none => exact .inr ⟨_, rfl, .valueNotNumber hvalue⟩
  | some value =>
    have hsome : (Binary64.ofText? (row.get column)).isSome := by rw [hvalue, Option.isSome_some]
    cases hkind : Kind.ofWord? (d.kindOf column) with
    | none =>
      refine .inr ⟨_, rfl, .unknownKind hsome fun kind hword => ?_⟩
      rw [ofWord?_eq_some_iff.mpr hword] at hkind
      cases hkind
    | some kind =>
      have hword := ofWord?_eq_some_iff.mp hkind
      cases kind with
      | gauge => exact .inl ⟨_, _, rfl, emits_plainSample hvalue hword⟩
      | counter => exact .inl ⟨_, _, rfl, emits_plainSample hvalue hword⟩
      | histogram =>
        dsimp only
        unfold histogramOutcome
        cases hbuckets : d.buckets.find? column with
        | none => exact .inr ⟨_, rfl, .noBuckets hsome hword hbuckets⟩
        | some bounds =>
          cases hcount : unsigned? (row.get "count") with
          | none =>
            refine .inr ⟨_, rfl, .countNotWhole hsome hword ?_ hcount⟩
            rw [hbuckets, Option.isSome_some]
          | some count =>
            have hplain : d.Emits ns row column help
                (d.plainSample ns row column help .histogram value) :=
              emits_plainSample hvalue hword
            exact .inl ⟨_, _, rfl, hplain.value, hplain.kind, hplain.name, hplain.help,
              hplain.labelNames, hplain.labelValues⟩

/-- Rows with the same texts where a column looks them up give the same for it. -/
theorem columnOutcome_congr (h : ∀ key ∈ d.reads column, row.get key = other.get key)
    (ns help : String) :
    d.columnOutcome ns row column help = d.columnOutcome ns other column help := by
  have hvalue : row.get column = other.get column :=
    h column (List.mem_append_left _ List.mem_cons_self)
  have hplain : ∀ kind value, d.plainSample ns row column help kind value =
      d.plainSample ns other column help kind value := by
    intro kind value
    have hnamed : ∀ key ∈ (if d.suffixColumn = "" then d.labels else [d.suffixColumn]),
        row.get key = other.get key :=
      fun key hkey => h key (List.mem_append_left _ (List.mem_cons_of_mem _ hkey))
    by_cases hsuffix : d.suffixColumn = ""
    · rw [if_pos hsuffix] at hnamed
      simp [plainSample, lastPart, attachedLabels, hsuffix, List.map_congr_left hnamed]
    · rw [if_neg hsuffix] at hnamed
      simp [plainSample, lastPart, attachedLabels, hsuffix, hnamed d.suffixColumn]
  unfold columnOutcome
  rw [← hvalue]
  cases Binary64.ofText? (row.get column) with
  | none => rfl
  | some value =>
    cases hkind : Kind.ofWord? (d.kindOf column) with
    | none => rfl
    | some kind =>
      cases kind with
      | gauge => simp only [hplain]
      | counter => simp only [hplain]
      | histogram =>
        -- only a histogram looks up the count and the columns of its buckets
        have hcounts : ∀ key ∈ "count" :: ((d.buckets.find? column).getD []).map (·.1),
            row.get key = other.get key := by
          intro key hkey
          refine h key (List.mem_append_right _ ?_)
          rwa [if_pos (ofWord?_eq_some_iff.mp hkind)]
        have hcount : row.get "count" = other.get "count" := hcounts _ List.mem_cons_self
        dsimp only
        unfold histogramOutcome
        cases hbuckets : d.buckets.find? column with
        | none => rfl
        | some bounds =>
          have hread : bounds.map (fun entry => readBucket row column entry.1 entry.2) =
              bounds.map fun entry => readBucket other column entry.1 entry.2 := by
            refine List.map_congr_left fun entry hentry => ?_
            have hfield : row.get entry.1 = other.get entry.1 := by
              refine hcounts _ (List.mem_cons_of_mem _ ?_)
              rw [hbuckets, Option.getD_some]
              exact List.mem_map_of_mem hentry
            rw [readBucket, readBucket, hfield]
          simp only [hcount, hplain, hread]

/-! ### One column after another -/

/-- The samples that the outcome of a column gives. -/
def samplesOf : Except ColumnFault Emission → List Sample
  | .error _ => []
  | .ok (s, _) => [s]

/-- Taking a column in adds what the column gives to what was there. -/
theorem add_eq (harvest : Harvest) (outcome : Except ColumnFault Emission) :
    harvest.add outcome =
      ⟨harvest.samples ++ samplesOf outcome, harvest.count + (samplesOf outcome).length,
        harvest.notices ++ noticesOf outcome⟩ := by
  cases outcome with
  | error fault => simp [Harvest.add, samplesOf]
  | ok emission => simp [Harvest.add, samplesOf]

/-- Columns that are taken in one after another add what each of them gives. -/
theorem foldl_add (outcome : String × String → Except ColumnFault Emission)
    (entries : List (String × String)) (start : Harvest) :
    entries.foldl (fun harvest entry => harvest.add (outcome entry)) start =
      ⟨start.samples ++ entries.flatMap fun entry => samplesOf (outcome entry),
        start.count + (entries.flatMap fun entry => samplesOf (outcome entry)).length,
        start.notices ++ entries.flatMap fun entry => noticesOf (outcome entry)⟩ := by
  induction entries generalizing start with
  | nil => simp
  | cons entry rest ih =>
    rw [List.foldl_cons, ih, add_eq]
    simp only [List.flatMap_cons, List.append_assoc, List.length_append, Nat.add_assoc]

/-- What is taken from a row is what its columns give, in their order. -/
theorem harvest_eq (d : Definition) (ns : String) (row : Row) :
    d.harvest ns row =
      ⟨d.helps.flatMap fun entry => samplesOf (d.columnOutcome ns row entry.1 entry.2),
        (d.helps.flatMap fun entry => samplesOf (d.columnOutcome ns row entry.1 entry.2)).length,
        d.helps.flatMap fun entry => noticesOf (d.columnOutcome ns row entry.1 entry.2)⟩ := by
  rw [harvest, foldl_add, List.nil_append, List.nil_append, Nat.zero_add]

/-- Every sample that is taken from a row is the one that some column gives. -/
theorem exists_emits_of_mem_harvest {s : Sample} (h : s ∈ (d.harvest ns row).samples) :
    ∃ entry ∈ d.helps, d.Emits ns row entry.1 entry.2 s := by
  rw [harvest_eq] at h
  obtain ⟨entry, hentry, hs⟩ := List.mem_flatMap.mp h
  refine ⟨entry, hentry, ?_⟩
  obtain ⟨given, left, houtcome, hemits⟩ | ⟨fault, houtcome, -⟩ :=
    columnOutcome_cases d ns row entry.1 entry.2
  · rw [houtcome, samplesOf, List.mem_singleton] at hs
    rwa [hs]
  · rw [houtcome] at hs
    cases hs

/-- The samples and the reports of a row are those that are taken from it. -/
theorem harvest_eq_samples (d : Definition) (ns : String) (row : Row) :
    d.harvest ns row = ⟨d.samples ns row, (d.samples ns row).length, d.notices ns row⟩ := by
  have hsamples : d.samples ns row =
      d.helps.flatMap fun entry => samplesOf (d.columnOutcome ns row entry.1 entry.2) := by
    rw [samples, valids, outcomes, List.map_filterMap, List.filterMap_map]
    induction d.helps with
    | nil => rfl
    | cons entry rest ih =>
      rw [List.filterMap_cons, List.flatMap_cons, ← ih]
      cases h : d.columnOutcome ns row entry.1 entry.2 <;> simp [h, samplesOf, Except.toOption]
  rw [harvest_eq, hsamples, notices, outcomes, List.flatMap_map]

/-! ### One column alone -/

/-- The definition without its other columns, and without what is declared about them. -/
def onlyColumn (d : Definition) (column help : String) : Definition :=
  { d with
    helps := [(column, help)]
    kinds := d.kinds.keep (· == column)
    buckets := d.buckets.keep (· == column) }

/-- A column gives the same when it is the only one. -/
theorem columnOutcome_onlyColumn (d : Definition) (ns : String) (row : Row)
    (column help : String) :
    (d.onlyColumn column help).columnOutcome ns row column help =
      d.columnOutcome ns row column help := by
  have hkind : (d.onlyColumn column help).kindOf column = d.kindOf column := by
    simp [kindOf, onlyColumn, Entries.find?_keep]
  have hbuckets : (d.onlyColumn column help).buckets.find? column = d.buckets.find? column := by
    simp [onlyColumn, Entries.find?_keep]
  simp only [columnOutcome, histogramOutcome, hkind, hbuckets]
  rfl

theorem harvest_onlyColumn (d : Definition) (ns : String) (row : Row) (column help : String) :
    (d.onlyColumn column help).harvest ns row =
      ⟨samplesOf (d.columnOutcome ns row column help),
        (samplesOf (d.columnOutcome ns row column help)).length,
        noticesOf (d.columnOutcome ns row column help)⟩ := by
  rw [harvest_eq, ← columnOutcome_onlyColumn]
  simp only [onlyColumn, List.flatMap_cons, List.flatMap_nil, List.append_nil]

/-- **Every column is accounted for.** What is taken from a row is what is taken from it for each
column alone, in the order of the columns. Each of them gives one sample, with reports about
buckets only, or no sample and one report that says why, and this depends on nothing in the row but
what the column looks up. The count is the number of samples, and every sample has the declared
labels with the texts of the row, or none if names end with a column of the row. -/
theorem accounts_for_columns (d : Definition) (ns : String) (row : Row) :
    let taken := d.harvest ns row
    let alone := fun entry : String × String => (d.onlyColumn entry.1 entry.2).harvest ns row
    taken.samples = d.helps.flatMap (fun entry => (alone entry).samples) ∧
    taken.notices = d.helps.flatMap (fun entry => (alone entry).notices) ∧
    taken.count = taken.samples.length ∧
    (∀ entry ∈ d.helps,
      ((∃ s, (alone entry).samples = [s] ∧ d.Emits ns row entry.1 entry.2 s ∧
          (alone entry).notices.filter RowNotice.isColumn = []) ∨
        ∃ fault, (alone entry).samples = [] ∧ d.Refuses row entry.1 entry.2 fault ∧
          (alone entry).notices = [.column fault]) ∧
      ∀ other : Row, (∀ key ∈ d.reads entry.1, row.get key = other.get key) →
        (d.onlyColumn entry.1 entry.2).harvest ns other = alone entry) ∧
    ∀ s ∈ taken.samples, s.FullyLabelled ∧
      s.labelNames = (if d.suffixColumn = "" then d.labels else []) ∧
      s.labelValues = s.labelNames.map row.get := by
  intro taken alone
  have hends : ∀ entry ∈ d.helps,
      (∃ s, (alone entry).samples = [s] ∧ d.Emits ns row entry.1 entry.2 s ∧
        (alone entry).notices.filter RowNotice.isColumn = []) ∨
      ∃ fault, (alone entry).samples = [] ∧ d.Refuses row entry.1 entry.2 fault ∧
        (alone entry).notices = [.column fault] := by
    intro entry hentry
    have halone : alone entry = _ := harvest_onlyColumn d ns row entry.1 entry.2
    rw [halone]
    obtain ⟨s, left, houtcome, hemits⟩ | ⟨fault, houtcome, hrefuses⟩ :=
      columnOutcome_cases d ns row entry.1 entry.2
    · refine .inl ⟨s, by rw [houtcome, samplesOf], hemits, ?_⟩
      rw [houtcome, noticesOf, List.filter_map]
      simp [Function.comp_def]
    · refine .inr ⟨fault, ?_, hrefuses, ?_⟩ <;> rw [houtcome] <;> rfl
  have hsamples : taken.samples = d.helps.flatMap fun entry => (alone entry).samples := by
    simp only [taken, alone, harvest_eq d, harvest_onlyColumn]
  refine ⟨hsamples, by simp only [taken, alone, harvest_eq d, harvest_onlyColumn],
    by simp only [taken, harvest_eq d],
    fun entry hentry => ⟨hends entry hentry, fun other hother => ?_⟩, fun s hs => ?_⟩
  · simp only [alone, harvest_onlyColumn, columnOutcome_congr hother]
  · -- a sample of the row is the sample of one of its columns alone
    rw [hsamples] at hs
    obtain ⟨entry, hentry, hs⟩ := List.mem_flatMap.mp hs
    obtain ⟨given, hgiven, hemits, -⟩ | ⟨fault, hnone, -, -⟩ := hends entry hentry
    · rw [hgiven, List.mem_singleton] at hs
      subst hs
      refine ⟨?_, hemits.labelNames, hemits.labelValues⟩
      rw [Sample.FullyLabelled, hemits.labelValues, List.length_map]
    · rw [hnone] at hs
      cases hs

/-- Five columns, of which only the first gives a sample for `mixedRow`. -/
def mixedColumns : Definition where
  context := "queue"
  labels := ["host"]
  helps := [("jobs", "Jobs"), ("load", "Load"), ("age", "Age"), ("size", "Size"), ("wait", "Wait")]
  kinds := [("jobs", "counter"), ("age", "summary"), ("size", "histogram"), ("wait", "histogram")]
  buckets := [("wait", [("short", "1")])]

/-- A row without a count. -/
def mixedRow : Row :=
  [("jobs", "3"), ("load", "idle"), ("age", "7"), ("size", "2"), ("wait", "1.5"), ("short", "1")]

/-- One column gives its sample, with an empty text for the missing label, whatever the others lack;
each of them is reported. -/
theorem accounts_for_columns_mixed :
    (∃ s, (mixedColumns.harvest "db" mixedRow).samples = [s] ∧ s.name = "db_queue_jobs" ∧
      s.labelNames = ["host"] ∧ s.labelValues = [""]) ∧
    (mixedColumns.harvest "db" mixedRow).count = 1 ∧
    (mixedColumns.harvest "db" mixedRow).notices =
      [.column (.valueNotNumber "load" "Load" "idle"), .column (.unknownKind "age" "summary"),
        .column (.noBuckets "size"), .column (.countNotWhole "wait" "Wait" "")] := by
  obtain ⟨-, -, hcount, -, hlabels⟩ := accounts_for_columns mixedColumns "db" mixedRow
  have hone : ∃ s, (mixedColumns.harvest "db" mixedRow).samples = [s] ∧ s.name = "db_queue_jobs" :=
    ⟨_, rfl, by decide +kernel⟩
  obtain ⟨s, hs, hname⟩ := hone
  rw [hs] at hcount hlabels
  obtain ⟨-, hnames, hvalues⟩ := hlabels s List.mem_cons_self
  have hnames : s.labelNames = ["host"] := hnames
  rw [hnames] at hvalues
  exact ⟨⟨s, hs, hname, hnames, hvalues⟩, hcount, by decide +kernel⟩

end Definition

end QueryMetrics
