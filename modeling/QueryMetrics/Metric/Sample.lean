import QueryMetrics.Definition.Basic
import QueryMetrics.Metric.Name

/-!
# Samples

One row of a query gives at most one sample for every column that the definition declares as a
metric. Each column has an **outcome** of its own: a sample, or the reason why there is none. No
column can affect another.

* **Values.** Every column must hold a number. A histogram also needs the row's `count`, a whole
  number of 64 bits, and buckets.
* **Buckets** are read one by one; a malformed one is left out. Bounds must be finite. Two bounds
  at the same position are one bucket, which keeps its first spelling and its last count.
* **Names and labels.** Names end with the column, and the declared labels are attached with the
  row's values. With a suffix column, names end with the cleaned value of that column instead and
  there are no labels.
* **The row as a whole** is gone through once (`Definition.harvest`), which collects the samples,
  their number and what was reported about the columns.
-/

namespace QueryMetrics

open Text

/-- A decoded row: lower-case columns with their texts. -/
abbrev Row := Entries String String

/-- The text of a column; a column that is not there is empty. -/
def Row.get (row : Row) (column : String) : String := (Entries.find? column row).getD ""

/-- A single value ready to be exposed. -/
structure Sample where
  name : String
  kind : Kind
  /-- The value; for a histogram, the sum of the observations. -/
  value : Binary64
  help : String := ""
  labelNames : List String := []
  labelValues : List String := []
  /-- For a histogram, the number of observations; those that come from rows are not negative. -/
  count : Option Int := none
  /-- For a histogram, upper bounds with cumulative counts. -/
  buckets : Entries Binary64 Int := []
  deriving DecidableEq

/-- Why a column gives no sample. -/
inductive ColumnFault where
  | valueNotNumber (column help value : String)
  | noBuckets (column : String)
  | countNotWhole (column help value : String)
  | unknownKind (column kind : String)
  deriving DecidableEq, Repr

/-- Why a bucket is left out. -/
inductive BucketFault where
  | boundNotNumber (column bound : String)
  | boundNotFinite (column bound : String)
  | countNotWhole (column field value : String)
  deriving DecidableEq, Repr

/-- Something to report about a row. -/
inductive RowNotice where
  | column (fault : ColumnFault)
  | bucket (fault : BucketFault)
  deriving DecidableEq, Repr

/-! ### Buckets -/

/-- The bound and the count of one bucket. -/
def readBucket (row : Row) (column field bound : String) :
    Except BucketFault (Binary64 × Int) :=
  match Binary64.ofText? bound with
  | none => .error (.boundNotNumber column bound)
  | some limit =>
    if limit.isFinite then
      match unsigned? (row.get field) with
      | none => .error (.countNotWhole column field (row.get field))
      | some count => .ok (limit, count)
    else .error (.boundNotFinite column bound)

/-- The valid results of a list. -/
def valids {ε α : Type} (outcomes : List (Except ε α)) : List α :=
  outcomes.filterMap fun outcome => outcome.toOption

/-- The errors of a list. -/
def faults {ε α : Type} (outcomes : List (Except ε α)) : List ε :=
  outcomes.filterMap fun outcome =>
    match outcome with
    | .error fault => some fault
    | .ok _ => none

/-- Buckets by position of their bounds. -/
def mergeBuckets (buckets : List (Binary64 × Int)) : Entries Binary64 Int :=
  buckets.foldl (fun merged bucket => Entries.putBy Binary64.agrees bucket.1 bucket.2 merged) []

/-! ### Columns -/

/-- A sample with the buckets that had to be left out of it. -/
abbrev Emission := Sample × List BucketFault

namespace Definition

/-- The last part of the sample names that come from a column. -/
def lastPart (d : Definition) (row : Row) (column : String) : String :=
  if d.suffixColumn.isEmpty then column else cleanName (row.get d.suffixColumn)

/-- The names of the labels attached to samples. -/
def attachedLabels (d : Definition) : List String :=
  if d.suffixColumn.isEmpty then d.labels else []

/-- The sample of a column whose value is known, before count and buckets. -/
def plainSample (d : Definition) (ns : String) (row : Row) (column help : String) (kind : Kind)
    (value : Binary64) : Sample where
  name := qualifiedName [ns, d.context, d.lastPart row column]
  kind := kind
  value := value
  help := help
  labelNames := d.attachedLabels
  labelValues := d.attachedLabels.map row.get

/-- What a histogram column gives for a row. -/
def histogramOutcome (d : Definition) (ns : String) (row : Row) (column help : String)
    (value : Binary64) : Except ColumnFault Emission :=
  match d.buckets.find? column with
  | none => .error (.noBuckets column)
  | some bounds =>
    match unsigned? (row.get "count") with
    | none => .error (.countNotWhole column help (row.get "count"))
    | some count =>
      let read := bounds.map fun entry => readBucket row column entry.1 entry.2
      .ok ({ d.plainSample ns row column help .histogram value with
          count := some (count : Int), buckets := mergeBuckets (valids read) }, faults read)

/-- What a column gives for a row. -/
def columnOutcome (d : Definition) (ns : String) (row : Row) (column help : String) :
    Except ColumnFault Emission :=
  match Binary64.ofText? (row.get column) with
  | none => .error (.valueNotNumber column help (row.get column))
  | some value =>
    match Kind.ofWord? (d.kindOf column) with
    | none => .error (.unknownKind column (d.kindOf column))
    | some .histogram => d.histogramOutcome ns row column help value
    | some kind => .ok (d.plainSample ns row column help kind value, [])

/-- The outcomes of all columns for a row, in the order of their declaration. -/
def outcomes (d : Definition) (ns : String) (row : Row) : List (Except ColumnFault Emission) :=
  d.helps.map fun entry => d.columnOutcome ns row entry.1 entry.2

/-- The samples of a row. -/
def samples (d : Definition) (ns : String) (row : Row) : List Sample :=
  (valids (d.outcomes ns row)).map (·.1)

/-- What is reported about the outcome of a column. -/
def noticesOf : Except ColumnFault Emission → List RowNotice
  | .error fault => [.column fault]
  | .ok (_, left) => left.map .bucket

/-- What is reported about a row. -/
def notices (d : Definition) (ns : String) (row : Row) : List RowNotice :=
  (d.outcomes ns row).flatMap noticesOf

end Definition

/-- What was taken from a row. -/
structure Harvest where
  samples : List Sample := []
  /-- How many samples there are. -/
  count : Nat := 0
  notices : List RowNotice := []
  deriving DecidableEq

/-- Takes in what a column gives. -/
def Harvest.add (harvest : Harvest) (outcome : Except ColumnFault Emission) : Harvest :=
  let reported := { harvest with notices := harvest.notices ++ Definition.noticesOf outcome }
  match outcome with
  | .error _ => reported
  | .ok (s, _) => { reported with samples := harvest.samples ++ [s], count := harvest.count + 1 }

namespace Definition

/-- Takes what the columns give for a row, one after another in the order of their declaration. -/
def harvest (d : Definition) (ns : String) (row : Row) : Harvest :=
  d.helps.foldl (fun harvest entry => harvest.add (d.columnOutcome ns row entry.1 entry.2)) {}

/-- Every sample has a value for each of its labels. -/
theorem length_labelValues {d : Definition} {ns : String} {row : Row} {s : Sample}
    (h : s ∈ d.samples ns row) : s.labelValues.length = s.labelNames.length := by
  simp only [samples, valids, outcomes, List.mem_map, List.mem_filterMap] at h
  obtain ⟨emission, ⟨_, ⟨entry, _, rfl⟩, hemit⟩, rfl⟩ := h
  unfold columnOutcome at hemit
  split at hemit
  · cases hemit
  · split at hemit
    · cases hemit
    · unfold histogramOutcome at hemit
      split at hemit
      · cases hemit
      · split at hemit
        · cases hemit
        · cases hemit
          simp [plainSample]
    · cases hemit
      simp [plainSample]

end Definition

end QueryMetrics
