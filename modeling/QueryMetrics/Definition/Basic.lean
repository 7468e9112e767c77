import QueryMetrics.Document.Entries
import QueryMetrics.Duration

/-!
# Metric definitions

A definition is one query together with the rules for turning its rows into metrics: which columns
are metrics and of what kind, which columns are labels, how the buckets of a histogram are named,
how long the query may take and how often it is run.

Names of columns, labels and buckets are kept in lower case, as the columns of decoded rows are.
The texts of kinds, bounds and durations are kept as they were given; `problems` says what is
wrong with them, and a definition with problems is never used.
-/

namespace QueryMetrics

open Text

/-- The kinds of metrics. -/
inductive Kind where
  | gauge
  | counter
  | histogram
  deriving DecidableEq, Repr

namespace Kind

/-- The word for a kind. -/
def word : Kind → String
  | gauge => "gauge"
  | counter => "counter"
  | histogram => "histogram"

/-- The kind that a word stands for. -/
def ofWord? (word : String) : Option Kind :=
  if word = "gauge" then some gauge
  else if word = "counter" then some counter
  else if word = "histogram" then some histogram
  else none

/-- Every kind is found by its word. -/
theorem ofWord?_word (kind : Kind) : ofWord? kind.word = some kind := by
  cases kind <;> rfl

end Kind

/-- A query and the rules for turning its rows into metrics. -/
structure Definition where
  /-- The middle part of the metric names. -/
  context : String := ""
  /-- Columns that become labels. -/
  labels : List String := []
  /-- Columns that become metrics, with their help texts. -/
  helps : Entries String String := []
  /-- Declared kinds of columns. -/
  kinds : Entries String String := []
  /-- For histogram columns, the bucket columns with their upper bounds. -/
  buckets : Entries String (Entries String String) := []
  /-- A column whose value ends the metric names, in place of labels. -/
  suffixColumn : String := ""
  /-- The text of the query. -/
  request : String := ""
  /-- A query without usable rows is no error. -/
  ignoreZeroResult : Bool := false
  /-- Time allowed for the query. -/
  queryTimeout : String := ""
  /-- Least time between two runs. -/
  scrapeInterval : String := ""
  deriving DecidableEq

/-- Something that makes a definition unusable. -/
inductive Problem where
  | emptyRequest
  | noColumns
  | unknownKind (kind column : String)
  | noBuckets (column : String)
  | invalidTimeout (text : String)
  | invalidInterval (text : String)
  deriving DecidableEq, Repr

/-- The problem as a sentence. -/
def Problem.message : Problem → String
  | emptyRequest => "request is empty; did you forget to define request?"
  | noColumns => "metricsdesc is empty; did you forget to define metricsdesc?"
  | unknownKind kind column =>
    "unknown metric type " ++ quoted kind ++ " for column " ++ quoted column
  | noBuckets column => "no metricsbuckets entry for histogram column " ++ quoted column
  | invalidTimeout text => "invalid querytimeout " ++ quoted text
  | invalidInterval text => "invalid scrapeinterval " ++ quoted text

namespace Definition

/-- What is remembered about a definition is kept under its context and request. -/
def identity (d : Definition) : String := d.context ++ "|" ++ d.request

/-- The declared kind of a column; undeclared columns are gauges. -/
def kindOf (d : Definition) (column : String) : String :=
  (d.kinds.find? column).getD Kind.gauge.word

/-- The time allowed for the query, in seconds. -/
def timeout (d : Definition) (default : Binary64) : Except DurationError Binary64 :=
  if d.queryTimeout.isEmpty then .ok default else parseDuration d.queryTimeout

/-- The least time between two runs, in seconds; without it the definition runs every time. -/
def minInterval (d : Definition) : Except DurationError (Option Binary64) :=
  if d.scrapeInterval.isEmpty then .ok none else (parseDuration d.scrapeInterval).map some

/-- What is wrong with the declared kind of a column. -/
def kindProblem? (d : Definition) (column kind : String) : Option Problem :=
  match Kind.ofWord? kind with
  | none => some (.unknownKind kind column)
  | some .histogram => if d.buckets.has column then none else some (.noBuckets column)
  | some _ => none

/-- The text is given and is not a duration. -/
def isBadDuration (text : String) : Bool :=
  !text.isEmpty && !(parseDuration text).isOk

/-- Everything that makes the definition unusable. -/
def problems (d : Definition) : List Problem :=
  (if isBlankText d.request then [.emptyRequest] else []) ++
  (if d.helps.isEmpty then [.noColumns] else []) ++
  d.kinds.filterMap (fun entry => d.kindProblem? entry.1 entry.2) ++
  (if isBadDuration d.queryTimeout then [.invalidTimeout d.queryTimeout] else []) ++
  (if isBadDuration d.scrapeInterval then [.invalidInterval d.scrapeInterval] else [])

end Definition

end QueryMetrics
