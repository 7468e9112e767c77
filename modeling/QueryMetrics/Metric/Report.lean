import QueryMetrics.Log.Record
import QueryMetrics.Metric.Family

/-!
# Reports about rows and samples

What was left out while rows became samples and samples became families, as log records. All of
them are errors without a traceback: the data is at fault.
-/

namespace QueryMetrics

/-- A record of something left out, with texts as its fields. -/
def leftOutRecord (message : String) (fields : List (String × String)) : Log.Record :=
  ⟨.error, message, fields.map fun field => (field.1, .text field.2), false⟩

/-- A column without a sample as a log record. -/
def ColumnFault.record : ColumnFault → Log.Record
  | valueNotNumber column help value =>
    leftOutRecord "Unable to convert current value to float"
      [("metric", column), ("metric_help", help), ("value", value)]
  | noBuckets column =>
    leftOutRecord "No metricsbuckets entry for histogram" [("metric", column)]
  | countNotWhole column help value =>
    leftOutRecord "Unable to convert count value to int"
      [("metric", column), ("metric_help", help), ("value", value)]
  | unknownKind column kind =>
    leftOutRecord "Unknown metric type" [("metric", column), ("metric_type", kind)]

/-- A bucket that is left out as a log record. -/
def BucketFault.record : BucketFault → Log.Record
  | boundNotNumber column bound =>
    leftOutRecord "Unable to convert bucket limit value to float"
      [("metric", column), ("bucket_limit", bound)]
  | boundNotFinite column bound =>
    leftOutRecord "Bucket limit must be finite" [("metric", column), ("bucket_limit", bound)]
  | countNotWhole column field value =>
    leftOutRecord "Unable to convert bucket value to int"
      [("metric", column), ("field", field), ("value", value)]

/-- A notice about a row as a log record. -/
def RowNotice.record : RowNotice → Log.Record
  | column fault => fault.record
  | bucket fault => fault.record

/-- A sample that is not exposed as a log record. -/
def FamilyFault.record : FamilyFault → Log.Record
  | emptyName sample =>
    leftOutRecord "Invalid metric"
      [("metric", sample), ("error", "metric name cannot be empty")]
  | otherKind sample kind collected =>
    leftOutRecord "Metric already collected with a different type"
      [("metric", sample), ("metric_type", kind.word), ("collected_type", collected.word)]

end QueryMetrics
