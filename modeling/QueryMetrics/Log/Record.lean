import QueryMetrics.Document.Value

/-!
# Log records

What a log line is made of: a level, the message that names the event, and fields in the order in
which they are given. A record may also carry the traceback of an error.
-/

namespace QueryMetrics.Log

/-- How important a record is. -/
inductive Level where
  | debug
  | info
  | warning
  | error
  | critical
  deriving DecidableEq, Repr

/-- The word for a level. -/
def Level.word : Level → String
  | debug => "debug"
  | info => "info"
  | warning => "warning"
  | error => "error"
  | critical => "critical"

/-- The level that a word asks for. Some levels answer to other words than their own. -/
def Level.ofWord? (word : String) : Option Level :=
  if word = "debug" then some debug
  else if word = "info" ∨ word = "msg" then some info
  else if word = "warning" ∨ word = "warn" then some warning
  else if word = "error" ∨ word = "exception" then some error
  else if word = "critical" ∨ word = "fatal" then some critical
  else none

/-- The rank of a level; a threshold lets a level pass when its rank is not below the
threshold. -/
def Level.rank : Level → Nat
  | debug => 10
  | info => 20
  | warning => 30
  | error => 40
  | critical => 50

/-- A log record. -/
structure Record where
  level : Level
  message : String
  fields : List (String × Value) := []
  traceback : Bool := false

end QueryMetrics.Log
