import QueryMetrics.Definition.Reading
import QueryMetrics.Files
import QueryMetrics.Metric.Exposition

/-!
# Failures

Everything that can go wrong while the exporter works. A failure is a cause with its data; its
sentence is `Failure.message`, and the word under which its kind is logged is
`Failure.typeName`.

Three kinds are **expected** in a cycle and are logged without a traceback: the database cannot
serve a request, a definition is unusable, and a query gives no usable rows.
-/

namespace QueryMetrics

open Text

/-- Classes of errors of a database driver. -/
inductive DriverErrorClass where
  | database
  | interface
  | operational
  | general
  deriving DecidableEq, Repr

/-- An error raised by the database driver, with its full code such as `ORA-03113`. -/
structure DriverError where
  errorClass : DriverErrorClass := .database
  code : String := ""
  text : String := ""
  deriving DecidableEq, Repr

/-- How a database fails to serve a request. -/
inductive DatabaseFault where
  /-- The session or the pool has been closed. -/
  | sessionClosed
  /-- The query ran longer than it was allowed to. -/
  | timedOut
  /-- Any other way. -/
  | other
  deriving DecidableEq, Repr

/-- A failure that comes from outside, without a meaning of its own here. -/
inductive ForeignKind where
  | runtime
  | value
  deriving DecidableEq, Repr

/-- An argument that is refused. -/
inductive BadArgument where
  | nonpositiveTimeout
  | nonpositiveInterval
  | collectorOnDemand
  | emptyConnectString
  | unsupportedRole (role : String)
  | poolBounds
  | idleAboveOpen
  deriving DecidableEq, Repr

/-- The refusal as a sentence. -/
def BadArgument.message : BadArgument → String
  | nonpositiveTimeout => "query_timeout must be positive"
  | nonpositiveInterval => "interval must be positive"
  | collectorOnDemand => "collector must be in scheduled mode"
  | emptyConnectString => "connect_string cannot be empty"
  | unsupportedRole role => "Unsupported database role: " ++ role
  | poolBounds => "max_open_conns must be positive and max_idle_conns non-negative"
  | idleAboveOpen => "max_idle_conns cannot exceed max_open_conns"

/-- Why a value cannot be taken as a whole number. Decimal numbers have causes of their own. -/
inductive WholeFault where
  | nan
  | infinite
  | decimalNan
  | decimalInfinite
  | numeral (fault : NumeralFault)
  | wrongType
  deriving DecidableEq, Repr

/-- Why a row is not the single value that was asked for. -/
inductive RowFault where
  | noRow
  | width (cells : Nat)
  deriving DecidableEq, Repr

/-- Why the exporter does not start. -/
inductive StartFault where
  | configMissing (path : String)
  | configUnreadable (path : String) (fault : FileFault)
  | configNotUtf8
  | configNotJson
  | configDigits (count : Nat)
  | configDepth (innermost : Bracket)
  | configNotTable
  | config (complaints : List Complaint)
  | passwordMissing (path : String)
  | passwordUnreadable (path : String) (fault : FileFault)
  | passwordNotUtf8
  /-- A path of definitions holds code units that no path may hold. -/
  | strayUnits (stray : StrayUnits)
  | pathNotRooted (path : String)
  | unknownParameterKind (kind : String)
  | duplicateParameters (names : List String) (path : String)
  deriving DecidableEq

/-- Something that went wrong. -/
inductive Failure where
  /-- The database cannot serve a request. -/
  | database (fault : DatabaseFault) (message : String)
  /-- The driver reports an error. -/
  | driver (error : DriverError)
  /-- A definitions file was refused. -/
  | definitions (source : String) (error : Definition.FileError)
  /-- A definition has problems. -/
  | unusable (problems : List Problem)
  /-- A query gave no usable rows. -/
  | zeroResult (context : String)
  /-- A duration cannot be read. -/
  | duration (error : DurationError)
  /-- An argument is refused. -/
  | argument (fault : BadArgument)
  /-- A snapshot was asked of a collector without one. -/
  | noSnapshot
  /-- A value is not a whole number. -/
  | whole (fault : WholeFault)
  /-- A row is not a single value. -/
  | row (fault : RowFault)
  /-- A row has more or fewer cells than there are columns. -/
  | rowWidth (columns cells : Nat)
  /-- Labels and their values do not match. -/
  | labels (mismatch : LabelMismatch)
  /-- The families cannot be written. -/
  | exposition (fault : Exposition.Failure)
  /-- A whole number in the path of a request cannot be read. -/
  | pathNumeral (fault : NumeralFault)
  /-- The exporter does not start. -/
  | start (fault : StartFault)
  /-- A failure from outside. -/
  | foreign (kind : ForeignKind) (message : String)
  deriving DecidableEq

namespace Definition.FileError

/-- The definitions as a whole are refused, in contrast to an accident while reading them. -/
def isRefusal : FileError → Bool
  | unreadable => true
  | badPath => false
  | notUtf8 => false
  | document .malformed => true
  | document (.tooManyDigits _) => false
  | document (.tooDeep _) => false
  | layout _ => true

end Definition.FileError

namespace Failure

/-- The definitions could not be loaded, which ends the exporter. -/
def isReload : Failure → Bool
  | definitions _ error => error.isRefusal
  | _ => false

/-- The database could not serve a request. -/
def isDatabase : Failure → Bool
  | database .. => true
  | _ => false

/-- The database session was closed. -/
def isSessionClosed : Failure → Bool
  | database .sessionClosed _ => true
  | _ => false

/-- The driver reports an error. -/
def isDriver : Failure → Bool
  | driver _ => true
  | _ => false

/-- Failures that occur in the course of things and are logged without a traceback. -/
def isExpected : Failure → Bool
  | database .. => true
  | unusable _ => true
  | zeroResult _ => true
  | _ => false

/-- The word for the kind of failure in log records. -/
def typeName : Failure → String
  | database .sessionClosed _ => "SessionClosedError"
  | database .timedOut _ => "QueryTimeoutError"
  | database .other _ => "DatabaseError"
  | driver error =>
    match error.errorClass with
    | .database => "DatabaseError"
    | .interface => "InterfaceError"
    | .operational => "OperationalError"
    | .general => "Error"
  | definitions _ .badPath => "ValueError"
  | definitions _ .notUtf8 => "UnicodeDecodeError"
  | definitions _ (.document (.tooManyDigits _)) => "ValueError"
  | definitions _ (.document (.tooDeep _)) => "RecursionError"
  | definitions .. => "DefinitionReloadError"
  | unusable _ => "DefinitionConfigError"
  | zeroResult _ => "ZeroResultError"
  | duration _ => "ValueError"
  | argument _ => "ValueError"
  | noSnapshot => "RuntimeError"
  | whole .nan => "ValueError"
  | whole .infinite => "OverflowError"
  | whole .decimalNan => "ValueError"
  | whole .decimalInfinite => "OverflowError"
  | whole (.numeral _) => "ValueError"
  | whole .wrongType => "TypeError"
  | row .noRow => "TypeError"
  | row (.width _) => "ValueError"
  | rowWidth .. => "ValueError"
  | labels _ => "ValueError"
  | exposition _ => "OverflowError"
  | pathNumeral _ => "ValueError"
  | start _ => "StartError"
  | foreign .runtime _ => "RuntimeError"
  | foreign .value _ => "ValueError"

/-- A number with too many digits, as a sentence. -/
def digitsMessage (count : Nat) : String :=
  "Exceeds the limit (" ++ toString maxIntegerDigits ++
    " digits) for integer string conversion: value has " ++ toString count ++
    " digits; use sys.set_int_max_str_digits() to increase the limit"

/-- That brackets are nested too deeply, as a sentence. -/
def depthMessage : String := "maximum recursion depth exceeded"

/-- The name of what stands in brackets in the configuration. -/
def bracketName : Bracket → String
  | .array => "array"
  | .table => "object"

/-- A text that cannot be read as a whole number, as a sentence. -/
def numeralMessage : NumeralFault → String
  | .malformed => "the text is not a whole number"
  | .tooManyDigits count => digitsMessage count

/-- The reason why the exporter does not start, as a sentence. -/
def startMessage : StartFault → String
  | .configMissing path => "Configuration file not found: " ++ path
  | .configUnreadable path fault =>
    "Configuration file cannot be read: " ++ path ++ ": " ++ fault.message
  | .configNotUtf8 => "the configuration is not UTF-8"
  | .configNotJson => "the configuration is not JSON"
  | .configDigits count => digitsMessage count
  | .configDepth innermost =>
    depthMessage ++ " while decoding a JSON " ++ bracketName innermost ++ " from a unicode string"
  | .configNotTable => "the configuration is not a table"
  | .config _ => "the configuration is not valid"
  | .passwordMissing path => "Password file not found: " ++ path
  | .passwordUnreadable path fault =>
    "Password file cannot be read: " ++ path ++ ": " ++ fault.message
  | .passwordNotUtf8 => "the password file is not UTF-8"
  | .strayUnits stray => stray.message
  | .pathNotRooted path => "the metrics path does not start with a slash: " ++ path
  | .unknownParameterKind kind => "the kind of a path parameter is not known: " ++ kind
  | .duplicateParameters names path =>
    "Duplicated param name" ++ (if names.length > 1 then "s " else " ") ++
      ", ".intercalate names ++ " at path " ++ path

/-- The failure as a sentence. -/
def message : Failure → String
  | database _ message => message
  | driver error => error.text
  | definitions _ .badPath => FileFault.nullCharacter.message
  | definitions _ (.document (.tooManyDigits count)) => digitsMessage count
  | definitions _ (.document (.tooDeep _)) => depthMessage
  | definitions source _ => "Error while loading " ++ source
  | unusable problems => "; ".intercalate (problems.map Problem.message)
  | zeroResult context =>
    "query returned no usable metrics (context=" ++ quoted context ++ ")"
  | duration error => error.message
  | argument fault => fault.message
  | noSnapshot => "scrape_into_snapshot requires a collector in scheduled mode"
  | whole .nan => "the value is not a number"
  | whole .infinite => "the value is infinite"
  | whole .decimalNan => "cannot convert NaN to integer"
  | whole .decimalInfinite => "cannot convert Infinity to integer"
  | whole (.numeral fault) => numeralMessage fault
  | whole .wrongType => "the value is not of a numeric type"
  | row .noRow => "no row was found"
  | row (.width cells) => "one cell was expected, and the row has " ++ toString cells
  | rowWidth columns cells =>
    "the row has " ++ toString cells ++ " cells for " ++ toString columns ++ " columns"
  | labels mismatch =>
    "the sample has " ++ toString mismatch.values ++ " label values for " ++
      toString mismatch.names ++ " label names"
  | exposition (.outOfRange family) =>
    "('int too large to convert to float', " ++ family.shown ++ ")"
  | pathNumeral fault => numeralMessage fault
  | start fault => startMessage fault
  | foreign _ message => message

end Failure

end QueryMetrics
