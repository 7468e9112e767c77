import QueryMetrics.Log.Record
import QueryMetrics.Text.Case
import QueryMetrics.Text.Quoted

/-!
# Log lines

A record is written on one line as `key=value` pairs, separated by blanks: the time, the level and
the message first, then the other fields in order.

* A value with a blank, an equals sign or a quote is put in quotes, and only then its backslashes
  are doubled. Quotes and line ends are escaped in every value.
* A true field is its key alone, a false one says `false`, and a field without a value has nothing
  behind the equals sign.
* Keys with blanks or control characters cannot be written.
-/

namespace QueryMetrics.Log

open Text

/-! ### Levels -/

/-- Why a name sets no threshold: it is taken by something else. -/
inductive ThresholdFault where
  /-- The name of a layout of lines. -/
  | layout (pattern : String)
  /-- The name of the table of layouts. -/
  | layoutTable
  deriving DecidableEq, Repr

/-- The fault as a text: the layout in quotes. -/
def ThresholdFault.message : ThresholdFault → String
  | layout pattern => quoted pattern
  | layoutTable => "a table of layouts is no level"

/-- The least rank that passes, by the name of a level in any case. Names that are not known stand
for `INFO`, but two names belong to the layout of lines. -/
def threshold (name : String) : Except ThresholdFault Nat :=
  if spells "CRITICAL" name || spells "FATAL" name then .ok Level.critical.rank
  else if spells "ERROR" name then .ok Level.error.rank
  else if spells "WARNING" name || spells "WARN" name then .ok Level.warning.rank
  else if spells "DEBUG" name then .ok Level.debug.rank
  else if spells "NOTSET" name then .ok 0
  else if spells "BASIC_FORMAT" name then .error (.layout "%(levelname)s:%(name)s:%(message)s")
  else if spells "_STYLES" name then .error .layoutTable
  else .ok Level.info.rank

/-- A level passes a threshold. -/
def Level.passes (level : Level) (least : Nat) : Bool := least ≤ level.rank

/-! ### Values -/

/-- The value has to be put in quotes. -/
def needsQuotes (text : List Char) : Bool := text.any fun c => c = ' ' ∨ c = '=' ∨ c = '"'

/-- A character of a value. -/
def escapedChar (quotes : Bool) (c : Char) : List Char :=
  if c = '"' then ['\\', '"']
  else if c = '\n' then ['\\', 'n']
  else if c = '\\' ∧ quotes then ['\\', '\\']
  else [c]

/-- A text as a value. -/
def writtenText (text : String) : String :=
  let quotes := needsQuotes text.toList
  let escaped := String.ofList (text.toList.flatMap (escapedChar quotes))
  if quotes then "\"" ++ escaped ++ "\"" else escaped

/-- A field. -/
def writtenField (key : String) : Value → String
  | .null => key ++ "="
  | .boolean true => key
  | .boolean false => key ++ "=false"
  | value => key ++ "=" ++ writtenText value.display

/-! ### Lines -/

/-- Why a record cannot be written. -/
inductive LineFault where
  /-- A key with a blank or a control character. -/
  | invalidKey (key : String)
  /-- A field under a name that the message itself has. -/
  | reservedName
  deriving DecidableEq, Repr

/-- The fault as a sentence. -/
def LineFault.message : LineFault → String
  | invalidKey key => "Invalid key: \"" ++ key ++ "\""
  | reservedName => "the name of a field is reserved"

/-- A key that can be written. -/
def isWritableKey (key : String) : Bool := key.toList.all fun c => ' ' < c

/-- Names that fields cannot have, whether the record is written or not. -/
def reservedNames : List String := ["self", "event"]

/-- Names that fields of a written record cannot have. -/
def writtenReservedNames : List String := ["method_name"]

/-- The record has a field under one of the names. -/
def hasFieldAmong (names : List String) (record : Record) : Bool :=
  record.fields.any fun field => field.1 ∈ names

/-- Fields that are not written as such: those that stand in front, and the one that asks for a
traceback. -/
def ownNames : List String := ["timestamp", "level", "msg", "exc_info"]

/-- The fields of a line in order: what stands in front, then the rest. -/
def lineFields (time : String) (record : Record) : List (String × Value) :=
  [("timestamp", .text time), ("level", .text record.level.word), ("msg", .text record.message)] ++
    (Entries.ofList record.fields).keep (· ∉ ownNames)

/-- The line of a record that was made at a time, as that time is written. -/
def line (time : String) (record : Record) : Except LineFault String :=
  let fields := lineFields time record
  match fields.find? fun field => !isWritableKey field.1 with
  | some (key, _) => .error (.invalidKey key)
  | none => .ok (" ".intercalate (fields.map fun field => writtenField field.1 field.2))

/-- What is printed for a record: nothing below the threshold. -/
def print? (least : Nat) (time : String) (record : Record) : Except LineFault (Option String) :=
  if hasFieldAmong reservedNames record then .error .reservedName
  else if !record.level.passes least then .ok none
  else if hasFieldAmong writtenReservedNames record then .error .reservedName
  else (line time record).map some

end QueryMetrics.Log
