import QueryMetrics.Definition.Basic
import QueryMetrics.Document.Checked
import QueryMetrics.Document.Reading
import QueryMetrics.Document.Toml
import QueryMetrics.Text.Utf8

/-!
# Reading definitions

A definitions file is a TOML document with one `metric` table for every definition. The keys of
the document and of the tables are compared without regard to case; of several spellings of one
key the last counts. Keys that are not known are ignored.

A field may be given under its short name, as in `metricsdesc`, or under its long name, as in
`metrics_desc`; the short name wins. Complaints name the place in the words of the file.
-/

namespace QueryMetrics

open Text

namespace Definition

/-! ### Fields -/

/-- A table under lower-case keys. -/
def lowerKeys {α : Type} (entries : List (String × α)) : Entries String α :=
  Entries.ofList (entries.map fun entry => (lower entry.1, entry.2))

/-- Words for true and false, in any case. -/
def booleanWords : List (String × Bool) :=
  [("true", true), ("t", true), ("yes", true), ("y", true), ("on", true), ("1", true),
   ("false", false), ("f", false), ("no", false), ("n", false), ("off", false), ("0", false)]

/-- The truth value of a whole number. -/
def booleanOfInt (n : Int) : Checked Bool :=
  if n = 0 then .valid false else if n = 1 then .valid true else .fail .unclearBoolean

/-- A truth value, or a number or word that denotes one. Numbers beyond 64 bits and numbers that
are not whole are not taken for truth values at all. -/
def readBoolean : Value → Checked Bool
  | .boolean b => .valid b
  | .integer n => if -wordBound ≤ n ∧ n < wordBound then booleanOfInt n else .fail .notBoolean
  | .number x =>
    match x.toInt? with
    | some n => if -wordBound < n ∧ n < wordBound then booleanOfInt n else .fail .notBoolean
    | none => .fail .notBoolean
  | .text s =>
    match booleanWords.find? fun entry => entry.1 == s.map Char.toLower with
    | some entry => .valid entry.2
    | none => .fail .unclearBoolean
  | _ => .fail .notBoolean

/-- A duration: a text, or a number that stands for its own text. -/
def readDuration : Value → Checked String
  | .integer n =>
    if maxIntegerDigits < (toString n.natAbs).length then .fail .unprintable
    else .valid (toString n)
  | .number x => .valid x.text
  | value => Checked.text value

/-- The labels in lower case. -/
def readLabels (value : Value) : Checked (List String) :=
  (·.map lower) <$> Checked.list Checked.text .notSequence value

/-- Texts under lower-case columns. -/
def readTexts (value : Value) : Checked (Entries String String) :=
  lowerKeys <$> Checked.mapping Checked.text value

/-- Kinds in lower case under lower-case columns. -/
def readKinds (value : Value) : Checked (Entries String String) :=
  (fun kinds => lowerKeys (kinds.map fun entry => (entry.1, lower entry.2))) <$>
    Checked.mapping Checked.text value

/-- Bounds under lower-case bucket columns, under lower-case columns. -/
def readBuckets (value : Value) : Checked (Entries String (Entries String String)) :=
  lowerKeys <$> Checked.mapping readTexts value

/-! ### Definitions -/

/-- A definition from its table. -/
def ofValue : Value → Checked Definition
  | .table entries =>
    let fields := lowerKeys entries
    Definition.mk
      <$> Checked.field fields ["context"] "" Checked.text
      <*> Checked.field fields ["labels"] [] readLabels
      <*> Checked.field fields ["metricsdesc", "metrics_desc"] [] readTexts
      <*> Checked.field fields ["metricstype", "metrics_type"] [] readKinds
      <*> Checked.field fields ["metricsbuckets", "metrics_buckets"] [] readBuckets
      <*> Checked.field fields ["fieldtoappend", "field_to_append"] "" (fun value =>
        lower <$> Checked.text value)
      <*> Checked.field fields ["request"] "" Checked.text
      <*> Checked.field fields ["ignorezeroresult", "ignore_zero_result"] false readBoolean
      <*> Checked.field fields ["querytimeout", "query_timeout"] "" readDuration
      <*> Checked.field fields ["scrapeinterval", "scrape_interval"] "" readDuration
  | _ => .fail .notRecord

/-- The definitions of a document. -/
def listOfValue : Value → Checked (List Definition)
  | .table entries =>
    Checked.field (lowerKeys entries) ["metric"] [] fun value =>
      match value with
      | .array tables => Checked.items ofValue tables
      | _ => .fail .notList
  | _ => .fail .notRecord

/-- Why a definitions file was refused. -/
inductive FileError where
  /-- The file cannot be opened or read. -/
  | unreadable
  /-- The path can belong to no file. -/
  | badPath
  /-- The bytes are not UTF-8. -/
  | notUtf8
  /-- The text is not a document. -/
  | document (error : DocumentError)
  /-- The document does not describe definitions. -/
  | layout (complaints : List Complaint)
  deriving DecidableEq

/-- The definitions of a text. -/
def parseAll (text : String) : Except FileError (List Definition) :=
  match parseToml text with
  | .error error => .error (.document error)
  | .ok document => (listOfValue document).toExcept.mapError .layout

/-- The definitions of a file's bytes. -/
def ofBytes (bytes : List UInt8) : Except FileError (List Definition) :=
  match ofFile? bytes with
  | none => .error .notUtf8
  | some text => parseAll text

end Definition

end QueryMetrics
