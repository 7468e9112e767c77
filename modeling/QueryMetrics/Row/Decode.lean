import QueryMetrics.Document.Value
import QueryMetrics.Failure
import QueryMetrics.Number.Decimal
import QueryMetrics.Row.Moment
import QueryMetrics.Text.Quoted
import QueryMetrics.Text.Utf8

/-!
# Decoding rows

A query gives rows of cells in the types of the database. Definitions look columns up by
lower-case name and want texts, so every row is turned into a table from lower-case column names
to texts.

* A cell without a value is an empty text.
* A **large object** is read in full first. Reading it can fail; an object without content gives
  the word `None`.
* Raw bytes are read as UTF-8, each ill-formed part replaced.

A row must have as many cells as there are columns. Of two columns of one name the later counts.
-/

namespace QueryMetrics

open Text

/-- A value that a cell holds or that a large object gives when it is read. -/
inductive Content where
  | null
  | text (s : String)
  | integer (n : Int)
  | boolean (b : Bool)
  | number (x : Binary64)
  | decimal (d : Decimal)
  | moment (m : Moment)
  | span (t : TimeSpan)
  | bytes (octets : List UInt8)
  deriving DecidableEq

/-- A cell of a row. -/
inductive Cell where
  | value (content : Content)
  /-- A large object, with what reading it gives. -/
  | largeObject (content : Content)
  /-- A large object that cannot be read. -/
  | brokenObject (failure : Failure)
  deriving DecidableEq

namespace Content

/-- The content as a text; without a value it is the word `None`. -/
def display : Content → String
  | null => "None"
  | text s => s
  | integer n => toString n
  | boolean b => if b then "True" else "False"
  | number x => x.text
  | decimal d => d.text
  | moment m => m.text
  | span t => t.text
  | bytes octets => String.ofList (decodeLossy octets)

/-- The content as a document value, for log records. Bytes are shown as such. -/
def toValue : Content → Value
  | null => .null
  | integer n => .integer n
  | boolean b => .boolean b
  | number x => .number x
  | bytes octets => .text (quotedBytes octets)
  | content => .text content.display

/-- The character of an octet; beyond ASCII it is one that occurs in no numeral. -/
def asciiChar (octet : UInt8) : Char := if octet < 0x80 then Char.ofNat octet.toNat else '?'

/-- The content as a whole number: numbers are cut toward zero, texts and bytes are read. -/
def toInt : Content → Except WholeFault Int
  | text s => ofNumeral s.toList
  | integer n => .ok n
  | boolean b => .ok (if b then 1 else 0)
  | number x => ofTruncation (if x = .nan then .nan else .infinite) x.truncate?
  | decimal d =>
    ofTruncation (if d matches .nan .. then .decimalNan else .decimalInfinite) d.truncate?
  | bytes octets => ofNumeral (octets.map asciiChar)
  | _ => .error .wrongType
where
  ofNumeral (text : List Char) : Except WholeFault Int := (wholeNumeral text).mapError .numeral
  ofTruncation (fault : WholeFault) : Option Int → Except WholeFault Int
    | some n => .ok n
    | none => .error fault

end Content

namespace Cell

/-- What a cell holds; a large object that cannot be read holds nothing. -/
def content : Cell → Content
  | value content => content
  | largeObject content => content
  | brokenObject _ => .null

/-- The text of a cell. -/
def text : Cell → Except Failure String
  | value .null => .ok ""
  | value content => .ok content.display
  | largeObject content => .ok content.display
  | brokenObject failure => .error failure

/-- The cell as a whole number; a large object is none. -/
def toInt : Cell → Except WholeFault Int
  | value content => content.toInt
  | _ => .error .wrongType

end Cell

/-- The lower-case names of columns. -/
def columnNames (columns : List String) : List String := columns.map lower

/-- The texts of cells under their columns, both given in order. -/
def decodeCells : List String → List Cell → Except Failure (List (String × String))
  | column :: columns, cell :: cells => do
    let text ← cell.text
    let rest ← decodeCells columns cells
    .ok ((column, text) :: rest)
  | _, _ => .ok []

/-- A row as a table, given the lower-case names of the columns. The cells are read before the
number of cells is found to be wrong. -/
def decodeRow (names : List String) (cells : List Cell) : Except Failure Row := do
  let entries ← decodeCells names cells
  if cells.length = names.length then .ok (Entries.ofList entries)
  else .error (.rowWidth names.length cells.length)

/-- Rows up to the first failure, and that failure if there is one. -/
def decodeRows (names : List String) : List (List Cell) → List Row × Option Failure
  | [] => ([], none)
  | cells :: rest =>
    match decodeRow names cells with
    | .error failure => ([], some failure)
    | .ok row =>
      let (rows, failure) := decodeRows names rest
      (row :: rows, failure)

end QueryMetrics
