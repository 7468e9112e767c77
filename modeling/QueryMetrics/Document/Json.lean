import QueryMetrics.Document.Reading
import QueryMetrics.Document.Value

/-!
# JSON documents

Reading and writing of JSON. Beyond the standard, the names `NaN`, `Infinity` and `-Infinity` are
numbers, a repeated key keeps its last value, and a mark of byte order is refused. Numbers written
without point and exponent are whole numbers of any size, up to a limit on their digits.

**Reading** consumes a list of characters from the left; each function returns the rest.
Arrays and objects nest, up to a depth of `maxNesting`. The recursion carries a budget, which
`parseJson` makes large enough for every text.

**Writing** (`Value.json`) escapes everything but the printed characters of ASCII.
-/

namespace QueryMetrics

open Text

namespace Json

/-- Blanks between tokens. -/
def isSpace (c : Char) : Bool := c = ' ' ∨ c = '\t' ∨ c = '\n' ∨ c = '\r'

/-- Drops blanks. -/
def skipSpace (text : List Char) : List Char := text.dropWhile isSpace

/-! ### Strings -/

/-- Four hexadecimal digits as a code unit. -/
def codeUnit? : List Char → Option (Nat × List Char)
  | a :: b :: c :: d :: rest =>
    match hexValue? a, hexValue? b, hexValue? c, hexValue? d with
    | some a, some b, some c, some d => some (((a * 16 + b) * 16 + c) * 16 + d, rest)
    | _, _, _, _ => none
  | _ => none

/-- The code unit is the first half of a pair. -/
def isHighUnit (unit : Nat) : Bool := 0xD800 ≤ unit ∧ unit < 0xDC00

/-- The code unit is the second half of a pair. -/
def isLowUnit (unit : Nat) : Bool := 0xDC00 ≤ unit ∧ unit < 0xE000

/-- The character that a single-letter escape stands for. -/
def escaped? : Char → Option Char
  | '"' => some '"'
  | '\\' => some '\\'
  | '/' => some '/'
  | 'b' => some '\x08'
  | 'f' => some '\x0c'
  | 'n' => some '\n'
  | 'r' => some '\r'
  | 't' => some '\t'
  | _ => none

/-- One letter of a string before its closing quote. -/
def letter : List Char → Reading (Letter × List Char)
  | '\\' :: 'u' :: rest =>
    match codeUnit? rest with
    | none => .error .malformed
    | some (high, after) =>
      if isHighUnit high then
        match after with
        | '\\' :: 'u' :: more =>
          match codeUnit? more with
          | none => .error .malformed
          | some (low, left) =>
            if isLowUnit low then
              .ok (.char (Char.ofNat (0x10000 + (high - 0xD800) * 0x400 + (low - 0xDC00))), left)
            else .ok (.unit high, after)
        | _ => .ok (.unit high, after)
      else if isLowUnit high then .ok (.unit high, after)
      else .ok (.char (Char.ofNat high), after)
  | '\\' :: c :: rest =>
    match escaped? c with
    | some d => .ok (.char d, rest)
    | none => .error .malformed
  | c :: rest => if c.toNat < 0x20 ∨ c = '\\' then .error .malformed else .ok (.char c, rest)
  | [] => .error .malformed

/-- The letters of a string up to its closing quote. -/
def letters : Nat → List Char → Reading (List Letter × List Char)
  | _, '"' :: rest => .ok ([], rest)
  | 0, _ => .error .malformed
  | budget + 1, text => do
    let (first, rest) ← letter text
    let (others, left) ← letters budget rest
    .ok (first :: others, left)

/-- A string after its opening quote. -/
def stringBody (text : List Char) : Reading (LooseText × List Char) := do
  let (letters, rest) ← letters text.length text
  .ok (LooseText.ofLetters letters, rest)

/-- A string as a value. -/
def stringValue (body : LooseText) : Value :=
  if body.isPlain then .text body.text else .looseText body

/-! ### Numbers -/

/-- Splits leading ASCII digits off. -/
def spanAsciiDigits (text : List Char) : List Char × List Char := text.span Char.isDigit

/-- A point and the digits behind it, if there are any. -/
def fractionDigits? : List Char → Option (List Char × List Char)
  | '.' :: rest =>
    let (digits, left) := spanAsciiDigits rest
    if digits.isEmpty then none else some (digits, left)
  | _ => none

/-- An exponent, if there is one. -/
def exponent? : List Char → Option (Int × List Char)
  | c :: rest =>
    if c = 'e' ∨ c = 'E' then
      let (negative, body) : Bool × List Char := match rest with
        | '-' :: body => (true, body)
        | '+' :: body => (false, body)
        | body => (false, body)
      let (digits, left) := spanAsciiDigits body
      let n : Int := natOfDigits digits
      if digits.isEmpty then none else some (if negative then -n else n, left)
    else none
  | [] => none

/-- A number after its sign. -/
def unsignedNumber (negative : Bool) (text : List Char) : Reading (Value × List Char) :=
  let (digits, rest) : List Char × List Char := match text with
    | '0' :: rest => (['0'], rest)
    | text => spanAsciiDigits text
  if digits.isEmpty then .error .malformed
  else
    let (fraction, afterFraction) := (fractionDigits? rest).getD ([], rest)
    match exponent? afterFraction with
    | some (exponent, left) =>
      .ok (.number (.ofDecimal negative (natOfDigits (digits ++ fraction))
        (exponent - fraction.length)), left)
    | none =>
      if fraction.isEmpty then
        (decimalInteger negative digits).map fun n => (.integer n, rest)
      else
        .ok (.number (.ofDecimal negative (natOfDigits (digits ++ fraction))
          (-(fraction.length : Int))), afterFraction)

/-! ### Values -/

/-- Removes a word from the front of a text. -/
def word? (word : List Char) (text : List Char) : Option (List Char) :=
  if word.isPrefixOf text then some (text.drop word.length) else none

/-- The words that stand for values. -/
def words : List (List Char × Value) :=
  [("null".toList, .null), ("true".toList, .boolean true), ("false".toList, .boolean false),
   ("NaN".toList, .number .nan), ("Infinity".toList, .number (.infinite false)),
   ("-Infinity".toList, .number (.infinite true))]

/-- A value that is neither string, array nor object. -/
def atom (text : List Char) : Reading (Value × List Char) :=
  match words.findSome? fun (word, value) => (word? word text).map (value, ·) with
  | some answer => .ok answer
  | none =>
    match text with
    | '-' :: rest => unsignedNumber true rest
    | text => unsignedNumber false text

/-- The most brackets that stand around a value. -/
def maxNesting : Nat := 988

mutual

/-- One value at the front of the text; `room` is left for brackets. -/
def value : Nat → Nat → List Char → Reading (Value × List Char)
  | 0, _, _ => .error .malformed
  | budget + 1, room, text =>
    match text with
    | '"' :: rest => do
      let (body, left) ← stringBody rest
      .ok (stringValue body, left)
    | '[' :: rest => do
      let room ← roomInside .array 1 room
      match skipSpace rest with
      | ']' :: left => .ok (.array [], left)
      | body => do
        let (items, left) ← items budget room body
        .ok (.array items, left)
    | '\x7b' :: rest => do
      let room ← roomInside .table 1 room
      match skipSpace rest with
      | '\x7d' :: left => .ok (.table [], left)
      | body => do
        let (entries, left) ← members budget room [] body
        .ok (.table entries, left)
    | text => atom text

/-- The items of an array up to its closing bracket. -/
def items : Nat → Nat → List Char → Reading (List Value × List Char)
  | 0, _, _ => .error .malformed
  | budget + 1, room, text => do
    let (first, rest) ← value budget room text
    match skipSpace rest with
    | ']' :: left => .ok ([first], left)
    | ',' :: more => do
      let (others, left) ← items budget room (skipSpace more)
      .ok (first :: others, left)
    | _ => .error .malformed

/-- The members of an object up to its closing bracket, written into the entries so far. -/
def members : Nat → Nat → List (String × Value) → List Char →
    Reading (List (String × Value) × List Char)
  | 0, _, _, _ => .error .malformed
  | budget + 1, room, entries, text =>
    match text with
    | '"' :: rest => do
      let (key, afterKey) ← stringBody rest
      match skipSpace afterKey with
      | ':' :: body => do
        let (member, left) ← value budget room (skipSpace body)
        let written := if key.isPlain then Entries.put key.text member entries else entries
        match skipSpace left with
        | '\x7d' :: left => .ok (written, left)
        | ',' :: more => members budget room written (skipSpace more)
        | _ => .error .malformed
      | _ => .error .malformed
    | _ => .error .malformed

end

end Json

/-- Reads a JSON document. -/
def parseJson (text : String) : Reading Value := do
  let chars := text.toList
  let (document, rest) ←
    Json.value (2 * chars.length + 2) Json.maxNesting (Json.skipSpace chars)
  if (Json.skipSpace rest).isEmpty then .ok document else .error .malformed

/-! ### Writing -/

namespace Json

/-- A code unit as an escape. -/
def unitEscape (unit : Nat) : List Char := '\\' :: 'u' :: hexadecimal 4 unit

/-- A character inside a string. -/
def writtenChar (c : Char) : List Char :=
  match c with
  | '"' => ['\\', '"']
  | '\\' => ['\\', '\\']
  | '\n' => ['\\', 'n']
  | '\r' => ['\\', 'r']
  | '\t' => ['\\', 't']
  | '\x08' => ['\\', 'b']
  | '\x0c' => ['\\', 'f']
  | c =>
    if 0x20 ≤ c.toNat ∧ c.toNat < 0x7F then [c]
    else if c.toNat < 0x10000 then unitEscape c.toNat
    else
      let code := c.toNat - 0x10000
      unitEscape (0xD800 + code / 0x400) ++ unitEscape (0xDC00 + code % 0x400)

/-- A string with its quotes. -/
def writtenString (s : String) : String :=
  String.ofList ('"' :: s.toList.flatMap writtenChar ++ ['"'])

/-- A number; the three that are not finite have names. -/
def writtenNumber : Binary64 → String
  | .nan => "NaN"
  | .infinite negative => if negative then "-Infinity" else "Infinity"
  | x => x.text

end Json

namespace Value

mutual

/-- The value as a JSON text on one line. -/
def json : Value → String
  | null => "null"
  | boolean b => if b then "true" else "false"
  | integer n => toString n
  | number x => Json.writtenNumber x
  | text s => Json.writtenString s
  | looseText t => Json.writtenString t.text
  | moment => "null"
  | array items => "[" ++ ", ".intercalate (jsonItems items) ++ "]"
  | table entries => "\x7b" ++ ", ".intercalate (jsonEntries entries) ++ "\x7d"

/-- The JSON texts of the items of an array. -/
def jsonItems : List Value → List String
  | [] => []
  | item :: rest => item.json :: jsonItems rest

/-- The JSON texts of the entries of a table. -/
def jsonEntries : List (String × Value) → List String
  | [] => []
  | (key, value) :: rest => (Json.writtenString key ++ ": " ++ value.json) :: jsonEntries rest

end

end Value

end QueryMetrics
