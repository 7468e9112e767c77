import QueryMetrics.Document.Toml.Scalar
import QueryMetrics.Document.Toml.Table

/-!
# TOML documents

Reading of TOML 1.0. A document is a sequence of lines: blank lines, comments, headers of tables
and of arrays of tables, and pairs of a key and a value. Lines end with a line feed, which may
follow a carriage return.

Values nest, and the brackets around a value have a limited room (`maxRoom`): arrays take less of
it than tables. The readers of values also carry a budget, which `parseToml` makes large enough for
every text.
-/

namespace QueryMetrics

namespace Toml

/-! ### Values -/

/-- Drops blanks, line ends and comments, as they may stand between the items of an array. -/
def skipFiller : Nat → List Char → Reading (List Char)
  | 0, text => .ok text
  | budget + 1, text =>
    match text.dropWhile isSpaceOrNewline with
    | '#' :: rest => do
      let left ← skipComment ('#' :: rest)
      skipFiller budget left
    | left => .ok left

/-- A table within brackets as far as it has been read. -/
structure InlineTable where
  entries : Table := []
  marks : Marks := {}

/-- Writes a pair into a table within brackets. -/
def InlineTable.add (table : InlineTable) (path : Path) (value : Value) : Reading InlineTable :=
  let (parents, last) := splitPath path
  if table.marks.isFrozen path then .error .malformed
  else match changeAt false parents (addEntry last value) table.entries with
    | none => .error .malformed
    | some entries =>
      .ok ⟨entries, if isBracketed value then table.marks.freeze path else table.marks⟩

/-- The room for the brackets around a value. -/
def maxRoom : Nat := 986

/-- The room that a pair of brackets takes. -/
def roomFor : Bracket → Nat
  | .array => 2
  | .table => 3

mutual

/-- One value at the front of the text; `room` is left for brackets. -/
def value : Nat → Nat → List Char → Reading (Value × List Char)
  | 0, _, _ => .error .malformed
  | budget + 1, room, text =>
    match string? text with
    | some answer => do
      let (body, left) ← answer
      .ok (.text (String.ofList body), left)
    | none =>
      match text with
      | 't' :: 'r' :: 'u' :: 'e' :: left => .ok (.boolean true, left)
      | 'f' :: 'a' :: 'l' :: 's' :: 'e' :: left => .ok (.boolean false, left)
      | '[' :: rest => do
        let room ← roomInside .array (roomFor .array) room
        let body ← skipFiller rest.length rest
        let (items, left) ← items budget room body
        .ok (.array items, left)
      | '\x7b' :: rest => do
        let room ← roomInside .table (roomFor .table) room
        match skipSpace rest with
        | '\x7d' :: left => .ok (.table [], left)
        | body => do
          let (table, left) ← pairs budget room {} body
          .ok (.table table.entries, left)
      | _ => scalar text

/-- The items of an array up to its closing bracket. -/
def items : Nat → Nat → List Char → Reading (List Value × List Char)
  | 0, _, _ => .error .malformed
  | _ + 1, _, ']' :: left => .ok ([], left)
  | budget + 1, room, text => do
    let (first, rest) ← value budget room text
    let after ← skipFiller rest.length rest
    match after with
    | ']' :: left => .ok ([first], left)
    | ',' :: more => do
      let body ← skipFiller more.length more
      let (others, left) ← items budget room body
      .ok (first :: others, left)
    | _ => .error .malformed

/-- The pairs of a table within brackets, up to its closing bracket. -/
def pairs : Nat → Nat → InlineTable → List Char → Reading (InlineTable × List Char)
  | 0, _, _, _ => .error .malformed
  | budget + 1, room, table, text => do
    let (path, rest) ← key text
    match rest with
    | '=' :: body => do
      let (member, after) ← value budget room (skipSpace body)
      let written ← table.add path member
      match skipSpace after with
      | '\x7d' :: left => .ok (written, left)
      | ',' :: more => pairs budget room written (skipSpace more)
      | _ => .error .malformed
    | _ => .error .malformed

end

/-! ### Lines -/

/-- A document as far as it has been read: its tables, their marks, the paths that become
declared with the next header, and the header in force. -/
structure Draft where
  entries : Table := []
  marks : Marks := {}
  pending : List Path := []
  header : Path := []

/-- The paths passed by a dotted key, its own left out. -/
def passedPaths (header : Path) (path : Path) : List Path :=
  (List.range (path.length - 1)).map fun i => header ++ path.take (i + 1)

/-- Writes a pair below the header in force. -/
def Draft.addPair (draft : Draft) (path : Path) (value : Value) : Reading Draft :=
  let (parents, last) := splitPath path
  let passed := passedPaths draft.header path
  if passed.any draft.marks.isDeclared || draft.marks.isFrozen (draft.header ++ parents) then
    .error .malformed
  else match changeAt true (draft.header ++ parents) (addEntry last value) draft.entries with
    | none => .error .malformed
    | some entries =>
      .ok { draft with
        entries
        marks := if isBracketed value then draft.marks.freeze (draft.header ++ path)
          else draft.marks
        pending := passed ++ draft.pending }

/-- A header comes: the pending paths are declared. -/
def Draft.settle (draft : Draft) : Draft :=
  { draft with marks := draft.marks.declare draft.pending, pending := [] }

/-- Opens a table by its header. -/
def Draft.openTable (draft : Draft) (path : Path) : Reading Draft :=
  if draft.marks.isDeclared path || draft.marks.isFrozen path then .error .malformed
  else match changeAt true path some draft.entries with
    | none => .error .malformed
    | some entries =>
      .ok { draft with entries, marks := draft.marks.declare [path], header := path }

/-- Opens a new element of an array of tables by its header. -/
def Draft.openElement (draft : Draft) (path : Path) : Reading Draft :=
  let (parents, last) := splitPath path
  if draft.marks.isFrozen path then .error .malformed
  else match changeAt true parents (addElement last) draft.entries with
    | none => .error .malformed
    | some entries =>
      .ok { draft with
        entries, marks := (draft.marks.clear path).declare [path], header := path }

/-- The content of a line that is neither blank nor a comment. -/
def statement (draft : Draft) (text : List Char) : Reading (Draft × List Char) :=
  match text with
  | '[' :: '[' :: rest => do
    let (path, left) ← key (skipSpace rest)
    let opened ← draft.settle.openElement path
    match left with
    | ']' :: ']' :: left => .ok (opened, left)
    | _ => .error .malformed
  | '[' :: rest => do
    let (path, left) ← key (skipSpace rest)
    let opened ← draft.settle.openTable path
    match left with
    | ']' :: left => .ok (opened, left)
    | _ => .error .malformed
  | text => do
    let (path, rest) ← key text
    match rest with
    | '=' :: body => do
      let (member, left) ← value (2 * body.length + 2) maxRoom (skipSpace body)
      let written ← draft.addPair path member
      .ok (written, left)
    | _ => .error .malformed

/-- The lines of a document. -/
def lines : Nat → Draft → List Char → Reading Draft
  | 0, draft, _ => .ok draft
  | budget + 1, draft, text =>
    match skipSpace text with
    | [] => .ok draft
    | '\n' :: rest => lines budget draft rest
    | line => do
      let (draft, rest) ← if line.head? = some '#' then pure (draft, line) else statement draft line
      let left ← skipComment (skipSpace rest)
      match left with
      | [] => .ok draft
      | '\n' :: more => lines budget draft more
      | _ => .error .malformed

/-- Line ends without their carriage returns. -/
def plainLines : List Char → List Char
  | [] => []
  | '\r' :: '\n' :: rest => '\n' :: plainLines rest
  | c :: rest => c :: plainLines rest

end Toml

/-- Reads a TOML document; its value is a table. -/
def parseToml (text : String) : Reading Value := do
  let chars := Toml.plainLines text.toList
  let draft ← Toml.lines (chars.length + 1) {} chars
  .ok (.table draft.entries)

end QueryMetrics
