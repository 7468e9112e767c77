import QueryMetrics.Document.Reading

/-!
# Keys and strings of TOML

The four kinds of strings and the keys of a TOML document. Basic strings know escapes, literal
strings take every character as it is; both have a form over several lines, in which a line end
right after the opening quotes is dropped and one or two quotes may stand before the closing ones.
Control characters are refused, the tab excepted, and line ends within the long forms.
-/

namespace QueryMetrics.Toml

/-- Blanks within a line. -/
def isSpace (c : Char) : Bool := c = ' ' ∨ c = '\t'

/-- Blanks and line ends. -/
def isSpaceOrNewline (c : Char) : Bool := c = ' ' ∨ c = '\t' ∨ c = '\n'

/-- Drops blanks within a line. -/
def skipSpace (text : List Char) : List Char := text.dropWhile isSpace

/-- The character may not stand within a line. -/
def isForbidden (c : Char) : Bool := (c.toNat < 0x20 ∨ c.toNat = 0x7F) ∧ c ≠ '\t'

/-- The character may not stand in a string; `long` strings may hold line ends. -/
def isForbiddenIn (long : Bool) (c : Char) : Bool := isForbidden c && !(long && c == '\n')

/-! ### Escapes -/

/-- The character that a single-letter escape stands for. -/
def escaped? : Char → Option Char
  | 'b' => some '\x08'
  | 't' => some '\t'
  | 'n' => some '\n'
  | 'f' => some '\x0c'
  | 'r' => some '\r'
  | '"' => some '"'
  | '\\' => some '\\'
  | _ => none

/-- A character given by exactly `count` hexadecimal digits of its code point. -/
def codePoint (count : Nat) (text : List Char) : Reading (List Char × List Char) :=
  match (text.take count).mapM hexValue? with
  | none => .error .malformed
  | some digits =>
    let code := digits.foldl (fun n d => 16 * n + d) 0
    if digits.length = count ∧ code.isValidChar then
      .ok ([Char.ofNat code], text.drop count)
    else .error .malformed

/-- What stands behind a backslash: the characters it denotes. In a long string a backslash at
the end of a line swallows the line end and all blanks after it. -/
def escapeSequence (long : Bool) : List Char → Reading (List Char × List Char)
  | [] => .error .malformed
  | c :: rest =>
    if long && isSpaceOrNewline c then
      match (c :: rest).dropWhile isSpace with
      | [] => .ok ([], [])
      | '\n' :: more => .ok ([], more.dropWhile isSpaceOrNewline)
      | _ => .error .malformed
    else if c = 'u' then codePoint 4 rest
    else if c = 'U' then codePoint 8 rest
    else match escaped? c with
      | some d => .ok ([d], rest)
      | none => .error .malformed

/-! ### Strings -/

/-- Up to two quotes that belong to the end of a long string. -/
def finalQuotes (quote : Char) : List Char → List Char × List Char
  | a :: b :: rest =>
    if a = quote then
      if b = quote then ([quote, quote], rest) else ([quote], b :: rest)
    else ([], a :: b :: rest)
  | [a] => if a = quote then ([quote], []) else ([], [a])
  | [] => ([], [])

/-- The characters of a basic string up to its closing quotes. -/
def basicBody (long : Bool) : Nat → List Char → Reading (List Char × List Char)
  | 0, _ => .error .malformed
  | budget + 1, text =>
    match text with
    | [] => .error .malformed
    | '"' :: rest =>
      if long then
        match rest with
        | '"' :: '"' :: more => .ok (finalQuotes '"' more)
        | _ => do
          let (body, left) ← basicBody long budget rest
          .ok ('"' :: body, left)
      else .ok ([], rest)
    | '\\' :: rest => do
      let (part, more) ← escapeSequence long rest
      let (body, left) ← basicBody long budget more
      .ok (part ++ body, left)
    | c :: rest =>
      if isForbiddenIn long c then .error .malformed
      else do
        let (body, left) ← basicBody long budget rest
        .ok (c :: body, left)

/-- The characters of a literal string up to its closing quotes. -/
def literalBody (long : Bool) : List Char → Reading (List Char × List Char)
  | [] => .error .malformed
  | '\'' :: rest =>
    if long then
      match rest with
      | '\'' :: '\'' :: more => .ok (finalQuotes '\'' more)
      | _ => do
        let (body, left) ← literalBody long rest
        .ok ('\'' :: body, left)
    else .ok ([], rest)
  | c :: rest =>
    if isForbiddenIn long c then .error .malformed
    else do
      let (body, left) ← literalBody long rest
      .ok (c :: body, left)

/-- Drops a line end at the front. -/
def skipNewline : List Char → List Char
  | '\n' :: rest => rest
  | text => text

/-- A string of any kind, if the text starts with a quote. -/
def string? (text : List Char) : Option (Reading (List Char × List Char)) :=
  match text with
  | '"' :: '"' :: '"' :: rest => some (basicBody true text.length (skipNewline rest))
  | '"' :: rest => some (basicBody false text.length rest)
  | '\'' :: '\'' :: '\'' :: rest => some (literalBody true (skipNewline rest))
  | '\'' :: rest => some (literalBody false rest)
  | _ => none

/-! ### Keys -/

/-- The character may stand in a key without quotes. -/
def isBareKeyChar (c : Char) : Bool := c.isAlphanum ∨ c = '-' ∨ c = '_'

/-- One part of a key. -/
def keyPart (text : List Char) : Reading (String × List Char) :=
  match text with
  | '"' :: rest => do
    let (body, left) ← basicBody false text.length rest
    .ok (String.ofList body, left)
  | '\'' :: rest => do
    let (body, left) ← literalBody false rest
    .ok (String.ofList body, left)
  | _ =>
    let (bare, left) := text.span isBareKeyChar
    if bare.isEmpty then .error .malformed else .ok (String.ofList bare, left)

/-- The parts of a key, separated by points; at least one. -/
def keyParts : Nat → List Char → Reading (List String × List Char)
  | 0, _ => .error .malformed
  | budget + 1, text => do
    let (part, rest) ← keyPart text
    match skipSpace rest with
    | '.' :: more => do
      let (others, left) ← keyParts budget (skipSpace more)
      .ok (part :: others, left)
    | left => .ok ([part], left)

/-- A key at the front of the text. -/
def key (text : List Char) : Reading (List String × List Char) := keyParts text.length text

/-! ### Comments -/

/-- Drops a comment, up to the end of its line. -/
def skipComment : List Char → Reading (List Char)
  | '#' :: rest =>
    let (comment, left) := rest.span (· ≠ '\n')
    if comment.any isForbidden then .error .malformed else .ok left
  | text => .ok text

end QueryMetrics.Toml
