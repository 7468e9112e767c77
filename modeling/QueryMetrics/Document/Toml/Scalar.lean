import QueryMetrics.Calendar
import QueryMetrics.Document.Toml.Text
import QueryMetrics.Document.Value

/-!
# Numbers, dates and times of TOML

Each recogniser takes the longest form at the front of the text and leaves the rest; what may
follow a value is checked by those who read lists, tables and lines. Single underscores may
separate digits. A date must exist in the calendar.
-/

namespace QueryMetrics.Toml

/-! ### Digits -/

/-- Digits of some base, single underscores between them allowed, at least one digit. The digits
are given without underscores. -/
def digitRun (isDigit : Char → Bool) : List Char → List Char × List Char
  | [] => ([], [])
  | '_' :: c :: rest =>
    if isDigit c then
      let (digits, left) := digitRun isDigit rest
      (c :: digits, left)
    else ([], '_' :: c :: rest)
  | c :: rest =>
    if isDigit c then
      let (digits, left) := digitRun isDigit rest
      (c :: digits, left)
    else ([], c :: rest)

/-- A run of digits that starts with a digit. -/
def digits? (isDigit : Char → Bool) : List Char → Option (List Char × List Char)
  | c :: rest =>
    if isDigit c then
      let (digits, left) := digitRun isDigit rest
      some (c :: digits, left)
    else none
  | [] => none

/-! ### Numbers -/

/-- Digits of a given base behind its mark. -/
def radixDigits? (base : Nat) (text : List Char) : Option (Int × List Char) :=
  let isDigit : Char → Bool := fun c => (hexValue? c).any (· < base)
  (digits? isDigit text).map fun (digits, left) =>
    (((digits.filterMap hexValue?).foldl (fun n d => base * n + d) 0 : Nat), left)

/-- A whole number written in base sixteen, eight or two. -/
def radixInteger? : List Char → Option (Int × List Char)
  | '0' :: 'x' :: rest => radixDigits? 16 rest
  | '0' :: 'b' :: rest => radixDigits? 2 rest
  | '0' :: 'o' :: rest => radixDigits? 8 rest
  | _ => none

/-- The whole part of a decimal number: a zero alone, or digits that start otherwise. -/
def wholePart? : List Char → Option (List Char × List Char)
  | '0' :: rest => some (['0'], rest)
  | text => digits? Char.isDigit text

/-- A point with digits behind it; nothing is taken without them. -/
def fractionPart (text : List Char) : List Char × List Char :=
  match text with
  | '.' :: rest => (digits? Char.isDigit rest).getD ([], text)
  | _ => ([], text)

/-- Splits an optional sign off. -/
def spanSign : List Char → Bool × List Char
  | '-' :: rest => (true, rest)
  | '+' :: rest => (false, rest)
  | text => (false, text)

/-- An exponent with its sign. -/
def exponentPart? : List Char → Option (Int × List Char)
  | c :: rest =>
    if c = 'e' ∨ c = 'E' then
      let (negative, body) := spanSign rest
      (digits? Char.isDigit body).map fun (digits, left) =>
        let n : Int := natOfDigits digits
        (if negative then -n else n, left)
    else none
  | [] => none

/-- A decimal number; it is whole when it has neither fraction nor exponent. -/
def decimal? (text : List Char) : Option (Reading (Value × List Char)) :=
  let (negative, body) := spanSign text
  (wholePart? body).map fun (whole, afterWhole) =>
    let (fraction, afterFraction) := fractionPart afterWhole
    match exponentPart? afterFraction with
    | some (exponent, left) =>
      .ok (.number (.ofDecimal negative (natOfDigits (whole ++ fraction))
        (exponent - fraction.length)), left)
    | none =>
      if fraction.isEmpty then
        (decimalInteger negative whole).map fun n => (.integer n, afterFraction)
      else
        .ok (.number (.ofDecimal negative (natOfDigits (whole ++ fraction))
          (-(fraction.length : Int))), afterFraction)

/-- The numbers that have names. -/
def namedNumber? (text : List Char) : Option (Value × List Char) :=
  let (negative, body) := spanSign text
  match body with
  | 'i' :: 'n' :: 'f' :: left => some (.number (.infinite negative), left)
  | 'n' :: 'a' :: 'n' :: left => some (.number .nan, left)
  | _ => none

/-! ### Dates and times -/

/-- Exactly `count` digits, as a number. -/
def fixedDigits? (count : Nat) (text : List Char) : Option (Nat × List Char) :=
  let digits := text.take count
  if digits.length = count ∧ digits.all Char.isDigit then
    some (natOfDigits digits, text.drop count)
  else none

/-- A given character at the front. -/
def mark? (c : Char) : List Char → Option (List Char)
  | d :: rest => if d = c then some rest else none
  | [] => none

/-- Exactly two digits whose number lies between two bounds. -/
def twoDigits? (low high : Nat) (text : List Char) : Option (Nat × List Char) :=
  (fixedDigits? 2 text).bind fun (n, rest) => if low ≤ n ∧ n ≤ high then some (n, rest) else none

/-- Hours, minutes and seconds, with an optional fraction of a second. -/
def time? (text : List Char) : Option (List Char) := do
  let (_, rest) ← twoDigits? 0 23 text
  let rest ← mark? ':' rest
  let (_, rest) ← twoDigits? 0 59 rest
  let rest ← mark? ':' rest
  let (_, rest) ← twoDigits? 0 59 rest
  match rest with
  | '.' :: d :: more => if d.isDigit then some (more.dropWhile Char.isDigit) else some rest
  | _ => some rest

/-- An optional offset from universal time. -/
def skipOffset (text : List Char) : List Char :=
  match text with
  | c :: rest =>
    if c = 'Z' ∨ c = 'z' then rest
    else if c = '+' ∨ c = '-' then
      let offset := do
        let (_, rest) ← twoDigits? 0 23 rest
        let rest ← mark? ':' rest
        let (_, rest) ← twoDigits? 0 59 rest
        some rest
      offset.getD text
    else text
  | [] => []

/-- A date, optionally with a time: whether the date exists, and the rest. -/
def date? (text : List Char) : Option (Bool × List Char) := do
  let (year, rest) ← fixedDigits? 4 text
  let rest ← mark? '-' rest
  let (month, rest) ← twoDigits? 1 12 rest
  let rest ← mark? '-' rest
  let (day, rest) ← twoDigits? 1 31 rest
  let left := match rest with
    | c :: more =>
      if c = 'T' ∨ c = 't' ∨ c = ' ' then ((time? more).map skipOffset).getD rest else rest
    | [] => []
  some (isDate year month day, left)

/-! ### Scalars -/

/-- A value that is neither string, boolean, array nor table. -/
def scalar (text : List Char) : Reading (Value × List Char) :=
  match date? text with
  | some (exists_, left) => if exists_ then .ok (.moment, left) else .error .malformed
  | none =>
    match time? text with
    | some left => .ok (.moment, left)
    | none =>
      match radixInteger? text with
      | some (n, left) => .ok (.integer n, left)
      | none =>
        match decimal? text with
        | some answer => answer
        | none =>
          match namedNumber? text with
          | some answer => .ok answer
          | none => .error .malformed

end QueryMetrics.Toml
