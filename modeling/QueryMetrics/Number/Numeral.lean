import QueryMetrics.Number.Binary64
import QueryMetrics.Text.Blank
import QueryMetrics.Text.Digit

/-!
# Numerals

How numbers are read from text. Two grammars are in use, and both admit the decimal digits of
every script and single underscores between digits:

* **Decimal numerals** (`Binary64.ofNumeral?`): an optional sign, then `inf`, `infinity` or `nan`
  in any case, or digits with an optional point and an optional exponent. At least one digit
  stands beside the point. A numeral too large for the format is infinite.
* **Whole numerals** (`wholeNumeral`): an optional sign and digits, blanks around them ignored.
  The four separators `U+001C` to `U+001F` are no blanks here.

Counts have a third, strict form (`unsigned?`): ASCII digits only.

Whole numbers of more than `maxIntegerDigits` decimal digits are not read from text, however they
are written; zeros at the front count as digits.
-/

namespace QueryMetrics

open Text

/-! ### Digits and underscores -/

/-- Digits with underscores between them: every underscore stands after one digit and before
another. Gives the text without underscores. `afterDigit` says that a digit stands before. -/
def dropUnderscores (afterDigit : Bool) : List Char → Option (List Char)
  | [] => some []
  | '_' :: c :: rest =>
    if afterDigit && isDecimalDigit c then (dropUnderscores true rest).map (c :: ·) else none
  | ['_'] => none
  | c :: rest => (dropUnderscores (isDecimalDigit c) rest).map (c :: ·)

/-- Splits leading digits off: their values and the rest. -/
def spanDigits : List Char → List Nat × List Char
  | [] => ([], [])
  | c :: rest =>
    match digitValue? c with
    | some d => let (ds, left) := spanDigits rest; (d :: ds, left)
    | none => ([], c :: rest)

/-- Splits an optional sign off: whether it is a minus, and the rest. -/
def spanSign : List Char → Bool × List Char
  | '-' :: rest => (true, rest)
  | '+' :: rest => (false, rest)
  | text => (false, text)

/-! ### Decimal numerals -/

/-- An optional exponent that ends the text. -/
def exponentPart? : List Char → Option Int
  | [] => some 0
  | c :: rest =>
    if c = 'e' ∨ c = 'E' then
      let (negative, body) := spanSign rest
      match spanDigits body with
      | (d :: ds, []) =>
        let n : Int := numberOfDigits (d :: ds)
        some (if negative then -n else n)
      | _ => none
    else none

/-- An optional fraction: the values of its digits, and the rest. -/
def spanFraction : List Char → List Nat × List Char
  | '.' :: rest => spanDigits rest
  | text => ([], text)

/-- A numeral without sign and underscores. -/
def magnitude? (negative : Bool) (text : List Char) : Option Binary64 :=
  let word := text.map Char.toLower
  if word = ['n', 'a', 'n'] then some .nan
  else if word = ['i', 'n', 'f'] ∨ word = ['i', 'n', 'f', 'i', 'n', 'i', 't', 'y'] then
    some (.infinite negative)
  else
    let (whole, afterWhole) := spanDigits text
    let (fraction, afterFraction) := spanFraction afterWhole
    if whole.isEmpty && fraction.isEmpty then none
    else (exponentPart? afterFraction).map fun exponent =>
      .ofDecimal negative (numberOfDigits (whole ++ fraction)) (exponent - fraction.length)

/-- Reads a decimal numeral that takes up the whole text. -/
def Binary64.ofNumeral? (text : List Char) : Option Binary64 :=
  (dropUnderscores false text).bind fun plain =>
    let (negative, body) := spanSign plain
    magnitude? negative body

/-- Reads a decimal numeral, blanks around it ignored. -/
def Binary64.ofText? (text : String) : Option Binary64 := ofNumeral? (trim text.toList)

/-! ### Whole numerals -/

/-- A blank that may stand around a whole numeral. -/
def isNumeralBlank (c : Char) : Bool := isBlank c && !(0x1C ≤ c.toNat ∧ c.toNat ≤ 0x1F)

/-- The text without the blanks that may stand around a whole numeral. -/
def trimNumeral (text : List Char) : List Char :=
  ((text.dropWhile isNumeralBlank).reverse.dropWhile isNumeralBlank).reverse

/-- Whole numbers of 64 bits are below this bound and not below its negative. -/
def wordBound : Int := 9223372036854775808

/-- The most decimal digits a whole number may have. -/
def maxIntegerDigits : Nat := 4300

/-- Why a text is not a whole numeral. -/
inductive NumeralFault where
  /-- The text does not follow the grammar. -/
  | malformed
  /-- It begins with more digits than are read. -/
  | tooManyDigits (count : Nat)
  deriving DecidableEq, Repr

/-- Two underscores stand next to each other. -/
def hasDoubleUnderscore : List Char → Bool
  | '_' :: '_' :: _ => true
  | _ :: rest => hasDoubleUnderscore rest
  | [] => false

/-- Underscores stand only between other characters, and never two in a row. -/
def hasInnerUnderscores (text : List Char) : Bool :=
  text.head? ≠ some '_' && text.getLast? ≠ some '_' && !hasDoubleUnderscore text

/-- Reads a whole numeral, blanks around it ignored. The digits are counted before what follows
them is looked at. -/
def wholeNumeral (text : List Char) : Except NumeralFault Int :=
  let (negative, body) := spanSign (trimNumeral text)
  let run := body.takeWhile fun c => c = '_' ∨ isDecimalDigit c
  let digits := run.filterMap digitValue?
  if digits.isEmpty || !hasInnerUnderscores run then .error .malformed
  else if maxIntegerDigits < digits.length then .error (.tooManyDigits digits.length)
  else if run.length < body.length then .error .malformed
  else
    let n : Int := numberOfDigits digits
    .ok (if negative then -n else n)

/-- The largest count that fits in 64 bits. -/
def maxCount : Nat := 18446744073709551615

/-- Reads a count: ASCII digits, blanks around them ignored, at most `maxCount`. -/
def unsigned? (text : String) : Option Nat :=
  let digits := trim text.toList
  if digits.isEmpty || !digits.all Char.isDigit || maxIntegerDigits < digits.length then none
  else
    let n := numberOfDigits (digits.filterMap digitValue?)
    if n ≤ maxCount then some n else none

/-- A count that was read fits in 64 bits. -/
theorem unsigned?_le {text : String} {n : Nat} (h : unsigned? text = some n) : n ≤ maxCount := by
  unfold unsigned? at h
  dsimp only at h
  split at h
  · cases h
  · split at h
    · cases h; assumption
    · cases h

end QueryMetrics
