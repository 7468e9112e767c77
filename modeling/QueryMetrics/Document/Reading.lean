import QueryMetrics.Number.Numeral

/-!
# Reading documents

What the readers of the document formats share: the ways in which a text can fail to be a document,
and the digits of numbers. Formats admit ASCII digits only.
-/

namespace QueryMetrics

/-- A pair of brackets that values stand in. -/
inductive Bracket where
  | array
  | table
  deriving DecidableEq, Repr

/-- Why a text is not a document of its format. -/
inductive DocumentError where
  /-- The text does not follow the grammar. -/
  | malformed
  /-- A whole number has more digits than are read. -/
  | tooManyDigits (count : Nat)
  /-- Brackets are nested deeper than is read; the innermost of them is given. -/
  | tooDeep (innermost : Bracket)
  deriving DecidableEq, Repr

/-- What a reader answers; results within a document come with the text after them. -/
abbrev Reading := Except DocumentError

/-- The room that is left for brackets inside a pair of brackets which takes some of it. -/
def roomInside (bracket : Bracket) (taken room : Nat) : Reading Nat :=
  if room < taken then .error (.tooDeep bracket) else .ok (room - taken)

/-- The value of a hexadecimal digit. -/
def hexValue? (c : Char) : Option Nat :=
  if c.isDigit then some (c.toNat - 0x30)
  else if 'a' ≤ c ∧ c ≤ 'f' then some (c.toNat - 0x57)
  else if 'A' ≤ c ∧ c ≤ 'F' then some (c.toNat - 0x37)
  else none

/-- The natural number that ASCII digits denote. -/
def natOfDigits (digits : List Char) : Nat :=
  Text.numberOfDigits (digits.filterMap Text.digitValue?)

/-- The whole number of a sign and ASCII digits. -/
def decimalInteger (negative : Bool) (digits : List Char) : Reading Int :=
  if maxIntegerDigits < digits.length then .error (.tooManyDigits digits.length)
  else
    let n : Int := natOfDigits digits
    .ok (if negative then -n else n)

end QueryMetrics
