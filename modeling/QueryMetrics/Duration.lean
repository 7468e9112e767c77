import QueryMetrics.Number.Numeral
import QueryMetrics.Text.Case
import QueryMetrics.Text.Quoted

/-!
# Durations

Timeouts and intervals are written as a number of seconds (`2.5`) or as parts with units
(`1m30s`, `500ms`). Blanks around the text and the case of its letters do not matter.

* **A bare number** is read as seconds, whatever number it is: `inf`, `nan` and negative numbers
  are durations too.
* **Parts** follow one another without anything between them. Each is a number without sign and
  exponent and one of seven units; the values are added from left to right.
* `ms` is a unit of its own: `m` is read as minutes only when no `s` follows.
-/

namespace QueryMetrics

open Text

/-- Why a text is not a duration. -/
inductive DurationError where
  | empty
  | invalid (text : String)
  deriving DecidableEq, Repr

/-- The error as a sentence. -/
def DurationError.message : DurationError → String
  | empty => "empty duration"
  | invalid text => "invalid duration: " ++ quoted text

namespace Duration

/-! ### Parts -/

/-- A unit of time. -/
inductive Unit where
  | nanosecond
  | microsecond
  | millisecond
  | second
  | minute
  | hour
  deriving DecidableEq, Repr

/-- The seconds in a unit. -/
def Unit.seconds : Unit → Binary64
  | nanosecond => .ofDecimal false 1 (-9)
  | microsecond => .ofDecimal false 1 (-6)
  | millisecond => .ofDecimal false 1 (-3)
  | second => 1
  | minute => 60
  | hour => 3600

/-- A unit at the front of the text. -/
def unit? : List Char → Option (Unit × List Char)
  | 'n' :: 's' :: rest => some (.nanosecond, rest)
  | 'u' :: 's' :: rest => some (.microsecond, rest)
  | 'µ' :: 's' :: rest => some (.microsecond, rest)
  | 'm' :: 's' :: rest => some (.millisecond, rest)
  | 's' :: rest => some (.second, rest)
  | 'm' :: rest => some (.minute, rest)
  | 'h' :: rest => some (.hour, rest)
  | _ => none

/-- Digits with an optional point among or around them, at least one digit, at the front of the
text. -/
def amount? (text : List Char) : Option (Binary64 × List Char) :=
  let (whole, afterWhole) := spanDigits text
  let (fraction, rest) := spanFraction afterWhole
  if whole.isEmpty && fraction.isEmpty then none
  else some (.ofDecimal false (numberOfDigits (whole ++ fraction)) (-(fraction.length : Int)), rest)

/-- A number with its unit at the front of the text, in seconds. -/
def part? (text : List Char) : Option (Binary64 × List Char) :=
  (amount? text).bind fun (amount, afterAmount) =>
    (unit? afterAmount).map fun (unit, rest) => (amount * unit.seconds, rest)

/-- Adds up the parts that make up the whole text, onto the seconds so far. -/
def sumParts? : Nat → Binary64 → List Char → Option Binary64
  | _, seconds, [] => some seconds
  | 0, _, _ => none
  | budget + 1, seconds, text =>
    (part? text).bind fun (part, rest) => sumParts? budget (seconds + part) rest

end Duration

/-- The seconds that a text denotes. -/
def parseDuration (text : String) : Except DurationError Binary64 :=
  let plain := lowerChars (trim text.toList)
  if plain.isEmpty then .error .empty
  else match Binary64.ofNumeral? plain with
    | some seconds => .ok seconds
    | none =>
      match Duration.sumParts? plain.length .zero plain with
      | some seconds => .ok seconds
      | none => .error (.invalid text)

end QueryMetrics
