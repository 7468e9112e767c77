import QueryMetrics.Number.Numeral
import QueryMetrics.Number.Shortest

/-!
# Dates and spans of time

Two kinds of column values: a date with a time of day, and a span of time. Both are exact to the
microsecond, and so is the offset of a moment from universal time.

* **A moment** is written `YYYY-MM-DD HH:MM:SS`, followed by the microseconds unless they are zero
  and by the offset from universal time if there is one.
* **A span** is written as days and a time of day that is never negative, so minus one second is
  `-1 day, 23:59:59`. Days are left out when there are none.
-/

namespace QueryMetrics

/-- A number padded with zeros at the front. -/
def paddedDigits (width n : Nat) : List Char :=
  let digits := decimalDigits n
  List.replicate (width - digits.length) '0' ++ digits

/-- A fraction of a second, unless it is zero. -/
def microsecondText (microsecond : Nat) : List Char :=
  if microsecond = 0 then [] else '.' :: paddedDigits 6 microsecond

/-! ### Moments -/

/-- A date with a time of day. -/
structure Moment where
  year : Nat
  month : Nat
  day : Nat
  hour : Nat := 0
  minute : Nat := 0
  second : Nat := 0
  microsecond : Nat := 0
  /-- The offset from universal time, in microseconds. -/
  offset : Option Int := none
  deriving DecidableEq, Repr

namespace Moment

/-- An offset from universal time. Seconds and microseconds are left out when there are none. -/
def offsetText (offset : Int) : List Char :=
  let seconds := offset.natAbs / 1000000
  let microsecond := offset.natAbs % 1000000
  (if offset < 0 then '-' else '+') :: paddedDigits 2 (seconds / 3600) ++
    ':' :: paddedDigits 2 (seconds / 60 % 60) ++
    (if seconds % 60 = 0 ∧ microsecond = 0 then [] else ':' :: paddedDigits 2 (seconds % 60)) ++
    microsecondText microsecond

/-- The text of a moment. -/
def text (m : Moment) : String :=
  String.ofList (paddedDigits 4 m.year ++ '-' :: paddedDigits 2 m.month ++
    '-' :: paddedDigits 2 m.day ++ ' ' :: paddedDigits 2 m.hour ++
    ':' :: paddedDigits 2 m.minute ++ ':' :: paddedDigits 2 m.second ++
    microsecondText m.microsecond ++ (m.offset.map offsetText).getD [])

end Moment

/-! ### Spans -/

/-- A span of time in microseconds. -/
structure TimeSpan where
  microseconds : Int
  deriving DecidableEq, Repr

namespace TimeSpan

/-- The span of a number of seconds, to the nearest microsecond, a tie to the even one. The
fractional part is scaled in double precision. -/
def ofSeconds (x : Binary64) : TimeSpan :=
  match x.truncate? with
  | none => ⟨0⟩
  | some whole =>
    match (x - .ofInt whole) * 1000000 with
    | .finite negative size =>
      let part : Int := (nearestEven size.units unitsInOne : Nat)
      ⟨whole * 1000000 + if negative then -part else part⟩
    | _ => ⟨whole * 1000000⟩

/-- The text of a span. -/
def text (span : TimeSpan) : String :=
  let days := span.microseconds.fdiv 86400000000
  let rest := (span.microseconds.fmod 86400000000).toNat
  let seconds := rest / 1000000
  let dayText := if days = 0 then ""
    else toString days ++ (if days.natAbs = 1 then " day, " else " days, ")
  dayText ++ String.ofList (decimalDigits (seconds / 3600) ++
    ':' :: paddedDigits 2 (seconds / 60 % 60) ++ ':' :: paddedDigits 2 (seconds % 60) ++
    microsecondText (rest % 1000000))

end TimeSpan

end QueryMetrics
