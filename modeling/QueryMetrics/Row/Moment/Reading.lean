import QueryMetrics.Calendar
import QueryMetrics.Row.Moment

/-!
# Reading moments

Moments are read from texts in the forms of ISO 8601.

* **Dates** are given by month and day or by week and day of the week, with dashes between the
  parts or without any; the day of the week may be left out. Any one character separates the date
  from the time, and without a time it is midnight. Where a dash behind a week could begin a day or
  separate a time, two digits behind it are an hour.
* **Times** are hours, optionally with minutes and seconds, with colons between the parts or
  without any. A fraction may stand behind any part and counts as a fraction of a second; it is cut
  after six digits.
* **Offsets** from universal time are `Z`, or a sign and a time.

What stands between a complete time and a sign or `Z` is not looked at, unless the time is
malformed.
-/

namespace QueryMetrics.Moment

/-- Exactly `count` digits at the front of a text, as a number. -/
def digits? (count : Nat) (text : List Char) : Option (Nat × List Char) :=
  let digits := text.take count
  if digits.length = count ∧ digits.all Char.isDigit then
    some (Text.numberOfDigits (digits.filterMap Text.digitValue?), text.drop count)
  else none

/-! ### Dates -/

/-- Removes a dash from the front of a text if dashes are in use. -/
def dash? (dashes : Bool) : List Char → Option (List Char)
  | '-' :: rest => if dashes then some rest else none
  | text => if dashes then none else some text

/-- How many characters of a text that begins with a year belong to the date. -/
def dateLength (text : List Char) : Nat :=
  let isDigitAt (position : Nat) : Bool := (text[position]?).any Char.isDigit
  if text.length = 7 then 7
  else if text[4]? = some '-' then
    if text[5]? = some 'W' then
      if text[8]? = some '-' ∧ !isDigitAt 10 then 10 else 8
    else 10
  else if text[4]? = some 'W' then
    let digits := ((text.drop 7).takeWhile Char.isDigit).length
    if digits < 2 then 7 + digits else if digits % 2 = 1 then 7 else 8
  else 8

/-- The date that a text consists of. -/
def date? (text : List Char) : Option (Nat × Nat × Nat) := do
  let (year, rest) ← digits? 4 text
  let (dashes, rest) : Bool × List Char := match rest with
    | '-' :: rest => (true, rest)
    | rest => (false, rest)
  match rest with
  | 'W' :: rest =>
    let (week, rest) ← digits? 2 rest
    let day ← if rest.isEmpty then some 1 else
      ((dash? dashes rest).bind (digits? 1)).map (·.1)
    dateOfWeek? year week day
  | rest =>
    let (month, rest) ← digits? 2 rest
    let rest ← dash? dashes rest
    let (day, _) ← digits? 2 rest
    some (year, month, day)

/-! ### Times -/

/-- The parts of a time of day. -/
structure TimeOfDay where
  hour : Nat := 0
  minute : Nat := 0
  second : Nat := 0
  microsecond : Nat := 0
  /-- The text went on behind the time. -/
  goesOn : Bool := false

/-- The parts as a number of microseconds. -/
def TimeOfDay.total (time : TimeOfDay) : Nat :=
  ((time.hour * 60 + time.minute) * 60 + time.second) * 1000000 + time.microsecond

/-- Digits as microseconds: the first six of them, which are padded with zeros. -/
def microseconds? (text : List Char) : Option (Nat × List Char) :=
  let digits := text.take 6
  if digits.all Char.isDigit then
    let padded := digits ++ List.replicate (6 - digits.length) '0'
    some (Text.numberOfDigits (padded.filterMap Text.digitValue?),
      (text.drop 6).dropWhile Char.isDigit)
  else none

/-- A fraction of a second that ends a time. -/
def withFraction (time : TimeOfDay) (text : List Char) : Option TimeOfDay :=
  (microseconds? text).map fun (microsecond, rest) =>
    { time with microsecond, goesOn := !rest.isEmpty }

/-- Puts the parts that have been read, the last one first, in their places. -/
def TimeOfDay.ofParts : List Nat → TimeOfDay
  | [hour] => { hour }
  | [minute, hour] => { hour, minute }
  | second :: minute :: hour :: _ => { hour, minute, second }
  | [] => {}

/-- The parts of a time: `missing` says how many may still come, `colons` whether colons stand
between them, which shows behind the first. A single character behind a part ends the time. -/
def timeFrom? : Nat → Option Bool → List Nat → List Char → Option TimeOfDay
  | 0, _, parts, text => withFraction (.ofParts parts) text
  | missing + 1, colons, parts, text => do
    let (part, rest) ← digits? 2 text
    let parts := part :: parts
    match rest with
    | [] => some (.ofParts parts)
    | [_] => some { TimeOfDay.ofParts parts with goesOn := true }
    | c :: more =>
      let colons := colons.getD (c = ':')
      if colons ∧ c = ':' then timeFrom? missing (some true) parts more
      else if c = '.' ∨ c = ',' then withFraction (.ofParts parts) more
      else if colons then none
      else timeFrom? missing (some false) parts rest

/-- A time at the front of a text. -/
def time? (text : List Char) : Option TimeOfDay := timeFrom? 3 none [] text

/-- An offset from universal time in microseconds, which ends the text. A whole number of seconds
that is zero stands for universal time itself. -/
def offset? : List Char → Option (Option Int)
  | [] => some none
  | ['Z'] => some (some 0)
  | sign :: rest => do
    let time ← if sign = '+' ∨ sign = '-' then time? rest else none
    if time.goesOn then none
    else
      let total : Int := if time.total < 1000000 then 0 else time.total
      if total < 86400000000 then some (some (if sign = '-' then -total else total)) else none

/-- A time of day with an offset: what stands in front of the first sign or `Z`, and from there
on. -/
def timeAndOffset? (text : List Char) : Option (TimeOfDay × Option Int) := do
  let isMark (c : Char) : Bool := c = '+' ∨ c = '-' ∨ c = 'Z'
  let time ← time? (text.takeWhile fun c => !isMark c)
  let marked := text.dropWhile fun c => !isMark c
  let offset ← offset? marked
  if time.goesOn ∧ marked.isEmpty then none else some (time, offset)

/-! ### Moments -/

/-- A moment of these parts, if they are in their ranges. -/
def ofParts? (date : Nat × Nat × Nat) (time : TimeOfDay) (offset : Option Int) : Option Moment :=
  let (year, month, day) := date
  if isDate year month day ∧ time.hour < 24 ∧ time.minute < 60 ∧ time.second < 60 then
    some { year, month, day, hour := time.hour, minute := time.minute, second := time.second
           microsecond := time.microsecond, offset }
  else none

/-- Reads a moment. -/
def ofText? (text : String) : Option Moment := do
  let letters := text.toList
  let length := dateLength letters
  let date ← date? (letters.take length)
  match letters.drop length with
  | [] | [_] => ofParts? date {} none
  | _ :: rest =>
    let (time, offset) ← timeAndOffset? rest
    ofParts? date time offset

end QueryMetrics.Moment
