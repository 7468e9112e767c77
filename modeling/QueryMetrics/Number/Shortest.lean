import QueryMetrics.Number.Binary64

/-!
# The text of a number

A number is written with the fewest digits that read back to it; of several such numerals of the
same length, the one nearest to the number is taken, and a tie goes to the even last digit.

* **Candidates.** For a given count of digits only the two neighbours of the number on that
  decimal grid can be nearest, so `roundings` looks at those two and keeps the ones that read
  back. Seventeen digits always suffice.
* **Notation** (`Scientific.text`): positional for leading exponents from `-4` to `15`, always with
  a point; otherwise a mantissa with an exponent of a sign and at least two digits.
-/

namespace QueryMetrics

/-! ### Decimal digits of a size -/

/-- The decimal digits of a natural number. -/
def decimalDigits (n : Nat) : List Char := Nat.toDigits 10 n

/-- The number `significand * 10 ^ scale`. -/
structure Scientific where
  significand : Nat
  scale : Int
  deriving DecidableEq, Repr

/-- The exponent of the leading digit of a positive size. The size is scaled by `10 ^ 400`, which
makes it at least one, and the digits of its whole part are counted. -/
def Magnitude.leadingExponent (size : Magnitude) : Int :=
  (decimalDigits (size.units * Nat.pow 10 400 / unitsInOne)).length - 401

/-- The size in steps of `10 ^ scale`, as a quotient. -/
def Magnitude.inSteps (size : Magnitude) (scale : Int) : Nat × Nat :=
  if scale < 0 then (size.units * Nat.pow 10 (-scale).toNat, unitsInOne)
  else (size.units, unitsInOne * Nat.pow 10 scale.toNat)

/-- The numeral reads back to the size. -/
def Scientific.readsBack (numeral : Scientific) (size : Magnitude) : Bool :=
  Binary64.ofDecimal false numeral.significand numeral.scale == .finite false size

/-- The numeral of the given scale that reads back to the size and is nearest to it. -/
def Magnitude.roundings (size : Magnitude) (scale : Int) : Option Scientific :=
  let (num, den) := size.inSteps scale
  let below : Scientific := ⟨num / den, scale⟩
  let above : Scientific := ⟨num / den + 1, scale⟩
  match below.readsBack size, above.readsBack size with
  | true, true => some ⟨nearestEven num den, scale⟩
  | true, false => some below
  | false, true => some above
  | false, false => none

/-- The numeral with the fewest digits that reads back to a positive size. -/
def Magnitude.shortest (size : Magnitude) : Scientific :=
  let leading := size.leadingExponent
  ((List.range 17).findSome? fun (count : Nat) => size.roundings (leading - count)).getD
    ⟨size.units, -1074⟩

/-! ### Notation -/

/-- The digits without zeros at the end, but at least one. -/
def dropFinalZeros (digits : List Char) : List Char :=
  match (digits.reverse.dropWhile (· == '0')).reverse with
  | [] => ['0']
  | kept => kept

/-- An exponent: a sign and at least two digits. -/
def exponentText (exponent : Int) : List Char :=
  let digits := decimalDigits exponent.natAbs
  (if exponent < 0 then '-' else '+') :: (if digits.length < 2 then '0' :: digits else digits)

/-- The numeral in positional or exponent notation. -/
def Scientific.text (numeral : Scientific) : List Char :=
  let all := decimalDigits numeral.significand
  let leading : Int := numeral.scale + all.length - 1
  let digits := dropFinalZeros all
  if leading < -4 ∨ 16 ≤ leading then
    let mantissa := match digits with
      | [d] => [d]
      | d :: ds => d :: '.' :: ds
      | [] => []
    mantissa ++ 'e' :: exponentText leading
  else if leading < 0 then
    '0' :: '.' :: List.replicate (-leading - 1).toNat '0' ++ digits
  else
    let whole := digits.take (leading.toNat + 1)
    let fraction := digits.drop (leading.toNat + 1)
    whole ++ List.replicate (leading.toNat + 1 - whole.length) '0' ++
      '.' :: (if fraction.isEmpty then ['0'] else fraction)

/-- The text of a size. -/
def Magnitude.text (size : Magnitude) : List Char :=
  if size.units = 0 then ['0', '.', '0'] else size.shortest.text

/-- The text of a number: `nan`, `inf`, `-inf`, or its shortest numeral. -/
def Binary64.text : Binary64 → String
  | nan => "nan"
  | infinite negative => if negative then "-inf" else "inf"
  | finite negative size => String.ofList (if negative then '-' :: size.text else size.text)

end QueryMetrics
