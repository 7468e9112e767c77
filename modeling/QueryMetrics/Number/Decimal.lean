import QueryMetrics.Number.Numeral
import QueryMetrics.Number.Shortest

/-!
# Decimal numbers

Exact decimal numbers as databases deliver them: a coefficient of decimal digits and an exponent.
Numbers of equal value may differ in both, and their texts differ then.

**Text.** The coefficient is written positionally unless the exponent is positive or the leading
digit stands more than six places behind the point; then the text is scientific.
-/

namespace QueryMetrics

/-- A decimal number. -/
inductive Decimal where
  | finite (negative : Bool) (coefficient : Nat) (exponent : Int)
  | infinite (negative : Bool)
  /-- Not a number; it may be signalling and carry digits. -/
  | nan (negative signalling : Bool) (payload : List Char)
  deriving DecidableEq, Repr

namespace Decimal

/-- The text of a coefficient with an exponent. -/
def finiteText (coefficient : Nat) (exponent : Int) : List Char :=
  let digits := decimalDigits coefficient
  let adjusted : Int := exponent + digits.length - 1
  if exponent ≤ 0 ∧ -6 ≤ adjusted then
    let places := (-exponent).toNat
    if places = 0 then digits
    else if digits.length > places then
      digits.take (digits.length - places) ++ '.' :: digits.drop (digits.length - places)
    else '0' :: '.' :: List.replicate (places - digits.length) '0' ++ digits
  else
    let mantissa := match digits with
      | [d] => [d]
      | d :: ds => d :: '.' :: ds
      | [] => []
    mantissa ++ 'E' :: (if adjusted < 0 then '-' else '+') :: decimalDigits adjusted.natAbs

/-- The text of a number. -/
def text : Decimal → String
  | finite negative coefficient exponent =>
    String.ofList ((if negative then ['-'] else []) ++ finiteText coefficient exponent)
  | infinite negative => if negative then "-Infinity" else "Infinity"
  | nan negative signalling payload =>
    (if negative then "-" else "") ++ (if signalling then "sNaN" else "NaN") ++
      String.ofList payload

/-- The digits of a payload, without zeros at the front. -/
def payload? (rest : List Char) : Option (List Char) :=
  match spanDigits rest with
  | (digits, []) => some (if digits.isEmpty then [] else
      let n := Text.numberOfDigits digits
      if n = 0 then [] else decimalDigits n)
  | _ => none

/-- Reads a number without its sign. -/
def unsigned? (negative : Bool) (text : List Char) : Option Decimal :=
  let word := text.map Char.toLower
  if word = "inf".toList ∨ word = "infinity".toList then some (.infinite negative)
  else if word.take 3 = "nan".toList then
    (payload? (text.drop 3)).map (.nan negative false)
  else if word.take 4 = "snan".toList then
    (payload? (text.drop 4)).map (.nan negative true)
  else
    let (whole, afterWhole) := spanDigits text
    let (fraction, afterFraction) := spanFraction afterWhole
    if whole.isEmpty && fraction.isEmpty then none
    else (exponentPart? afterFraction).map fun exponent =>
      .finite negative (Text.numberOfDigits (whole ++ fraction)) (exponent - fraction.length)

/-- Reads a number, blanks around it and underscores in it ignored. -/
def ofText? (text : String) : Option Decimal :=
  let plain := (Text.trim text.toList).filter (· ≠ '_')
  let (negative, body) := spanSign plain
  unsigned? negative body

/-- The whole part, toward zero; only finite numbers have one. -/
def truncate? : Decimal → Option Int
  | finite negative coefficient exponent =>
    let whole : Nat := if 0 ≤ exponent then coefficient * Nat.pow 10 exponent.toNat
      else coefficient / Nat.pow 10 (-exponent).toNat
    some (if negative then -(whole : Int) else whole)
  | _ => none

end Decimal

end QueryMetrics
