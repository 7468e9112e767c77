import QueryMetrics.Number.Rounding

/-!
# Double-precision numbers

The numbers that clocks, metric values and bucket bounds are made of: the binary64 format with
rounding to nearest, ties to even.

A finite number is a sign and a **size**, a whole number of units of `2 ^ -1074`. With sizes as
plain natural numbers every operation is exact integer arithmetic followed by one rounding:

* **Order** is the order of signed sizes, the infinities standing at `± 2 ^ 2098` beyond all of
  them (`position?`); a NaN has no position, so every comparison with it fails. The two zeros
  share a position.
* **Sums** add the signed sizes. An exact zero is positive unless both summands are negative.
* **Products and decimals** are quotients of units, rounded by `ofQuotient`.

The proof fields of `Magnitude` say that a size is representable, so no operation can produce a
number outside the format.
-/

namespace QueryMetrics

/-- Units in the number one. -/
def unitsInOne : Nat := Nat.pow 2 1074

/-- Units in the least power of two beyond every finite number. -/
def overflowSize : Nat := Nat.pow 2 2098

/-- The size of a finite number, in units of `2 ^ -1074`. -/
structure Magnitude where
  units : Nat
  onGrid : OnGrid units
  bounded : units < overflowSize
  deriving DecidableEq

/-- A double-precision number. Zeros carry a sign, and all NaNs are one value. -/
inductive Binary64 where
  | nan
  | infinite (negative : Bool)
  | finite (negative : Bool) (size : Magnitude)
  deriving DecidableEq

namespace Binary64

/-! ### Construction -/

theorem overflowSize_pos : 0 < overflowSize := by decide +kernel

/-- The size zero. -/
def zeroSize : Magnitude := ⟨0, onGrid_of_lt (Nat.two_pow_pos 53), overflowSize_pos⟩

/-- Positive zero. -/
def zero : Binary64 := .finite false zeroSize

/-- The number nearest to `num / den` units, with the given sign; infinite when it overflows. -/
def ofUnits (negative : Bool) (num : Nat) (den : Nat) : Binary64 :=
  if h : roundToGrid num den < overflowSize then
    .finite negative ⟨roundToGrid num den, onGrid_roundToGrid num den, h⟩
  else .infinite negative

/-- The number nearest to `num / den`, with the given sign. -/
def ofQuotient (negative : Bool) (num den : Nat) : Binary64 :=
  ofUnits negative (num * unitsInOne) den

/-- The number nearest to a whole number. -/
def ofInt (n : Int) : Binary64 := ofQuotient (n < 0) n.natAbs 1

/-- The number nearest to a natural number. -/
def ofNat (n : Nat) : Binary64 := ofQuotient false n 1

instance : Inhabited Binary64 := ⟨zero⟩

instance (n : Nat) : OfNat Binary64 n := ⟨ofNat n⟩

/-- The number nearest to `digits * 10 ^ exponent`. Powers of ten beyond the format's reach are
settled without being computed: from `10 ^ 400` on every positive multiple overflows, and below
`2 ^ -1100` everything rounds to zero. -/
def ofDecimal (negative : Bool) (digits : Nat) (exponent : Int) : Binary64 :=
  if digits = 0 then .finite negative zeroSize
  else if 0 ≤ exponent then
    if 400 < exponent then .infinite negative
    else ofQuotient negative (digits * Nat.pow 10 exponent.toNat) 1
  else if digits.log2 + 1101 ≤ 3 * (-exponent).toNat then .finite negative zeroSize
  else ofQuotient negative digits (Nat.pow 10 (-exponent).toNat)

/-! ### Order -/

/-- The signed size of a finite number. -/
def signedUnits (negative : Bool) (size : Magnitude) : Int :=
  if negative then -(size.units : Int) else size.units

/-- Where a number stands on the line of units; a NaN stands nowhere. -/
def position? : Binary64 → Option Int
  | nan => none
  | infinite negative => some (if negative then -(overflowSize : Int) else overflowSize)
  | finite negative size => some (signedUnits negative size)

/-- The number is below the other. -/
def lt (x y : Binary64) : Bool :=
  match x.position?, y.position? with
  | some a, some b => a < b
  | _, _ => false

/-- The number is below the other or at the same position. -/
def le (x y : Binary64) : Bool :=
  match x.position?, y.position? with
  | some a, some b => a ≤ b
  | _, _ => false

/-- Both numbers are at one position: the zeros agree, and a NaN agrees with nothing. -/
def agrees (x y : Binary64) : Bool :=
  match x.position?, y.position? with
  | some a, some b => a == b
  | _, _ => false

instance : LT Binary64 := ⟨fun x y => x.lt y = true⟩
instance : LE Binary64 := ⟨fun x y => x.le y = true⟩
instance (x y : Binary64) : Decidable (x < y) := inferInstanceAs (Decidable (x.lt y = true))
instance (x y : Binary64) : Decidable (x ≤ y) := inferInstanceAs (Decidable (x.le y = true))

/-- Neither infinite nor a NaN. -/
def isFinite : Binary64 → Bool
  | finite .. => true
  | _ => false

/-- The sign of the number; a NaN has none. -/
def isNegative : Binary64 → Bool
  | nan => false
  | infinite negative => negative
  | finite negative _ => negative

/-! ### Arithmetic -/

/-- The number of opposite sign. -/
def neg : Binary64 → Binary64
  | nan => nan
  | infinite negative => infinite !negative
  | finite negative size => finite (!negative) size

/-- The sum, rounded once. -/
def add : Binary64 → Binary64 → Binary64
  | nan, _ => nan
  | _, nan => nan
  | infinite a, infinite b => if a = b then infinite a else nan
  | infinite a, finite .. => infinite a
  | finite .., infinite b => infinite b
  | finite a x, finite b y =>
    let sum := signedUnits a x + signedUnits b y
    if sum = 0 then finite (a && b) zeroSize else ofUnits (sum < 0) sum.natAbs 1

/-- The difference, rounded once. -/
def sub (x y : Binary64) : Binary64 := x.add y.neg

/-- The product, rounded once. -/
def mul : Binary64 → Binary64 → Binary64
  | nan, _ => nan
  | _, nan => nan
  | infinite a, infinite b => infinite (a != b)
  | infinite a, finite b y => if y.units = 0 then nan else infinite (a != b)
  | finite a x, infinite b => if x.units = 0 then nan else infinite (a != b)
  | finite a x, finite b y => ofUnits (a != b) (x.units * y.units) unitsInOne

instance : Neg Binary64 := ⟨neg⟩
instance : Add Binary64 := ⟨add⟩
instance : Sub Binary64 := ⟨sub⟩
instance : Mul Binary64 := ⟨mul⟩

/-- The whole part, toward zero; only finite numbers have one. -/
def truncate? : Binary64 → Option Int
  | finite negative size =>
    let whole : Int := ((size.units / unitsInOne : Nat) : Int)
    some (if negative then -whole else whole)
  | _ => none

/-- A finite number without fractional part, as a whole number. -/
def toInt? : Binary64 → Option Int
  | x@(finite _ size) => if size.units % unitsInOne = 0 then x.truncate? else none
  | _ => none

/-! ### Small facts -/

/-- Nothing is below itself. -/
theorem lt_irrefl (x : Binary64) : x.lt x = false := by
  unfold lt
  cases x.position? <;> simp

/-- A NaN is below nothing, and nothing is below it. -/
theorem nan_lt (x : Binary64) : lt nan x = false ∧ lt x nan = false := by
  unfold lt
  constructor
  · rfl
  · cases x.position? <;> rfl

/-- The two zeros agree. -/
theorem agrees_neg_zero : agrees zero (neg zero) = true := by decide

end Binary64

end QueryMetrics
