import QueryMetrics.Number.Binary64

/-!
# Sums and the order of numbers

Rounding cannot carry a size past a grid point: a grid point that is at most `n` is at most what `n`
is rounded to (`le_roundToGrid`), and a grid point that is at least `n` is at least that
(`roundToGrid_le`). So a sum may lose a small summand altogether, but it never ends up on the wrong
side of the other summand.

The order itself is read off the positions. A NaN has none, and every other number has one, so
among numbers that are no NaN the order is total. The main statements are about moments and spans
of time:

* what a positive finite span is added to does not get smaller, whether or not the sum overflows
  (`le_add_of_pos`);
* the difference to a finite number that is not above is not negative (`sub_nonneg_of_le`), and the
  difference to any number that is not above is at least never below zero (`not_sub_neg_of_le`);
* sums of numbers without a minus have none, and neither have their products with positive finite
  numbers (`Unsigned.add`, `Unsigned.mul`).
-/

namespace QueryMetrics

/-! ### Rounding keeps to its side of the grid points -/

theorem stepExponent_mono {m n : Nat} (h : m ≤ n) : stepExponent m ≤ stepExponent n := by
  have hlog : m.log2 ≤ n.log2 := by
    by_cases hm : m = 0
    · rw [hm, Nat.log2_zero]
      exact Nat.zero_le _
    · rw [Nat.le_log2 (by omega)]
      exact Nat.le_trans (Nat.log2_self_le hm) h
  unfold stepExponent
  omega

/-- Rounding never goes below the grid point under a size. -/
theorem floor_le_roundToGrid (n : Nat) :
    n / Nat.pow 2 (stepExponent n) * Nat.pow 2 (stepExponent n) ≤ roundToGrid n 1 := by
  unfold roundToGrid
  dsimp only
  rw [Nat.div_one, Nat.one_mul, Nat.pow_eq]
  exact Nat.mul_le_mul_right _ (le_nearestEven _ _)

/-- A grid point that is at most `n` is at most what `n` is rounded to. -/
theorem le_roundToGrid {m n : Nat} (hm : OnGrid m) (h : m ≤ n) : m ≤ roundToGrid n 1 := by
  refine Nat.le_trans ?_ (floor_le_roundToGrid n)
  have hstep : 0 < 2 ^ stepExponent n := Nat.two_pow_pos _
  by_cases hsame : stepExponent m = stepExponent n
  · -- both lie in binades with one step, so the point is a multiple of the step below `n`
    obtain ⟨q, hq⟩ := hm
    rw [hsame, Nat.pow_eq] at hq
    have hqle : q ≤ n / 2 ^ stepExponent n := by
      rw [Nat.le_div_iff_mul_le hstep, Nat.mul_comm]
      omega
    calc m = q * 2 ^ stepExponent n := by rw [hq, Nat.mul_comm]
      _ ≤ n / 2 ^ stepExponent n * 2 ^ stepExponent n := Nat.mul_le_mul_right _ hqle
  · -- the power of two that opens the binade of `n` lies between the two
    have hlower : stepExponent m < stepExponent n := by
      have := stepExponent_mono h
      omega
    have hlog : m.log2 < n.log2 ∧ stepExponent n ≤ n.log2 := by
      unfold stepExponent at hlower ⊢
      omega
    have hn : n ≠ 0 := by
      rintro rfl
      rw [Nat.log2_zero] at hlog
      omega
    have hbelow : m < 2 ^ n.log2 := by
      have hm2 : m < 2 ^ (m.log2 + 1) := Nat.lt_log2_self
      have hpow : 2 ^ (m.log2 + 1) ≤ 2 ^ n.log2 := Nat.pow_le_pow_right (by omega) hlog.1
      omega
    obtain ⟨q, hq⟩ := Nat.pow_dvd_pow 2 hlog.2
    have hqle : q ≤ n / 2 ^ stepExponent n := by
      rw [Nat.le_div_iff_mul_le hstep, Nat.mul_comm, ← hq]
      exact Nat.log2_self_le hn
    calc m ≤ 2 ^ n.log2 := Nat.le_of_lt hbelow
      _ = q * 2 ^ stepExponent n := by rw [hq, Nat.mul_comm]
      _ ≤ n / 2 ^ stepExponent n * 2 ^ stepExponent n := Nat.mul_le_mul_right _ hqle

/-- A grid point that is at least `n` is at least what `n` is rounded to. -/
theorem roundToGrid_le {m n : Nat} (hm : OnGrid m) (h : n ≤ m) : roundToGrid n 1 ≤ m := by
  by_cases hn : OnGrid n
  · rw [roundToGrid_of_onGrid hn]
    exact h
  · -- between `n` and the point there is room for one step
    have hstep : 0 < 2 ^ stepExponent n := Nat.two_pow_pos _
    have hdvd : 2 ^ stepExponent n ∣ m :=
      Nat.dvd_trans (Nat.pow_dvd_pow 2 (stepExponent_mono h)) hm
    obtain ⟨q, hq⟩ := hdvd
    have hne : n ≠ m := fun heq => hn (heq ▸ hm)
    have hlt : n / 2 ^ stepExponent n < q := by
      rw [Nat.div_lt_iff_lt_mul hstep, Nat.mul_comm]
      omega
    have hround : roundToGrid n 1 ≤ (n / 2 ^ stepExponent n + 1) * 2 ^ stepExponent n := by
      unfold roundToGrid
      dsimp only
      rw [Nat.div_one, Nat.one_mul, Nat.pow_eq]
      exact Nat.mul_le_mul_right _ (nearestEven_le _ _)
    calc roundToGrid n 1 ≤ (n / 2 ^ stepExponent n + 1) * 2 ^ stepExponent n := hround
      _ ≤ q * 2 ^ stepExponent n := Nat.mul_le_mul_right _ hlt
      _ = m := by rw [hq, Nat.mul_comm]

namespace Binary64

/-! ### The order of positions -/

variable {x y z : Binary64}

/-- A comparison of positions holds if both numbers have one and the positions compare. -/
theorem compared_iff {a? b? : Option Int} {r : Int → Int → Prop}
    [∀ a b, Decidable (r a b)] :
    (match a?, b? with
      | some a, some b => decide (r a b)
      | _, _ => false) = true ↔ ∃ a b, a? = some a ∧ b? = some b ∧ r a b := by
  cases a? with
  | none => exact ⟨nofun, nofun⟩
  | some a =>
    cases b? with
    | none => exact ⟨nofun, nofun⟩
    | some b =>
      refine ⟨fun h => ⟨a, b, rfl, rfl, of_decide_eq_true h⟩, ?_⟩
      rintro ⟨a', b', ha, hb, h⟩
      cases ha
      cases hb
      exact decide_eq_true h

theorem lt_iff : x < y ↔ ∃ a b, x.position? = some a ∧ y.position? = some b ∧ a < b :=
  compared_iff

theorem le_iff : x ≤ y ↔ ∃ a b, x.position? = some a ∧ y.position? = some b ∧ a ≤ b :=
  compared_iff

/-- Every number but a NaN stands somewhere. -/
theorem exists_position (h : x ≠ nan) : ∃ a, x.position? = some a := by
  cases x with
  | nan => exact absurd rfl h
  | infinite negative => exact ⟨_, rfl⟩
  | finite negative size => exact ⟨_, rfl⟩

theorem ne_nan_of_isFinite (h : x.isFinite = true) : x ≠ nan := by
  rintro rfl
  cases h

protected theorem le_rfl (h : x ≠ nan) : x ≤ x := by
  obtain ⟨a, ha⟩ := exists_position h
  exact le_iff.mpr ⟨a, a, ha, ha, Int.le_refl a⟩

protected theorem le_of_lt (h : x < y) : x ≤ y := by
  obtain ⟨a, b, ha, hb, hab⟩ := lt_iff.mp h
  exact le_iff.mpr ⟨a, b, ha, hb, Int.le_of_lt hab⟩

protected theorem le_trans (hxy : x ≤ y) (hyz : y ≤ z) : x ≤ z := by
  obtain ⟨a, b, ha, hb, hab⟩ := le_iff.mp hxy
  obtain ⟨b', c, hb', hc, hbc⟩ := le_iff.mp hyz
  obtain rfl : b = b' := by
    rw [hb] at hb'
    exact Option.some.inj hb'
  exact le_iff.mpr ⟨a, c, ha, hc, Int.le_trans hab hbc⟩

instance : Trans (LE.le : Binary64 → Binary64 → Prop) (LE.le : Binary64 → Binary64 → Prop)
    (LE.le : Binary64 → Binary64 → Prop) := ⟨Binary64.le_trans⟩

theorem ne_nan_of_le (h : x ≤ y) : x ≠ nan ∧ y ≠ nan := by
  obtain ⟨a, b, ha, hb, -⟩ := le_iff.mp h
  constructor
  · rintro rfl
    cases ha
  · rintro rfl
    cases hb

protected theorem le_of_not_lt (hx : x ≠ nan) (hy : y ≠ nan) (h : ¬ y < x) : x ≤ y := by
  obtain ⟨a, ha⟩ := exists_position hx
  obtain ⟨b, hb⟩ := exists_position hy
  refine le_iff.mpr ⟨a, b, ha, hb, Int.not_lt.mp ?_⟩
  intro hlt
  exact h (lt_iff.mpr ⟨b, a, hb, ha, hlt⟩)

theorem not_lt_of_le (h : x ≤ y) : ¬ y < x := by
  intro hlt
  obtain ⟨a, b, ha, hb, hab⟩ := le_iff.mp h
  obtain ⟨b', a', hb', ha', hba⟩ := lt_iff.mp hlt
  rw [ha] at ha'
  rw [hb] at hb'
  cases ha'
  cases hb'
  omega

/-- The larger of two numbers; the first one if they are not comparable. -/
def larger (x y : Binary64) : Binary64 := if x < y then y else x

theorem le_larger_left (h : x ≠ nan) : x ≤ larger x y := by
  unfold larger
  split
  · exact Binary64.le_of_lt ‹_›
  · exact Binary64.le_rfl h

/-- The sum of finite numbers, given the sum of their signed sizes. -/
def ofSum (zeroNegative : Bool) (sum : Int) : Binary64 :=
  if sum = 0 then finite zeroNegative zeroSize else ofUnits (sum < 0) sum.natAbs 1

theorem finite_add_finite (a b : Bool) (x y : Magnitude) :
    finite a x + finite b y = ofSum (a && b) (signedUnits a x + signedUnits b y) := rfl

/-- A size that is rounded stands where it was rounded to, and no further than the infinities. -/
theorem position?_ofUnits (negative : Bool) (n : Nat) :
    (ofUnits negative n 1).position? =
      some (if negative then -(min (roundToGrid n 1) overflowSize : Int)
        else (min (roundToGrid n 1) overflowSize : Int)) := by
  unfold ofUnits
  split
  next h =>
    have hmin : min (roundToGrid n 1 : Int) overflowSize = roundToGrid n 1 := by omega
    rw [hmin]
    cases negative <;> rfl
  next h =>
    have hmin : min (roundToGrid n 1 : Int) overflowSize = overflowSize := by omega
    rw [hmin]
    cases negative <;> rfl

/-- A finite number that is at most a sum of signed sizes is at most the sum rounded. -/
theorem finite_le_ofSum {a : Bool} {x : Magnitude} {sum : Int} (h : signedUnits a x ≤ sum)
    (zeroNegative : Bool) : finite a x ≤ ofSum zeroNegative sum := by
  have hgrid := x.onGrid
  have hbounded := x.bounded
  by_cases hzero : sum = 0
  · refine le_iff.mpr ⟨signedUnits a x, 0, rfl, ?_, by omega⟩
    rw [ofSum, if_pos hzero]
    cases zeroNegative <;> rfl
  · rw [ofSum, if_neg hzero]
    refine le_iff.mpr ⟨_, _, rfl, position?_ofUnits _ _, ?_⟩
    by_cases hneg : sum < 0
    · -- the number is negative as well, so its size is the larger one
      have hround : a = true → roundToGrid sum.natAbs 1 ≤ x.units := by
        rintro rfl
        refine roundToGrid_le hgrid ?_
        simp only [signedUnits, if_true] at h
        omega
      cases a with
      | false =>
        simp only [signedUnits, Bool.false_eq_true, if_false] at h
        omega
      | true =>
        have := hround rfl
        simp only [signedUnits, if_true, decide_eq_true hneg]
        omega
    · have hround : a = false → x.units ≤ roundToGrid sum.natAbs 1 := by
        rintro rfl
        refine le_roundToGrid hgrid ?_
        simp only [signedUnits, Bool.false_eq_true, if_false] at h
        omega
      cases a with
      | false =>
        have := hround rfl
        simp only [signedUnits, Bool.false_eq_true, if_false, decide_eq_false hneg]
        omega
      | true =>
        simp only [signedUnits, if_true, decide_eq_false hneg, Bool.false_eq_true, if_false]
        omega

theorem position?_zero : (0 : Binary64).position? = some 0 := by decide +kernel

theorem pos_iff : 0 < x ↔ ∃ a, x.position? = some a ∧ 0 < a := by
  rw [lt_iff]
  constructor
  · rintro ⟨a, b, ha, hb, hab⟩
    rw [position?_zero] at ha
    cases ha
    exact ⟨b, hb, hab⟩
  · rintro ⟨a, ha, hpos⟩
    exact ⟨0, a, position?_zero, ha, hpos⟩

/-- Adding a positive finite number makes nothing smaller. -/
theorem le_add_of_pos (hx : x ≠ nan) (hy : 0 < y) (hfinite : y.isFinite = true) : x ≤ x + y := by
  cases y with
  | nan => cases hfinite
  | infinite b => cases hfinite
  | finite b size =>
    cases x with
    | nan => exact absurd rfl hx
    | infinite a => exact Binary64.le_rfl hx
    | finite a size' =>
      obtain ⟨b', hb', hpos⟩ := pos_iff.mp hy
      have hunits : signedUnits b size = b' := Option.some.inj hb'
      rw [finite_add_finite]
      exact finite_le_ofSum (by omega) _

theorem add_ne_nan (hx : x ≠ nan) (hfinite : y.isFinite = true) : x + y ≠ nan := by
  cases y with
  | nan => cases hfinite
  | infinite b => cases hfinite
  | finite b size =>
    cases x with
    | nan => exact absurd rfl hx
    | infinite a => exact hx
    | finite a size' =>
      rw [finite_add_finite]
      unfold ofSum ofUnits
      split
      · simp
      · split <;> simp

theorem zero_le_infinite : 0 ≤ infinite false :=
  le_iff.mpr ⟨0, overflowSize, position?_zero, rfl, Int.natCast_nonneg _⟩

/-- A number that is no NaN and has no minus. -/
structure Unsigned (x : Binary64) : Prop where
  ne_nan : x ≠ nan
  sign : x.isNegative = false

theorem finite_mul_finite (a b : Bool) (x y : Magnitude) :
    finite a x * finite b y = ofUnits (a != b) (x.units * y.units) unitsInOne := by
  change mul (finite a x) (finite b y) = _
  rw [mul]

theorem unsigned_ofUnits (num den : Nat) : Unsigned (ofUnits false num den) := by
  unfold ofUnits
  split
  · exact ⟨nofun, rfl⟩
  · exact ⟨nofun, rfl⟩

theorem unsigned_ofDecimal (digits : Nat) (exponent : Int) :
    Unsigned (ofDecimal false digits exponent) := by
  have hzero : Unsigned (finite false zeroSize) := ⟨nofun, rfl⟩
  unfold ofDecimal
  split
  · exact hzero
  · split
    · split
      · exact ⟨nofun, rfl⟩
      · exact unsigned_ofUnits _ _
    · split
      · exact hzero
      · exact unsigned_ofUnits _ _

namespace Unsigned

theorem zero_le (h : Unsigned x) : 0 ≤ x := by
  obtain ⟨hnan, hsign⟩ := h
  cases x with
  | nan => exact absurd rfl hnan
  | infinite negative =>
    obtain rfl : negative = false := hsign
    exact zero_le_infinite
  | finite negative size =>
    obtain rfl : negative = false := hsign
    refine le_iff.mpr ⟨0, size.units, position?_zero, rfl, ?_⟩
    omega

theorem add (hx : Unsigned x) (hy : Unsigned y) : Unsigned (x + y) := by
  obtain ⟨hnan, hsign⟩ := hx
  obtain ⟨hnan', hsign'⟩ := hy
  cases x with
  | nan => exact absurd rfl hnan
  | infinite a =>
    obtain rfl : a = false := hsign
    cases y with
    | nan => exact absurd rfl hnan'
    | infinite b =>
      obtain rfl : b = false := hsign'
      exact ⟨nofun, rfl⟩
    | finite b size => exact ⟨nofun, rfl⟩
  | finite a size =>
    obtain rfl : a = false := hsign
    cases y with
    | nan => exact absurd rfl hnan'
    | infinite b =>
      obtain rfl : b = false := hsign'
      exact ⟨nofun, rfl⟩
    | finite b size' =>
      obtain rfl : b = false := hsign'
      have hsum : ¬ signedUnits false size + signedUnits false size' < 0 := by
        simp only [signedUnits, Bool.false_eq_true, if_false]
        omega
      rw [finite_add_finite, ofSum, decide_eq_false hsum]
      split
      · exact ⟨nofun, rfl⟩
      · exact unsigned_ofUnits _ _

/-- A product with a finite number above zero. -/
theorem mul (hx : Unsigned x) (hy : Unsigned y) (hpos : 0 < y) (hfinite : y.isFinite = true) :
    Unsigned (x * y) := by
  obtain ⟨hnan, hsign⟩ := hx
  cases y with
  | nan => cases hfinite
  | infinite b => cases hfinite
  | finite b size =>
    obtain rfl : b = false := hy.sign
    cases x with
    | nan => exact absurd rfl hnan
    | infinite a =>
      obtain rfl : a = false := hsign
      obtain ⟨a, ha, hunits⟩ := pos_iff.mp hpos
      have hsize : size.units ≠ 0 := by
        have : (size.units : Int) = a := Option.some.inj ha
        omega
      change Unsigned (if size.units = 0 then nan else infinite false)
      rw [if_neg hsize]
      exact ⟨nofun, rfl⟩
    | finite a size' =>
      obtain rfl : a = false := hsign
      rw [finite_mul_finite, bne_self_eq_false]
      exact unsigned_ofUnits _ _

end Unsigned

end Binary64

end QueryMetrics
