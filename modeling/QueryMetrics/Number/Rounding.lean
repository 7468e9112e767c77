/-!
# Rounding to a fixed number of significant bits

A binary floating-point format is a grid on the whole numbers once every value is counted in
units of the smallest positive one. Around `n` the grid has steps of `2 ^ stepExponent n`, so that
`precision` significant bits remain; below `2 ^ precision` every whole number is on the grid.

* **Nearest, ties to even** (`nearestEven`): the quotient is compared with the two whole numbers
  beside it; a quotient halfway between them goes to the even one.
* **Rounding** (`roundToGrid`) takes a quotient `num / den` of units to the nearest grid point of
  the binade it lies in. A quotient that rounds up to the next power of two is still on the grid.

The main statements: what `roundToGrid` returns is on the grid (`onGrid_roundToGrid`), and a grid
point is left as it is (`roundToGrid_of_onGrid`).
-/

namespace QueryMetrics

/-- Significant bits of a double-precision number. -/
def precision : Nat := 53

/-- The whole number nearest to `num / den`; of two equally near ones, the even one. -/
def nearestEven (num den : Nat) : Nat :=
  let quotient := num / den
  let twice := 2 * (num % den)
  if twice < den ∨ (twice = den ∧ quotient % 2 = 0) then quotient else quotient + 1

/-- The exponent of the grid step around `n`. -/
def stepExponent (n : Nat) : Nat := n.log2 - (precision - 1)

/-- The size `n` has at most `precision` significant bits. -/
def OnGrid (n : Nat) : Prop := Nat.pow 2 (stepExponent n) ∣ n

instance (n : Nat) : Decidable (OnGrid n) := inferInstanceAs (Decidable (_ ∣ _))

/-- The grid point nearest to `num / den`. -/
def roundToGrid (num den : Nat) : Nat :=
  let k := stepExponent (num / den)
  nearestEven num (den * Nat.pow 2 k) * Nat.pow 2 k

/-! ### Nearest whole numbers -/

/-- Rounding moves up by less than one. -/
theorem nearestEven_le (num den : Nat) : nearestEven num den ≤ num / den + 1 := by
  unfold nearestEven
  dsimp only
  split <;> omega

/-- Rounding never goes below the whole part. -/
theorem le_nearestEven (num den : Nat) : num / den ≤ nearestEven num den := by
  unfold nearestEven
  dsimp only
  split <;> omega

/-- A whole number is its own nearest whole number. -/
theorem nearestEven_mul (n : Nat) {den : Nat} (h : 0 < den) : nearestEven (n * den) den = n := by
  have hr : n * den % den = 0 := Nat.mul_mod_left n den
  have hq : n * den / den = n := Nat.mul_div_cancel n h
  unfold nearestEven
  dsimp only
  rw [hr, hq, if_pos (Or.inl (by omega))]

/-! ### The grid -/

/-- Every whole number of at most `precision` bits is on the grid. -/
theorem onGrid_of_lt {n : Nat} (h : n < Nat.pow 2 precision) : OnGrid n := by
  unfold OnGrid stepExponent
  by_cases hn : n = 0
  · subst hn
    exact Nat.dvd_zero _
  · have hlog : n.log2 < precision := (Nat.log2_lt hn).2 h
    have hk : n.log2 - (precision - 1) = 0 := by
      simp only [precision] at hlog ⊢
      omega
    rw [hk, Nat.pow_eq, Nat.pow_zero]
    exact Nat.one_dvd n

/-- A whole number of at most `precision` bits, scaled by a power of two, is on the grid. -/
theorem onGrid_mul_two_pow {m : Nat} (k : Nat) (h : m ≤ Nat.pow 2 precision) :
    OnGrid (m * Nat.pow 2 k) := by
  rw [Nat.pow_eq] at h ⊢
  by_cases hm : m = 0
  · subst hm
    rw [Nat.zero_mul]
    exact onGrid_of_lt (by simp [precision])
  · have hk : 0 < 2 ^ k := Nat.two_pow_pos k
    have hne : m * 2 ^ k ≠ 0 := Nat.mul_ne_zero hm (by omega)
    unfold OnGrid stepExponent
    by_cases hlt : m < 2 ^ precision
    · have hlog : (m * 2 ^ k).log2 < precision + k := by
        rw [Nat.log2_lt hne, Nat.pow_add]
        exact Nat.mul_lt_mul_of_lt_of_le hlt (Nat.le_refl _) hk
      have hle : (m * 2 ^ k).log2 - (precision - 1) ≤ k := by
        simp only [precision] at hlog ⊢
        omega
      exact Nat.dvd_trans (Nat.pow_dvd_pow 2 hle) (Nat.dvd_mul_left _ _)
    · have heq : m = 2 ^ precision := by omega
      have hpow : m * 2 ^ k = 2 ^ (precision + k) := by rw [heq, Nat.pow_add]
      rw [hpow, Nat.log2_two_pow]
      exact Nat.pow_dvd_pow 2 (by omega)

/-- What `roundToGrid` returns has at most `precision` significant bits. -/
theorem onGrid_roundToGrid (num den : Nat) : OnGrid (roundToGrid num den) := by
  unfold roundToGrid
  dsimp only
  apply onGrid_mul_two_pow
  have hq : num / (den * 2 ^ stepExponent (num / den)) < 2 ^ precision := by
    rw [← Nat.div_div_eq_div_mul, Nat.div_lt_iff_lt_mul (Nat.two_pow_pos _), ← Nat.pow_add]
    by_cases hz : num / den = 0
    · rw [hz]
      exact Nat.two_pow_pos _
    · rw [← Nat.log2_lt hz]
      simp only [stepExponent, precision]
      omega
  exact Nat.le_trans (nearestEven_le _ _) hq

/-- Rounding leaves a grid point where it is. -/
theorem roundToGrid_of_onGrid {n : Nat} (h : OnGrid n) : roundToGrid n 1 = n := by
  unfold roundToGrid
  dsimp only
  rw [Nat.div_one, Nat.one_mul]
  obtain ⟨m, hm⟩ := h
  have hn : m * Nat.pow 2 (stepExponent n) = n := by rw [Nat.mul_comm]; exact hm.symm
  have hpos : 0 < Nat.pow 2 (stepExponent n) := Nat.two_pow_pos _
  have hround := nearestEven_mul m hpos
  rw [hn] at hround
  rw [hround, hn]

end QueryMetrics
