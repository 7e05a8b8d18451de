import TaskQuery.Proofs.Number.Interval

/-!
# The shortest decimal reads back

The shortest decimal of a number is searched on grids of one digit, of two, and so on.  What
is taken from a grid lies in the interval of the number
(`Interval.holds_of_onGrid?`), so whatever the search finds reads back.  It always finds
something (`Interval.exists_onGrid?`): on the grid of seventeen digits a step is at most
`10 ^ (-16)` of the number, and the interval is wider than that, since a significand has 53
binary digits and `2 ^ 53 < 10 ^ 16`.
-/

namespace TaskQuery.Number

open Binary64

/-- The rational number that a decimal stands for. -/
def Decimal.value (decimal : Decimal) : ℚ :=
  decimal.digits * 10 ^ decimal.exponent

/-! ## One grid -/

section Grid

variable {interval : Interval} {step count : ℕ}

theorem Interval.contains_iff {point : ℕ} :
    interval.contains point = true ↔ interval.Holds point := by
  unfold Interval.contains Interval.Holds
  split_ifs <;> simp

theorem Interval.holds_of_strict {x : ℚ} (hlow : interval.low < x) (hhigh : x < interval.high) :
    interval.Holds x := by
  unfold Interval.Holds
  split_ifs
  · exact ⟨hlow.le, hhigh.le⟩
  · exact ⟨hlow, hhigh⟩

theorem Interval.holds_of_nearestMultiple?
    (hcount : interval.nearestMultiple? step = some count) :
    interval.Holds ((count * step : ℕ) : ℚ) := by
  unfold Interval.nearestMultiple? at hcount
  dsimp only at hcount
  cases hbelow : interval.contains (interval.value / step * step) with
  | false =>
      cases habove : interval.contains ((interval.value / step + 1) * step) with
      | false => simp [hbelow, habove] at hcount
      | true =>
          simp only [hbelow, habove, Option.some.injEq] at hcount
          exact hcount ▸ contains_iff.mp habove
  | true =>
      cases habove : interval.contains ((interval.value / step + 1) * step) with
      | false =>
          simp only [hbelow, habove, Option.some.injEq] at hcount
          exact hcount ▸ contains_iff.mp hbelow
      | true =>
          simp only [hbelow, habove, Option.some.injEq] at hcount
          rcases roundQuotient_eq_or interval.value step with hround | hround
          · rw [← hcount, hround]
            exact contains_iff.mp hbelow
          · rw [← hcount, hround]
            exact contains_iff.mp habove

/-- A step that is smaller than the interval cannot leap over it. -/
theorem Interval.exists_nearestMultiple? (hlow : interval.low < interval.value)
    (hhigh : interval.value < interval.high) (hstep : 0 < step)
    (hwide : interval.low + step < interval.high) :
    ∃ count, interval.nearestMultiple? step = some count := by
  have hbelow : interval.value / step * step ≤ interval.value := Nat.div_mul_le_self _ _
  have habove : interval.value < interval.value / step * step + step :=
    Nat.lt_div_mul_add hstep
  have hcontains : interval.contains (interval.value / step * step) = true ∨
      interval.contains ((interval.value / step + 1) * step) = true := by
    by_cases hinside : interval.low < interval.value / step * step
    · refine Or.inl (contains_iff.mpr (holds_of_strict ?_ ?_))
      · exact_mod_cast hinside
      · exact_mod_cast hbelow.trans_lt hhigh
    · refine Or.inr (contains_iff.mpr (holds_of_strict ?_ ?_))
      · rw [Nat.add_mul, Nat.one_mul]
        exact_mod_cast hlow.trans habove
      · rw [Nat.add_mul, Nat.one_mul]
        exact_mod_cast (show interval.value / step * step + step < interval.high by omega)
  unfold Interval.nearestMultiple?
  rcases hcontains with hpoint | hpoint
  · simp only [hpoint]
    cases interval.contains ((interval.value / step + 1) * step) <;> exact ⟨_, rfl⟩
  · simp only [hpoint]
    cases interval.contains (interval.value / step * step) <;> exact ⟨_, rfl⟩

theorem Interval.holds_scale_iff {factor : ℕ} (hfactor : 0 < factor) {x : ℚ} :
    (interval.scale factor).Holds x ↔ interval.Holds (x / factor) := by
  have hpositive : (0 : ℚ) < factor := by exact_mod_cast hfactor
  unfold Interval.Holds Interval.scale
  dsimp only
  rw [Nat.cast_mul, Nat.cast_mul, le_div_iff₀ hpositive, div_le_iff₀ hpositive,
    lt_div_iff₀ hpositive, div_lt_iff₀ hpositive]

theorem Interval.holds_of_onGrid? {place : ℤ} (hcount : interval.onGrid? place = some count) :
    interval.Holds (Decimal.value ⟨count, place⟩ * quartersInOne) := by
  unfold Interval.onGrid? at hcount
  unfold Decimal.value
  dsimp only
  split_ifs at hcount with hplace
  · obtain ⟨power, rfl⟩ := Int.eq_ofNat_of_zero_le hplace
    have hholds := holds_of_nearestMultiple? hcount
    rw [Int.toNat_natCast, Nat.pow_eq, Nat.cast_mul, Nat.cast_mul, Nat.cast_pow,
      mul_comm (quartersInOne : ℚ), ← mul_assoc] at hholds
    rwa [zpow_natCast]
  · obtain ⟨places, rfl⟩ := Int.exists_eq_neg_ofNat (le_of_not_ge hplace)
    rw [Int.neg_neg, Int.toNat_natCast] at hcount
    have hholds := (holds_scale_iff (Nat.pow_pos (by omega))).mp (holds_of_nearestMultiple? hcount)
    rw [Nat.cast_mul, Nat.cast_pow, mul_div_right_comm] at hholds
    rwa [zpow_neg, zpow_natCast, ← div_eq_mul_inv]

/-- A grid whose steps are smaller than the interval has a point in it. -/
theorem Interval.exists_onGrid? {place : ℤ} (hlow : interval.low < interval.value)
    (hhigh : interval.value < interval.high)
    (hwide : (interval.low : ℚ) + 10 ^ place * quartersInOne < interval.high) :
    ∃ count, interval.onGrid? place = some count := by
  unfold Interval.onGrid?
  split_ifs with hplace
  · obtain ⟨power, rfl⟩ := Int.eq_ofNat_of_zero_le hplace
    rw [zpow_natCast, mul_comm] at hwide
    have hpositive : 0 < quartersInOne * Nat.pow 10 power :=
      Nat.mul_pos quartersInOne_pos (Nat.pow_pos (by omega))
    exact exists_nearestMultiple? hlow hhigh hpositive (by exact_mod_cast hwide)
  · obtain ⟨places, rfl⟩ := Int.exists_eq_neg_ofNat (le_of_not_ge hplace)
    have hfactor : 0 < Nat.pow 10 places := Nat.pow_pos (by omega)
    have hpositive : (0 : ℚ) < 10 ^ places := by positivity
    rw [Int.neg_neg, Int.toNat_natCast]
    refine exists_nearestMultiple? (Nat.mul_lt_mul_of_pos_right hlow hfactor)
      (Nat.mul_lt_mul_of_pos_right hhigh hfactor) quartersInOne_pos ?_
    have hscaled := mul_lt_mul_of_pos_right hwide hpositive
    rw [zpow_neg, zpow_natCast, add_mul, mul_right_comm, inv_mul_cancel₀ hpositive.ne',
      one_mul] at hscaled
    exact_mod_cast hscaled

end Grid

/-! ## The grid of seventeen digits -/

theorem pow_decimalLength_le {n : ℕ} (hn : 0 < n) : 10 ^ (decimalLength n - 1) ≤ n := by
  by_contra hlarge
  have hpositive : 0 < decimalLength n - 1 := by
    by_contra hzero
    rw [Nat.eq_zero_of_not_pos hzero] at hlarge
    omega
  have hlength : decimalLength n ≤ decimalLength n - 1 :=
    (Nat.length_toDigits_le_iff (by omega) hpositive).mpr (Nat.lt_of_not_le hlarge)
  omega

/-- The place of the point says how large a number is at least. -/
theorem Interval.pow_pointPlace_le {interval : Interval} (hvalue : 0 < interval.value) :
    (10 : ℚ) ^ (interval.pointPlace - 1) * quartersInOne ≤ interval.value := by
  have hscale : ∀ k, 359 ≤ k →
      (10 : ℚ) ^ ((decimalLength (interval.value * Nat.pow 10 k / quartersInOne) : ℤ) - k - 1) *
        quartersInOne ≤ interval.value := by
    intro k hk
    have hunit : quartersInOne ≤ interval.value * Nat.pow 10 k := by
      have hpower : (2 : ℚ) ^ 1076 ≤ 10 ^ k := two_pow_le_ten_pow (by omega)
      rw [← cast_quartersInOne] at hpower
      exact le_trans (by exact_mod_cast hpower) (Nat.le_mul_of_pos_left _ hvalue)
    set n := interval.value * Nat.pow 10 k / quartersInOne
    have hpositive : 0 < n := Nat.div_pos hunit quartersInOne_pos
    have hlength : 0 < decimalLength n :=
      List.length_pos_iff.mpr Nat.toDigits_ne_nil
    have hleast : 10 ^ (decimalLength n - 1) * quartersInOne ≤ interval.value * 10 ^ k :=
      (Nat.le_div_iff_mul_le quartersInOne_pos).mp (pow_decimalLength_le hpositive)
    have hplace : (decimalLength n : ℤ) - k - 1 = ((decimalLength n - 1 : ℕ) : ℤ) - (k : ℕ) := by
      omega
    rw [hplace, zpow_sub₀ (by norm_num), zpow_natCast, zpow_natCast, div_mul_eq_mul_div,
      div_le_iff₀ (by positivity)]
    exact_mod_cast hleast
  exact hscale 400 (by omega)

section Interval

variable {significand exponent : ℕ}

theorem low_lt_value (hpos : 0 < significand) :
    (Interval.of significand exponent).low < (Interval.of significand exponent).value := by
  unfold Interval.of
  dsimp only
  split_ifs
  · exact Nat.mul_lt_mul_of_pos_right (by omega) (Nat.two_pow_pos exponent)
  · exact Nat.mul_lt_mul_of_pos_right (by omega) (Nat.two_pow_pos exponent)

theorem value_lt_high :
    (Interval.of significand exponent).value < (Interval.of significand exponent).high := by
  unfold Interval.of
  exact Nat.mul_lt_mul_of_pos_right (by omega) (Nat.two_pow_pos exponent)

/-- The interval of a number is wider than `10 ^ (-16)` of the number. -/
theorem value_lt_width (hcanonical : CanonicalForm significand exponent)
    (hpos : 0 < significand) :
    (Interval.of significand exponent).low * 10 ^ 16 + (Interval.of significand exponent).value <
      (Interval.of significand exponent).high * 10 ^ 16 := by
  obtain ⟨hsignificand, -, -⟩ := hcanonical
  have hsmall : significand < 2 ^ 53 := hsignificand
  have hunit : 0 < Nat.pow 2 exponent := Nat.two_pow_pos exponent
  have hfactor : ∀ low, low * 10 ^ 16 + 4 * significand < (4 * significand + 2) * 10 ^ 16 →
      low * Nat.pow 2 exponent * 10 ^ 16 + 4 * significand * Nat.pow 2 exponent <
        (4 * significand + 2) * Nat.pow 2 exponent * 10 ^ 16 := by
    intro low hlow
    have hscaled := Nat.mul_lt_mul_of_pos_right hlow hunit
    rwa [Nat.add_mul, Nat.mul_right_comm, Nat.mul_right_comm (4 * significand + 2)] at hscaled
  unfold Interval.of
  dsimp only
  split_ifs with hpower
  · have hsame : significand = 2 ^ 52 := hpower.1
    exact hfactor _ (by omega)
  · exact hfactor _ (by omega)

/-- Seventeen digits are enough. -/
theorem exists_onGrid?_seventeen (hcanonical : CanonicalForm significand exponent)
    (hpos : 0 < significand) :
    ∃ count, (Interval.of significand exponent).onGrid?
      ((Interval.of significand exponent).pointPlace - 17) = some count := by
  set interval := Interval.of significand exponent
  have hlow : interval.low < interval.value := low_lt_value hpos
  have hvalue : 0 < interval.value := by omega
  have hplace := Interval.pow_pointPlace_le hvalue
  have hstep : (10 : ℚ) ^ (interval.pointPlace - 17) * quartersInOne * 10 ^ 16 ≤
      interval.value := by
    rw [show interval.pointPlace - 17 = interval.pointPlace - 1 - (16 : ℕ) by omega,
      zpow_sub₀ (by norm_num), zpow_natCast, mul_right_comm, div_mul_cancel₀ _ (by norm_num)]
    exact hplace
  have hwidth : (interval.low : ℚ) * 10 ^ 16 + interval.value < interval.high * 10 ^ 16 := by
    exact_mod_cast value_lt_width hcanonical hpos
  refine Interval.exists_onGrid? hlow value_lt_high ?_
  linarith

end Interval

/-! ## The search -/

theorem Decimal.value_dropZero (decimal : Decimal) :
    decimal.dropZero.value = decimal.value := by
  unfold Decimal.dropZero
  split_ifs with hzero
  · have hdigits : (decimal.digits : ℚ) = (decimal.digits / 10 : ℕ) * 10 := by
      exact_mod_cast (Nat.div_mul_cancel (Nat.dvd_of_mod_eq_zero hzero)).symm
    unfold Decimal.value
    dsimp only
    rw [hdigits, zpow_add_one₀ (by norm_num)]
    ring
  · rfl

/-- Whatever is found on one of the grids that are tried lies in the interval. -/
theorem Interval.holds_searchGrids {interval : Interval} {point : ℤ} (last : ℕ)
    (hlast : ∃ count, interval.onGrid? (point - last) = some count) :
    ∀ attempts length, length ≤ last → last < length + attempts →
      interval.Holds ((interval.searchGrids point attempts length).value * quartersInOne) := by
  intro attempts
  induction attempts with
  | zero => intros; omega
  | succ attempts ih =>
      intro length hstart hend
      cases hfound : interval.onGrid? (point - length) with
      | some count =>
          simp only [searchGrids, hfound]
          rw [Decimal.value_dropZero]
          exact holds_of_onGrid? hfound
      | none =>
          simp only [searchGrids, hfound]
          have hother : length ≠ last := by
            rintro rfl
            obtain ⟨count, hcount⟩ := hlast
            simp [hcount] at hfound
          exact ih (length + 1) (by omega) (by omega)

/-- The shortest decimal lies in the interval of its number. -/
theorem holds_shortestDecimal {significand exponent : ℕ}
    (hcanonical : CanonicalForm significand exponent) (hpos : 0 < significand) :
    (Interval.of significand exponent).Holds
      ((shortestDecimal significand exponent).value * quartersInOne) :=
  have hlast := exists_onGrid?_seventeen hcanonical hpos
  Interval.holds_searchGrids 17 hlast 17 1 (by omega) (by omega)

/-- A decimal with the value of the shortest one is read as the number. -/
theorem ofDecimal_of_value_eq {significand exponent : ℕ}
    (hcanonical : CanonicalForm significand exponent) (hpos : 0 < significand)
    {written : Decimal} (hvalue : written.value = (shortestDecimal significand exponent).value)
    (negative : Bool) :
    ofDecimal negative written.digits written.exponent =
      .finite negative significand exponent hcanonical := by
  refine ofDecimal_eq_of_holds hcanonical hpos ?_ negative
  have hholds := holds_shortestDecimal hcanonical hpos
  rwa [← hvalue] at hholds

theorem shortestDecimal_digits_pos {significand exponent : ℕ}
    (hcanonical : CanonicalForm significand exponent) (hpos : 0 < significand) :
    0 < (shortestDecimal significand exponent).digits := by
  by_contra hzero
  have hlow := one_le_of_holds hpos (holds_shortestDecimal hcanonical hpos)
  rw [Decimal.value, Nat.eq_zero_of_not_pos hzero, Nat.cast_zero, zero_mul, zero_mul] at hlow
  exact absurd hlow (by norm_num)

end TaskQuery.Number
