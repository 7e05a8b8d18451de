import Mathlib.Algebra.Order.Field.Rat
import Mathlib.Data.Nat.Cast.Order.Field
import Mathlib.Tactic.FieldSimp
import Mathlib.Tactic.Linarith
import Mathlib.Tactic.NormNum
import Mathlib.Tactic.Positivity
import Mathlib.Tactic.Ring
import TaskQuery.Number.Shortest

/-!
# The numbers that read back

A decimal is read as the floating-point number nearest to it, of two that are equally near
as the one with the even significand.  The decimals that are read as a given number are
those in its interval (`Number.Interval.of`), which this file shows in one direction: what
lies in the interval is read as the number (`ofDecimal_eq_of_holds`).

Rounding goes through an exponent that is found first, from the whole part of the quotient.
In most of the interval that is the exponent of the number itself; the rest is the part of
the interval below a power of two, where the exponent is one less and the significand is
rounded up to `2 ^ 53`, which is carried.
-/

namespace TaskQuery

namespace Number

/-! ## Rounding to whole numbers -/

/-- A whole number at most one half away is the rounded quotient; at exactly one half it has
to be even. -/
theorem roundQuotient_eq {n d s : ℕ} (hd : 0 < d) (hlow : 2 * (s * d) ≤ 2 * n + d)
    (hhigh : 2 * n ≤ 2 * (s * d) + d)
    (hodd : s % 2 = 1 → 2 * (s * d) < 2 * n + d ∧ 2 * n < 2 * (s * d) + d) :
    roundQuotient n d = s := by
  have hdivision : n / d * d + n % d = n := Nat.div_add_mod' n d
  have hremainder : n % d < d := Nat.mod_lt n hd
  have habove : s ≤ n / d + 1 := by
    by_contra hlarge
    have hproduct : (n / d + 2) * d ≤ s * d := Nat.mul_le_mul_right d (by omega)
    rw [Nat.add_mul] at hproduct
    omega
  have hbelow : n / d ≤ s := by
    by_contra hsmall
    have hproduct : (s + 1) * d ≤ n / d * d := Nat.mul_le_mul_right d (by omega)
    rw [Nat.add_mul] at hproduct
    omega
  have hcases : s = n / d ∨ s = n / d + 1 := by omega
  unfold roundQuotient
  dsimp only
  rcases hcases with hs | hs
  · rw [← hs] at hdivision ⊢
    split_ifs <;> omega
  · have hproduct : s * d = n / d * d + d := by rw [hs, Nat.add_mul, Nat.one_mul]
    split_ifs <;> omega

/-- The rounded quotient is one of the two whole numbers around the exact one. -/
theorem roundQuotient_eq_or (n d : ℕ) :
    roundQuotient n d = n / d ∨ roundQuotient n d = n / d + 1 := by
  unfold roundQuotient
  dsimp only
  split_ifs <;> omega

/-! ## Rational numbers in an interval -/

/-- Whether the interval holds a rational number, which counts quarters of the least
positive number as the interval does. -/
def Interval.Holds (interval : Interval) (x : ℚ) : Prop :=
  if interval.closed then interval.low ≤ x ∧ x ≤ interval.high
  else interval.low < x ∧ x < interval.high

theorem Interval.Holds.bounds {interval : Interval} {x : ℚ} (hx : interval.Holds x) :
    interval.low ≤ x ∧ x ≤ interval.high := by
  unfold Interval.Holds at hx
  split_ifs at hx
  · exact hx
  · exact ⟨hx.1.le, hx.2.le⟩

theorem Interval.Holds.strict_bounds {interval : Interval} {x : ℚ} (hx : interval.Holds x)
    (hclosed : interval.closed = false) : interval.low < x ∧ x < interval.high := by
  unfold Interval.Holds at hx
  rwa [hclosed, if_neg Bool.false_ne_true] at hx

theorem Interval.closed_of_odd {significand : ℕ} (hodd : significand % 2 = 1) (exponent : ℕ) :
    (Interval.of significand exponent).closed = false := by
  simp [Interval.of, hodd]

end Number

namespace Binary64

open Number

/-! ## The exponent that is found -/

theorem exponentOf_eq {wholeUnits exponent : ℕ}
    (hlow : exponent = 0 ∨ 2 ^ (52 + exponent) ≤ wholeUnits)
    (hhigh : wholeUnits < 2 ^ (53 + exponent)) : exponentOf wholeUnits = exponent := by
  unfold exponentOf
  rcases hlow with rfl | hlow
  · exact if_pos hhigh
  · cases exponent with
    | zero => exact if_pos hhigh
    | succ exponent =>
        have hleast : 2 ^ 53 ≤ wholeUnits :=
          (Nat.pow_le_pow_right (by omega) (by omega)).trans hlow
        have hlog : wholeUnits.log2 = 52 + (exponent + 1) :=
          (Nat.log2_eq_iff (by omega)).mpr ⟨hlow, hhigh.trans_eq (by ring_nf)⟩
        have hlarge : ¬ wholeUnits < Nat.pow 2 53 := Nat.not_lt.mpr hleast
        rw [if_neg hlarge, hlog]
        omega

/-- A quotient with 53 binary digits at an exponent is rounded there. -/
theorem ofUnitQuotient_of_binade {n d exponent : ℕ} (hd : 0 < d) (negative : Bool)
    (hlow : exponent = 0 ∨ 2 ^ 52 * (d * 2 ^ exponent) ≤ n)
    (hhigh : n < 2 ^ 53 * (d * 2 ^ exponent)) :
    ofUnitQuotient negative n d =
      ofParts negative (roundQuotient n (d * 2 ^ exponent)) exponent := by
  have hbinade : ∀ k, 2 ^ k * (d * 2 ^ exponent) = 2 ^ (k + exponent) * d := by
    intro k
    rw [Nat.pow_add]
    ring
  have hexponent : exponentOf (n / d) = exponent := by
    refine exponentOf_eq (hlow.imp_right fun hn => ?_) ?_
    · rwa [Nat.le_div_iff_mul_le hd, ← hbinade]
    · rwa [Nat.div_lt_iff_lt_mul hd, ← hbinade]
  unfold ofUnitQuotient
  rw [hexponent]
  rfl

theorem ofParts_eq {significand exponent : ℕ} (hcanonical : CanonicalForm significand exponent)
    (negative : Bool) :
    ofParts negative significand exponent = .finite negative significand exponent hcanonical := by
  have hcarried : (significand == Nat.pow 2 53) = false :=
    beq_eq_false_iff_ne.mpr hcanonical.1.ne
  unfold ofParts
  simp only [hcarried, Bool.false_eq_true, if_false]
  exact dif_pos hcanonical

/-- A significand that was rounded up to `2 ^ 53` is carried into the next exponent. -/
theorem ofParts_carry {exponent : ℕ} (hcanonical : CanonicalForm (2 ^ 52) (exponent + 1))
    (negative : Bool) :
    ofParts negative (2 ^ 53) exponent =
      .finite negative (2 ^ 52) (exponent + 1) hcanonical := by
  have hcarried : (2 ^ 53 == Nat.pow 2 53) = true := beq_self_eq_true _
  unfold ofParts
  simp only [hcarried, if_true]
  exact dif_pos hcanonical

/-! ## Quotients in the interval -/

section Bounds

variable {significand exponent n d : ℕ}

theorem low_mul (significand exponent d : ℕ) :
    (Interval.of significand exponent).low * d =
      if significand = 2 ^ 52 ∧ exponent ≠ 0 then
        4 * (significand * (d * 2 ^ exponent)) - d * 2 ^ exponent
      else 4 * (significand * (d * 2 ^ exponent)) - 2 * (d * 2 ^ exponent) := by
  have hfactor : ∀ k, (4 * significand - k) * Nat.pow 2 exponent * d =
      4 * (significand * (d * 2 ^ exponent)) - k * (d * 2 ^ exponent) := by
    intro k
    rw [Nat.mul_assoc, Nat.sub_mul, Nat.mul_assoc, Nat.mul_comm (Nat.pow 2 exponent)]
    rfl
  unfold Interval.of
  dsimp only
  split_ifs with hpower hother hother
  · rw [hfactor, Nat.one_mul]
  · exact absurd hpower hother
  · exact absurd hother hpower
  · exact hfactor 2

theorem high_mul (significand exponent d : ℕ) :
    (Interval.of significand exponent).high * d =
      4 * (significand * (d * 2 ^ exponent)) + 2 * (d * 2 ^ exponent) := by
  unfold Interval.of
  dsimp only [Nat.pow_eq]
  ring

/-- A quotient between the ends of the interval of a number is rounded to the number; the
ends themselves only if the significand is even. -/
theorem ofUnitQuotient_eq_of_bounds (hcanonical : CanonicalForm significand exponent)
    (hd : 0 < d) (hlow : (Interval.of significand exponent).low * d ≤ 4 * n)
    (hhigh : 4 * n ≤ (Interval.of significand exponent).high * d)
    (hodd : significand % 2 = 1 → (Interval.of significand exponent).low * d < 4 * n ∧
      4 * n < (Interval.of significand exponent).high * d) (negative : Bool) :
    ofUnitQuotient negative n d = .finite negative significand exponent hcanonical := by
  rw [low_mul] at hlow hodd
  rw [high_mul] at hhigh hodd
  obtain ⟨hsignificand, -, hleast⟩ := id hcanonical
  have hunit : 0 < d * 2 ^ exponent := Nat.mul_pos hd (Nat.two_pow_pos exponent)
  have hmost : (significand + 1) * (d * 2 ^ exponent) ≤ 2 ^ 53 * (d * 2 ^ exponent) :=
    Nat.mul_le_mul_right _ hsignificand
  rw [Nat.add_mul, Nat.one_mul] at hmost
  by_cases hbinade : exponent = 0 ∨ 2 ^ 52 * (d * 2 ^ exponent) ≤ n
  · have hround : roundQuotient n (d * 2 ^ exponent) = significand := by
      by_cases hpower : significand = 2 ^ 52 ∧ exponent ≠ 0
      · obtain ⟨rfl, hexponent⟩ := hpower
        have habove := hbinade.resolve_left hexponent
        exact roundQuotient_eq hunit (by omega) (by omega) (by omega)
      · rw [if_neg hpower] at hlow hodd
        exact roundQuotient_eq hunit (by omega) (by omega) (by omega)
    rw [ofUnitQuotient_of_binade hd negative hbinade (by omega), hround, ofParts_eq hcanonical]
  · -- below the power of two, the exponent is one less and the significand is carried
    obtain ⟨hexponent, hbelow⟩ := not_or.mp hbinade
    have hpower : significand = 2 ^ 52 := by
      by_contra hother
      have hlarge : 2 ^ 52 + 1 ≤ significand := by
        have hreaches : 2 ^ 52 ≤ significand := hleast.resolve_left hexponent
        omega
      have hproduct := Nat.mul_le_mul_right (d * 2 ^ exponent) hlarge
      rw [Nat.add_mul, Nat.one_mul] at hproduct
      rw [if_neg fun h => hother h.1] at hlow
      omega
    subst hpower
    rw [if_pos ⟨rfl, hexponent⟩] at hlow
    obtain ⟨lower, rfl⟩ : ∃ lower, exponent = lower + 1 := ⟨exponent - 1, by omega⟩
    have hhalf : d * 2 ^ (lower + 1) = 2 * (d * 2 ^ lower) := by
      rw [Nat.pow_succ]
      ring
    rw [hhalf] at hlow hbelow hunit
    have hround : roundQuotient n (d * 2 ^ lower) = 2 ^ 53 :=
      roundQuotient_eq (by omega) (by omega) (by omega) (by omega)
    have hfound : 2 ^ 52 * (d * 2 ^ lower) ≤ n := by omega
    rw [ofUnitQuotient_of_binade hd negative (Or.inr hfound) (by omega), hround,
      ofParts_carry hcanonical]

theorem ofUnitQuotient_eq_of_holds (hcanonical : CanonicalForm significand exponent)
    (hd : 0 < d) (hholds : (Interval.of significand exponent).Holds (4 * n / d))
    (negative : Bool) :
    ofUnitQuotient negative n d = .finite negative significand exponent hcanonical := by
  have hd' : (0 : ℚ) < d := by exact_mod_cast hd
  refine ofUnitQuotient_eq_of_bounds hcanonical hd ?_ ?_ (fun hodd => ⟨?_, ?_⟩) negative
  · exact_mod_cast (le_div_iff₀ hd').mp hholds.bounds.1
  · exact_mod_cast (div_le_iff₀ hd').mp hholds.bounds.2
  · have hlow := (hholds.strict_bounds (Interval.closed_of_odd hodd exponent)).1
    exact_mod_cast (lt_div_iff₀ hd').mp hlow
  · have hhigh := (hholds.strict_bounds (Interval.closed_of_odd hodd exponent)).2
    exact_mod_cast (div_lt_iff₀ hd').mp hhigh

end Bounds

/-! ## Decimals in the interval -/

section Decimals

variable {significand exponent : ℕ}

theorem low_pos (hpos : 0 < significand) : 0 < (Interval.of significand exponent).low := by
  unfold Interval.of
  dsimp only
  split_ifs
  · exact Nat.mul_pos (by omega) (Nat.two_pow_pos exponent)
  · exact Nat.mul_pos (by omega) (Nat.two_pow_pos exponent)

theorem one_le_of_holds (hpos : 0 < significand) {x : ℚ}
    (hholds : (Interval.of significand exponent).Holds x) : 1 ≤ x :=
  le_trans (by exact_mod_cast low_pos hpos) hholds.bounds.1

theorem high_le (hcanonical : CanonicalForm significand exponent) :
    (Interval.of significand exponent).high ≤ 2 ^ (56 + exponent) := by
  obtain ⟨hsignificand, -, -⟩ := hcanonical
  have hsmall : significand < 2 ^ 53 := hsignificand
  calc (4 * significand + 2) * 2 ^ exponent
      ≤ 2 ^ 56 * 2 ^ exponent := Nat.mul_le_mul_right _ (by omega)
    _ = 2 ^ (56 + exponent) := (Nat.pow_add 2 56 exponent).symm

theorem cast_two_pow (n : ℕ) : ((Nat.pow 2 n : ℕ) : ℚ) = 2 ^ n :=
  Nat.cast_pow 2 n

theorem quartersInOne_pos : 0 < quartersInOne := by
  unfold quartersInOne
  -- the power itself is too large to be computed
  generalize 1076 = n
  exact Nat.two_pow_pos n

theorem cast_quartersInOne : (quartersInOne : ℚ) = 2 ^ 1076 := by
  unfold quartersInOne
  generalize 1076 = n
  exact cast_two_pow n

/-- A power of ten is at least the power of two with three times its exponent. -/
theorem two_pow_le_ten_pow {m n : ℕ} (hm : m ≤ 3 * n) : (2 : ℚ) ^ m ≤ 10 ^ n :=
  calc (2 : ℚ) ^ m ≤ 2 ^ (3 * n) := pow_le_pow_right₀ (by norm_num) hm
    _ = (2 ^ 3) ^ n := pow_mul 2 3 n
    _ ≤ 10 ^ n := pow_le_pow_left₀ (by norm_num) (by norm_num) n

theorem ofQuotient_eq_of_holds (hcanonical : CanonicalForm significand exponent) {n d : ℕ}
    (hd : 0 < d) (hholds : (Interval.of significand exponent).Holds (n / d * quartersInOne))
    (negative : Bool) :
    ofQuotient negative n d = .finite negative significand exponent hcanonical := by
  have hunits : ∀ k, (4 * (n * Nat.pow 2 k : ℕ) / d : ℚ) = n / d * 2 ^ (k + 2) := by
    intro k
    rw [Nat.cast_mul, cast_two_pow, pow_add]
    ring
  rw [cast_quartersInOne, ← hunits 1074] at hholds
  exact ofUnitQuotient_eq_of_holds hcanonical hd hholds negative

/-- A power of ten that is not computed is beyond the largest interval. -/
theorem place_le_of_holds (hcanonical : CanonicalForm significand exponent) {digits power : ℕ}
    (hdigits : digits ≠ 0)
    (hholds : (Interval.of significand exponent).Holds (digits * 10 ^ power * quartersInOne)) :
    power ≤ 400 := by
  by_contra hlarge
  have hcoefficient : (2 : ℚ) ^ 1203 ≤ digits * 10 ^ power :=
    calc (2 : ℚ) ^ 1203 ≤ 10 ^ power := two_pow_le_ten_pow (by omega)
      _ ≤ digits * 10 ^ power := by
          refine le_mul_of_one_le_left (by positivity) ?_
          exact_mod_cast Nat.one_le_iff_ne_zero.mpr hdigits
  have hhigh : ((Interval.of significand exponent).high : ℚ) ≤ 2 ^ (56 + exponent) := by
    exact_mod_cast high_le hcanonical
  have hexponent : exponent ≤ 2045 := hcanonical.2.1
  have hbeyond : (2 : ℚ) ^ (56 + exponent) < digits * 10 ^ power * quartersInOne :=
    calc (2 : ℚ) ^ (56 + exponent) < 2 ^ (1203 + 1076) :=
          pow_lt_pow_right₀ (by norm_num) (by omega)
      _ = 2 ^ 1203 * 2 ^ 1076 := pow_add 2 1203 1076
      _ ≤ digits * 10 ^ power * quartersInOne := by
          rw [cast_quartersInOne]
          exact mul_le_mul_of_nonneg_right hcoefficient (by positivity)
  exact absurd (hbeyond.trans_le (hholds.bounds.2.trans hhigh)) (lt_irrefl _)

/-- A negative power of ten that is not computed leaves less than the smallest interval. -/
theorem places_le_of_holds (hpos : 0 < significand) {digits places : ℕ}
    (hholds : (Interval.of significand exponent).Holds
      (digits / 10 ^ places * quartersInOne)) : places ≤ digits.log2 + 400 := by
  by_contra hlarge
  have hlow := one_le_of_holds hpos hholds
  have hdigits : (digits : ℚ) < 2 ^ (digits.log2 + 1) := by
    exact_mod_cast Nat.lt_log2_self
  have hsmall : (digits : ℚ) * quartersInOne < 10 ^ places :=
    calc (digits : ℚ) * quartersInOne < 2 ^ (digits.log2 + 1) * 2 ^ 1076 := by
          rw [cast_quartersInOne]
          exact mul_lt_mul_of_pos_right hdigits (by positivity)
      _ = 2 ^ (digits.log2 + 1 + 1076) := (pow_add 2 _ 1076).symm
      _ ≤ 10 ^ places := two_pow_le_ten_pow (by omega)
  rw [div_mul_eq_mul_div, le_div_iff₀ (by positivity), one_mul] at hlow
  exact absurd (hsmall.trans_le hlow) (lt_irrefl _)

/-- A decimal in the interval of a number is read as the number. -/
theorem ofDecimal_eq_of_holds (hcanonical : CanonicalForm significand exponent)
    (hpos : 0 < significand) {digits : ℕ} {place : ℤ}
    (hholds : (Interval.of significand exponent).Holds (digits * 10 ^ place * quartersInOne))
    (negative : Bool) :
    ofDecimal negative digits place = .finite negative significand exponent hcanonical := by
  have hdigits : digits ≠ 0 := by
    rintro rfl
    have hlow := one_le_of_holds hpos hholds
    rw [Nat.cast_zero, zero_mul, zero_mul] at hlow
    exact absurd hlow (by norm_num)
  unfold ofDecimal
  rw [if_neg hdigits]
  by_cases hplace : 0 ≤ place
  · obtain ⟨power, rfl⟩ := Int.eq_ofNat_of_zero_le hplace
    rw [zpow_natCast] at hholds
    have hpower := place_le_of_holds hcanonical hdigits hholds
    rw [if_pos hplace, if_neg (by omega)]
    refine ofQuotient_eq_of_holds hcanonical Nat.one_pos ?_ negative
    rw [Nat.cast_one, div_one, Nat.cast_mul, Int.toNat_natCast, Nat.pow_eq, Nat.cast_pow]
    exact hholds
  · obtain ⟨places, rfl⟩ := Int.exists_eq_neg_ofNat (le_of_not_ge hplace)
    rw [zpow_neg, zpow_natCast, ← div_eq_mul_inv] at hholds
    have hplaces := places_le_of_holds hpos hholds
    dsimp only
    rw [if_neg hplace, Int.neg_neg, Int.toNat_natCast, if_neg (by omega)]
    refine ofQuotient_eq_of_holds hcanonical (Nat.pow_pos (by omega)) ?_ negative
    rw [Nat.cast_pow]
    exact hholds

end Decimals

end Binary64

end TaskQuery
