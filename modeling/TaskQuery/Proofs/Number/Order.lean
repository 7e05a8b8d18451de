import Mathlib.Algebra.Order.Field.Rat
import Mathlib.Order.WithBot
import Mathlib.Tactic.NormNum
import Mathlib.Tactic.Positivity
import TaskQuery.Number.Binary64

/-!
# Floating-point numbers in the order of numbers

Floating-point numbers are compared by their positions, whole numbers of the least positive
number with two more for the infinities.  This file says what that order is: a finite number
stands for a rational number and the infinities for the two ends of the number line
(`Binary64.value?`), and the comparisons are those of what the numbers stand for
(`Binary64.lt_eq_decide`, `Binary64.le_eq_decide`).  What is not a number stands for nothing,
and no comparison with it holds.

The position of an infinity is a number too, so the one thing to show is that it lies beyond
every finite number (`Binary64.units_lt_infinityUnits`).
-/

namespace TaskQuery.Binary64

/-! ## Positions -/

theorem infinityUnits_pos : 0 < infinityUnits := by
  have hpower : ∀ n, 0 < Nat.pow 2 n := Nat.two_pow_pos
  exact Int.natCast_pos.mpr (hpower 2100)

/-- A significand has 53 binary digits and an exponent is at most 2045. -/
theorem natAbs_units_lt {significand exponent : ℕ}
    (hcanonical : CanonicalForm significand exponent) (negative : Bool) :
    ((units negative significand exponent).natAbs : ℤ) < infinityUnits := by
  obtain ⟨hsignificand, hexponent, -⟩ := hcanonical
  have hsize : (units negative significand exponent).natAbs =
      significand * Nat.pow 2 exponent := by
    cases negative with
    | false => exact Int.natAbs_natCast _
    | true => exact (Int.natAbs_neg _).trans (Int.natAbs_natCast _)
  have hbound : ∀ n, 53 + exponent ≤ n →
      ((significand * Nat.pow 2 exponent : ℕ) : ℤ) < (Nat.pow 2 n : ℕ) := by
    intro n hn
    refine Int.ofNat_lt.mpr ?_
    calc significand * Nat.pow 2 exponent
        < 2 ^ 53 * 2 ^ exponent := Nat.mul_lt_mul_of_pos_right hsignificand (Nat.two_pow_pos _)
      _ = 2 ^ (53 + exponent) := (Nat.pow_add 2 53 exponent).symm
      _ ≤ Nat.pow 2 n := Nat.pow_le_pow_right (by omega) hn
  rw [hsize, infinityUnits]
  apply hbound
  omega

theorem units_lt_infinityUnits {significand exponent : ℕ}
    (hcanonical : CanonicalForm significand exponent) (negative : Bool) :
    -infinityUnits < units negative significand exponent ∧
      units negative significand exponent < infinityUnits := by
  have hlt := natAbs_units_lt hcanonical negative
  omega

/-! ## What a number stands for -/

/-- What a number stands for: a finite one for a rational number, an infinity for an end of the
number line, and what is not a number for nothing. -/
def value? : Binary64 → Option (WithBot (WithTop ℚ))
  | .nan => none
  | .infinite true => some ⊥
  | .infinite false => some ⊤
  | .finite negative significand exponent _ =>
    some ((units negative significand exponent / 2 ^ 1074 : ℚ) : WithTop ℚ)

theorem value?_eq_none_iff {number : Binary64} : number.value? = none ↔ number = .nan := by
  cases number with
  | nan => exact iff_of_true rfl rfl
  | infinite negative => cases negative <;> simp [value?]
  | finite negative significand exponent canonical => simp [value?]

theorem exists_value? {number : Binary64} (hnumber : number ≠ .nan) :
    ∃ value, number.value? = some value :=
  Option.ne_none_iff_exists'.mp (mt value?_eq_none_iff.mp hnumber)

/-- The position of what stands for something: one at each end for the infinities, and between
them the units of a finite number. -/
theorem position_spec {number : Binary64} {x : WithBot (WithTop ℚ)}
    (hx : number.value? = some x) :
    number.position = some (-infinityUnits) ∧ x = ⊥ ∨
      number.position = some infinityUnits ∧ x = ⊤ ∨
      ∃ p, number.position = some p ∧ (-infinityUnits < p ∧ p < infinityUnits) ∧
        x = ((p / 2 ^ 1074 : ℚ) : WithTop ℚ) := by
  cases number with
  | nan => cases hx
  | infinite negative =>
      cases negative with
      | true => exact Or.inl ⟨rfl, (Option.some.inj hx).symm⟩
      | false => exact Or.inr (Or.inl ⟨rfl, (Option.some.inj hx).symm⟩)
  | finite negative significand exponent canonical =>
      exact Or.inr (Or.inr ⟨_, rfl, units_lt_infinityUnits canonical negative,
        (Option.some.inj hx).symm⟩)

/-- Positions are ordered as what the numbers stand for. -/
theorem exists_position_lt_iff {first second : Binary64} {x y : WithBot (WithTop ℚ)}
    (hx : first.value? = some x) (hy : second.value? = some y) :
    ∃ p q, first.position = some p ∧ second.position = some q ∧ (p < q ↔ x < y) := by
  have hpos := infinityUnits_pos
  rcases position_spec hx with ⟨hp, rfl⟩ | ⟨hp, rfl⟩ | ⟨p, hp, ⟨hlower, hupper⟩, rfl⟩
  · rcases position_spec hy with ⟨hq, rfl⟩ | ⟨hq, rfl⟩ | ⟨q, hq, ⟨hleft, hright⟩, rfl⟩
    · exact ⟨_, _, hp, hq, iff_of_false (lt_irrefl _) (lt_irrefl _)⟩
    · exact ⟨_, _, hp, hq, iff_of_true (by omega) bot_lt_top⟩
    · exact ⟨_, _, hp, hq, iff_of_true hleft (WithBot.bot_lt_coe _)⟩
  · rcases position_spec hy with ⟨hq, rfl⟩ | ⟨hq, rfl⟩ | ⟨q, hq, ⟨hleft, hright⟩, rfl⟩
    · exact ⟨_, _, hp, hq, iff_of_false (by omega) not_top_lt⟩
    · exact ⟨_, _, hp, hq, iff_of_false (lt_irrefl _) (lt_irrefl _)⟩
    · exact ⟨_, _, hp, hq, iff_of_false (by omega) not_top_lt⟩
  · rcases position_spec hy with ⟨hq, rfl⟩ | ⟨hq, rfl⟩ | ⟨q, hq, ⟨hleft, hright⟩, rfl⟩
    · exact ⟨_, _, hp, hq, iff_of_false (by omega) not_lt_bot⟩
    · exact ⟨_, _, hp, hq, iff_of_true hupper (WithBot.coe_lt_coe.mpr (WithTop.coe_lt_top _))⟩
    · have hunit : (0 : ℚ) < 2 ^ 1074 := by positivity
      refine ⟨_, _, hp, hq, ?_⟩
      rw [WithBot.coe_lt_coe, WithTop.coe_lt_coe, div_lt_div_iff_of_pos_right hunit, Int.cast_lt]

/-! ## Comparisons -/

section Compare

variable {first second : Binary64} {x y : WithBot (WithTop ℚ)}

theorem lt_eq_decide (hx : first.value? = some x) (hy : second.value? = some y) :
    first.lt second = decide (x < y) := by
  obtain ⟨p, q, hp, hq, hiff⟩ := exists_position_lt_iff hx hy
  unfold lt
  rw [hp, hq]
  exact decide_eq_decide.mpr hiff

theorem le_eq_decide (hx : first.value? = some x) (hy : second.value? = some y) :
    first.le second = decide (x ≤ y) := by
  obtain ⟨q, p, hq, hp, hiff⟩ := exists_position_lt_iff hy hx
  unfold le
  rw [hp, hq]
  refine decide_eq_decide.mpr ?_
  rw [← not_lt, hiff, not_lt]

theorem lt_of_not_number (hnan : first = .nan ∨ second = .nan) : first.lt second = false := by
  rcases hnan with rfl | rfl
  · rfl
  · cases first <;> rfl

theorem le_of_not_number (hnan : first = .nan ∨ second = .nan) : first.le second = false := by
  rcases hnan with rfl | rfl
  · rfl
  · cases first <;> rfl

end Compare

/-! ## Differences -/

theorem sub_of_not_number {first second : Binary64} (hnan : first = .nan ∨ second = .nan) :
    first.sub second = .nan := by
  rcases hnan with rfl | rfl
  · rfl
  · cases first <;> rfl

theorem units_not (negative : Bool) (significand exponent : ℕ) :
    units (!negative) significand exponent = -units negative significand exponent := by
  cases negative with
  | false => rfl
  | true => exact (Int.neg_neg _).symm

/-- The difference of two numbers that stand for the same rational number is zero. -/
theorem abs_sub_of_value?_eq {first second : Binary64} {r : ℚ}
    (hfirst : first.value? = some (r : WithTop ℚ)) (hsecond : second.value? = some (r : WithTop ℚ)) :
    (first.sub second).abs = signedZero false := by
  cases first with
  | nan => cases hfirst
  | infinite negative => cases negative <;> cases hfirst
  | finite negative significand exponent canonical =>
      cases second with
      | nan => cases hsecond
      | infinite other => cases other <;> cases hsecond
      | finite other otherSignificand otherExponent otherCanonical =>
          have hunit : (2 : ℚ) ^ 1074 ≠ 0 := by positivity
          have hvalues := WithTop.coe_injective (WithBot.coe_injective
            (Option.some.inj (hfirst.trans hsecond.symm)))
          have hunits : units negative significand exponent =
              units other otherSignificand otherExponent := by
            rw [div_left_inj' hunit] at hvalues
            exact Int.cast_injective hvalues
          unfold sub neg add ofUnits
          dsimp only
          rw [units_not, hunits, Int.add_right_neg, if_pos rfl]
          rfl

end TaskQuery.Binary64
