import TaskQuery.Match
import TaskQuery.Proofs.Number.Order

/-!
# Amounts are compared as numbers

A filter on the amount compares two floating-point numbers: the amount of the task and the
number that its case-folded value writes.  This file shows that it compares what the two
stand for.  Of `<`, `>` and "both `>=` and `<=`" exactly one holds, each of `>=` and `<=` is
the negation of the opposite strict comparison, and a larger value passes fewer amounts
above it and more amounts below it (`FieldFilter.passes_amount_byNumber`).

Three things are outside the order, and they all make a filter fail: a value that writes no
number, a number that is not one, on either side, and the comparison that asks for
containment.

## Strategy

Every comparison but equality is `Binary64.lt` or `Binary64.le`, with the amount on the one side
or on the other, so it is the comparison of what the two numbers stand for
(`Comparison.holdsAmount_iff`) and the laws are those of a linear order.  Equality is not of this
kind: it holds within a tolerance, and only that equal finite numbers are within it is shown
here.  Two infinities of one sign are not, since their difference is not a number.
-/

namespace TaskQuery

open Text

namespace Comparison

/-! ## Numbers that stand for something -/

/-- What a comparison says about two places in the order of numbers. -/
def HoldsInOrder (comparison : Comparison) (a x : WithBot (WithTop ℚ)) : Prop :=
  match comparison with
  | .equals => a = x
  | .lessThan => a < x
  | .greaterThan => x < a
  | .lessOrEqual => a ≤ x
  | .greaterOrEqual => x ≤ a
  | .contains => False

/-- But for equality, numbers are compared as what they stand for. -/
theorem holdsAmount_iff {comparison : Comparison} {amount number : Binary64}
    {a x : WithBot (WithTop ℚ)} (hne : comparison ≠ .equals) (ha : amount.value? = some a)
    (hx : number.value? = some x) :
    comparison.holdsAmount amount number = true ↔ comparison.HoldsInOrder a x := by
  unfold holdsAmount HoldsInOrder
  cases comparison with
  | equals => exact absurd rfl hne
  | lessThan =>
      dsimp only
      rw [Binary64.lt_eq_decide ha hx, decide_eq_true_iff]
  | greaterThan =>
      dsimp only
      rw [Binary64.lt_eq_decide hx ha, decide_eq_true_iff]
  | lessOrEqual =>
      dsimp only
      rw [Binary64.le_eq_decide ha hx, decide_eq_true_iff]
  | greaterOrEqual =>
      dsimp only
      rw [Binary64.le_eq_decide hx ha, decide_eq_true_iff]
  | contains => exact iff_of_false Bool.false_ne_true not_false

/-- Numbers that stand for the same one differ by zero, and zero is within the tolerance. -/
theorem holdsAmount_equals {amount number : Binary64} {r : ℚ}
    (hamount : amount.value? = some (r : WithTop ℚ))
    (hnumber : number.value? = some (r : WithTop ℚ)) :
    equals.holdsAmount amount number = true := by
  unfold holdsAmount
  dsimp only
  rw [Binary64.abs_sub_of_value?_eq hamount hnumber]
  decide +kernel

/-- What the answers of the comparisons have to be where the amount stands for `a` and the
number for `x`. -/
structure FollowsOrder (holds : Comparison → Bool) (a x : WithBot (WithTop ℚ)) : Prop where
  holds_iff : ∀ comparison ≠ .equals, (holds comparison = true ↔ comparison.HoldsInOrder a x)
  exactlyOne : [holds .lessThan, holds .greaterThan,
    holds .greaterOrEqual && holds .lessOrEqual].count true = 1
  greaterOrEqual_eq : holds .greaterOrEqual = !holds .lessThan
  lessOrEqual_eq : holds .lessOrEqual = !holds .greaterThan
  equals_of_finite : ∀ r : ℚ, a = (r : WithTop ℚ) → x = (r : WithTop ℚ) → holds .equals = true

/-- Answers that are those of the order obey the laws of a linear order. -/
theorem FollowsOrder.of_holds_iff {holds : Comparison → Bool} {a x : WithBot (WithTop ℚ)}
    (hiff : ∀ comparison ≠ .equals, (holds comparison = true ↔ comparison.HoldsInOrder a x))
    (hequals : ∀ r : ℚ, a = (r : WithTop ℚ) → x = (r : WithTop ℚ) → holds .equals = true) :
    FollowsOrder holds a x := by
  have hless := hiff .lessThan (by decide)
  have hgreater := hiff .greaterThan (by decide)
  have hgreaterOrEqual : holds .greaterOrEqual = !holds .lessThan := by
    rw [Bool.eq_iff_iff, Bool.not_eq_true', ← Bool.not_eq_true, hiff _ (by decide), hless]
    exact not_lt.symm
  have hlessOrEqual : holds .lessOrEqual = !holds .greaterThan := by
    rw [Bool.eq_iff_iff, Bool.not_eq_true', ← Bool.not_eq_true, hiff _ (by decide), hgreater]
    exact not_lt.symm
  refine ⟨hiff, ?_, hgreaterOrEqual, hlessOrEqual, hequals⟩
  -- the weak comparisons both hold where neither strict one does, and both strict ones never do
  have hexclusive : ¬(holds .lessThan = true ∧ holds .greaterThan = true) := by
    rw [hless, hgreater]
    exact fun hboth => lt_asymm hboth.1 hboth.2
  rw [hgreaterOrEqual, hlessOrEqual]
  cases hfirst : holds .lessThan with
  | false => cases holds .greaterThan <;> rfl
  | true =>
      cases hsecond : holds .greaterThan with
      | false => rfl
      | true => exact absurd ⟨hfirst, hsecond⟩ hexclusive

theorem followsOrder_holdsAmount {amount number : Binary64} {a x : WithBot (WithTop ℚ)}
    (ha : amount.value? = some a) (hx : number.value? = some x) :
    FollowsOrder (fun comparison => comparison.holdsAmount amount number) a x := by
  refine .of_holds_iff (fun comparison hne => holdsAmount_iff hne ha hx) ?_
  rintro r rfl rfl
  exact holdsAmount_equals ha hx

/-! ## What is not a number -/

theorem holdsAmount_of_not_number {amount number : Binary64}
    (hnan : amount = .nan ∨ number = .nan) (comparison : Comparison) :
    comparison.holdsAmount amount number = false := by
  unfold holdsAmount
  cases comparison with
  | equals =>
      dsimp only
      rw [Binary64.sub_of_not_number hnan]
      rfl
  | lessThan => exact Binary64.lt_of_not_number hnan
  | greaterThan => exact Binary64.lt_of_not_number hnan.symm
  | lessOrEqual => exact Binary64.le_of_not_number hnan
  | greaterOrEqual => exact Binary64.le_of_not_number hnan.symm
  | contains => rfl

/-! ## Larger and smaller values -/

section Monotone

variable {amount number other : Binary64} {x y : WithBot (WithTop ℚ)} {comparison : Comparison}

/-- An amount that a comparison holds of is a number. -/
theorem exists_value?_of_holdsAmount (hholds : comparison.holdsAmount amount number = true) :
    ∃ a, amount.value? = some a := by
  refine Binary64.exists_value? ?_
  intro hnan
  rw [holdsAmount_of_not_number (Or.inl hnan)] at hholds
  cases hholds

/-- An amount above the larger value is above the smaller one. -/
theorem holdsAmount_of_le (hx : number.value? = some x) (hy : other.value? = some y)
    (hle : x ≤ y) (hcomparison : comparison ∈ [greaterThan, greaterOrEqual])
    (hholds : comparison.holdsAmount amount other = true) :
    comparison.holdsAmount amount number = true := by
  obtain ⟨a, ha⟩ := exists_value?_of_holdsAmount hholds
  rw [List.mem_pair] at hcomparison
  rcases hcomparison with rfl | rfl
  · rw [holdsAmount_iff (by decide) ha hy] at hholds
    exact (holdsAmount_iff (by decide) ha hx).mpr (hle.trans_lt hholds)
  · rw [holdsAmount_iff (by decide) ha hy] at hholds
    exact (holdsAmount_iff (by decide) ha hx).mpr (hle.trans hholds)

/-- An amount below the smaller value is below the larger one. -/
theorem holdsAmount_of_ge (hx : number.value? = some x) (hy : other.value? = some y)
    (hle : x ≤ y) (hcomparison : comparison ∈ [lessThan, lessOrEqual])
    (hholds : comparison.holdsAmount amount number = true) :
    comparison.holdsAmount amount other = true := by
  obtain ⟨a, ha⟩ := exists_value?_of_holdsAmount hholds
  rw [List.mem_pair] at hcomparison
  rcases hcomparison with rfl | rfl
  · rw [holdsAmount_iff (by decide) ha hx] at hholds
    exact (holdsAmount_iff (by decide) ha hy).mpr (hholds.trans_le hle)
  · rw [holdsAmount_iff (by decide) ha hx] at hholds
    exact (holdsAmount_iff (by decide) ha hy).mpr (hholds.trans hle)

end Monotone

end Comparison

/-! ## Filters on the amount -/

namespace FieldFilter

section Passes

variable {task : Task} {amount : Binary64} {value : String}

theorem passes_amount {number : Binary64} (hamount : task.amount = some amount)
    (hnumber : Number.numeral? (folded value) = some number) (comparison : Comparison)
    (sections : List Section) (now : DateTime) :
    ({ field := .amount, comparison, value } : FieldFilter).passes task sections now =
      .ok (comparison.holdsAmount amount number) := by
  unfold passes
  dsimp only
  rw [hamount, hnumber]

theorem passes_amount_of_unreadable (hvalue : Number.numeral? (folded value) = none)
    (comparison : Comparison) (sections : List Section) (now : DateTime) :
    ({ field := .amount, comparison, value } : FieldFilter).passes task sections now =
      .ok false := by
  unfold passes
  dsimp only
  rw [hvalue]
  cases task.amount <;> rfl

theorem passes_amount_contains (sections : List Section) (now : DateTime) :
    ({ field := .amount, comparison := .contains, value } : FieldFilter).passes task sections
      now = .ok false := by
  unfold passes
  dsimp only
  cases task.amount with
  | none => rfl
  | some amount => cases Number.numeral? (folded value) <;> rfl

end Passes

/-- **Amounts are compared as numbers.**  A filter on the amount fails for a value that writes
no number, for containment, and where the amount or the number of the value is not a number.
Everywhere else its answers are those of the order in which finite numbers are rational
numbers and the infinities the two ends: of `<`, `>` and "both `>=` and `<=`" exactly one
holds, the weak comparisons are the negations of the strict ones, and `=` holds of a finite
number and itself.  A comparison that an amount passes upwards of a larger value it passes
upwards of a smaller one, and downwards the other way round. -/
theorem passes_amount_byNumber {task : Task} {amount : Binary64}
    (hamount : task.amount = some amount) (sections : List Section) (now : DateTime) :
    (∀ (comparison : Comparison) (value : String),
      Number.numeral? (folded value) = none ∨ comparison = .contains →
      ({ field := .amount, comparison, value } : FieldFilter).passes task sections now =
        .ok false) ∧
    (∀ (value : String) (number : Binary64), Number.numeral? (folded value) = some number →
      ∃ holds : Comparison → Bool,
        (∀ comparison, ({ field := .amount, comparison, value } : FieldFilter).passes task
          sections now = .ok (holds comparison)) ∧
        (amount = .nan ∨ number = .nan → ∀ comparison, holds comparison = false) ∧
        (amount ≠ .nan → number ≠ .nan → ∃ a x, amount.value? = some a ∧
          number.value? = some x ∧ Comparison.FollowsOrder holds a x)) ∧
    (∀ (value otherValue : String) (number other : Binary64) (x y : WithBot (WithTop ℚ)),
      Number.numeral? (folded value) = some number →
      Number.numeral? (folded otherValue) = some other →
      number.value? = some x → other.value? = some y → x ≤ y →
      (∀ comparison ∈ [Comparison.greaterThan, .greaterOrEqual],
        ({ field := .amount, comparison, value := otherValue } : FieldFilter).passes task
          sections now = .ok true →
        ({ field := .amount, comparison, value } : FieldFilter).passes task sections now =
          .ok true) ∧
      (∀ comparison ∈ [Comparison.lessThan, .lessOrEqual],
        ({ field := .amount, comparison, value } : FieldFilter).passes task sections now =
          .ok true →
        ({ field := .amount, comparison, value := otherValue } : FieldFilter).passes task
          sections now = .ok true)) := by
  refine ⟨?_, ?_, ?_⟩
  · rintro comparison value (hunreadable | rfl)
    · exact passes_amount_of_unreadable hunreadable comparison sections now
    · exact passes_amount_contains sections now
  · intro value number hnumber
    refine ⟨fun comparison => comparison.holdsAmount amount number, ?_, ?_, ?_⟩
    · exact fun comparison => passes_amount hamount hnumber comparison sections now
    · exact Comparison.holdsAmount_of_not_number
    · intro hisAmount hisNumber
      obtain ⟨a, ha⟩ := Binary64.exists_value? hisAmount
      obtain ⟨x, hx⟩ := Binary64.exists_value? hisNumber
      exact ⟨a, x, ha, hx, Comparison.followsOrder_holdsAmount ha hx⟩
  · intro value otherValue number other x y hnumber hother hx hy hle
    constructor <;> intro comparison hcomparison hpasses
    · rw [passes_amount hamount hother] at hpasses
      rw [passes_amount hamount hnumber,
        Comparison.holdsAmount_of_le hx hy hle hcomparison (Except.ok.inj hpasses)]
    · rw [passes_amount hamount hnumber] at hpasses
      rw [passes_amount hamount hother,
        Comparison.holdsAmount_of_ge hx hy hle hcomparison (Except.ok.inj hpasses)]

/-- An amount of a tenth against a tenth in other digits, an infinity, what is not a number and
what no underscore may be in. -/
theorem exists_passes_amount_byNumber :
    ∃ (task : Task) (amount : Binary64) (now : DateTime), task.amount = some amount ∧
      (∀ comparison, ({ field := .amount, comparison, value := "1__0" } :
        FieldFilter).passes task [] now = .ok false) ∧
      (∀ comparison, ({ field := .amount, comparison, value := "NaN" } :
        FieldFilter).passes task [] now = .ok false) ∧
      ({ field := .amount, comparison := .equals, value := " ०.१० " } :
        FieldFilter).passes task [] now = .ok true ∧
      ({ field := .amount, comparison := .greaterThan, value := "INF" } :
        FieldFilter).passes task [] now = .ok false ∧
      ({ field := .amount, comparison := .lessOrEqual, value := "INF" } :
        FieldFilter).passes task [] now = .ok true := by
  let amount : Binary64 := .finite false 7205759403792794 1018 (by decide)
  let task : Task := { id := "1", title := "Pay rent", amount := some amount }
  let now : DateTime :=
    { date := ⟨2026, 3, 1, by decide⟩, time := ⟨12, 0, 0, 0, by decide⟩ }
  have hamount : task.amount = some amount := rfl
  have hunreadable : Number.numeral? (folded "1__0") = none := by decide +kernel
  have hnan : Number.numeral? (folded "NaN") = some .nan := by decide +kernel
  have htenth : Number.numeral? (folded " ०.१० ") = some amount := by decide +kernel
  have hinfinite : Number.numeral? (folded "INF") = some (.infinite false) := by decide +kernel
  obtain ⟨hfails, hanswers, hmonotone⟩ := passes_amount_byNumber hamount [] now
  obtain ⟨_, hpassesNan, hfailsNan, -⟩ := hanswers _ _ hnan
  obtain ⟨_, hpasses, -, hordered⟩ := hanswers _ _ htenth
  obtain ⟨_, _, ha, hx, hfollows⟩ := hordered (by decide) (by decide)
  obtain rfl := Option.some.inj ha
  obtain rfl := Option.some.inj hx
  have hlessOrEqual := (hfollows.holds_iff .lessOrEqual (by decide)).mpr le_rfl
  have hpassesInfinite := (hmonotone _ _ _ _ _ _ htenth hinfinite hx rfl le_top).2 .lessOrEqual
    (by decide) (by rw [hpasses, hlessOrEqual])
  obtain ⟨_, hpassesAbove, -, horderedAbove⟩ := hanswers _ _ hinfinite
  obtain ⟨_, _, -, -, hfollowsAbove⟩ := horderedAbove (by decide) (by decide)
  have hnotGreater := hfollowsAbove.lessOrEqual_eq
  rw [Except.ok.inj ((hpassesAbove _).symm.trans hpassesInfinite), eq_comm,
    Bool.not_eq_true'] at hnotGreater
  refine ⟨task, amount, now, hamount, ?_, ?_, ?_, ?_, hpassesInfinite⟩
  · exact fun comparison => hfails comparison _ (Or.inl hunreadable)
  · intro comparison
    rw [hpassesNan, hfailsNan (Or.inr rfl)]
  · rw [hpasses, hfollows.equals_of_finite _ rfl rfl]
  · rw [hpassesAbove, hnotGreater]

end FieldFilter

end TaskQuery
