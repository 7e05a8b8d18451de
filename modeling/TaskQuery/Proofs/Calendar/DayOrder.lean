import Mathlib.Order.Lattice
import TaskQuery.Calendar.DateTime
import TaskQuery.Proofs.Calendar.DayNumber

/-!
# The order of days and of clocks

Days are ordered by their numbers.  The clock of a moment counts by `Date.place`, in which
every month has 31 days, so that it is no measure of time; this file shows that it keeps
the order nevertheless: of two moments the clock shows the earlier day, or on one day the
earlier time, as the smaller number (`DateTime.clock_lt_clock_iff`).

Both numbers of a day grow with year, month and day read in this order, which is all that
the comparison needs (`Date.Before`).
-/

namespace TaskQuery

namespace Date

/-- A day comes before another by its year, or else its month, or else its day of the
month. -/
def Before (first second : Date) : Prop :=
  first.year < second.year ∨
    first.year = second.year ∧ (first.month < second.month ∨
      first.month = second.month ∧ first.day < second.day)

theorem before_or_eq_or_before (first second : Date) :
    first.Before second ∨ first = second ∨ second.Before first := by
  have hparts : first = second ↔
      first.year = second.year ∧ first.month = second.month ∧ first.day = second.day := by
    cases first
    cases second
    simp
  unfold Before
  rw [hparts]
  omega

theorem place_lt_place_of_before {first second : Date} (hbefore : first.Before second) :
    first.place < second.place := by
  obtain ⟨-, ⟨hmonth, hlastMonth⟩, hday, hlastDay⟩ := first.valid
  obtain ⟨-, ⟨hotherMonth, -⟩, hotherDay, -⟩ := second.valid
  have hlong := daysInMonth_le first.year first.month
  unfold Before at hbefore
  unfold place
  omega

theorem ordinal_lt_ordinal_of_before {first second : Date} (hbefore : first.Before second) :
    first.ordinal < second.ordinal := by
  obtain ⟨⟨hyear, -⟩, ⟨hmonth, hlastMonth⟩, -, hlastDay⟩ := first.valid
  obtain ⟨-, ⟨hotherMonth, -⟩, hotherDay, -⟩ := second.valid
  have hmonthEnd := daysBeforeMonth_succ first.year hmonth
  unfold ordinal
  rcases hbefore with hyears | ⟨hsameYear, hmonths | ⟨hsameMonth, hdays⟩⟩
  · -- the end of the first year lies between the days
    have hmonths := daysBeforeMonth_mono first.year (Nat.le_add_left 1 first.month)
      (show first.month + 1 ≤ 13 by omega)
    have hyearEnd := daysBeforeYear_succ hyear
    have hyears := daysBeforeYear_mono (Nat.le_add_left 1 first.year) hyears
    rw [daysBeforeMonth_thirteen] at hmonths
    omega
  · -- the end of the first month lies between the days
    have hmonths := daysBeforeMonth_mono first.year (Nat.le_add_left 1 first.month) hmonths
    rw [← hsameYear]
    omega
  · rw [← hsameYear, ← hsameMonth]
    omega

theorem ordinal_injective : Function.Injective ordinal := by
  intro first second heq
  rcases before_or_eq_or_before first second with hbefore | hsame | hbefore
  · have := ordinal_lt_ordinal_of_before hbefore
    omega
  · exact hsame
  · have := ordinal_lt_ordinal_of_before hbefore
    omega

/-- Days are ordered by their numbers. -/
instance : LinearOrder Date :=
  LinearOrder.lift' ordinal ordinal_injective

theorem lt_iff_before {first second : Date} : first < second ↔ first.Before second := by
  constructor
  · intro hlt
    have hordinal : first.ordinal < second.ordinal := hlt
    rcases before_or_eq_or_before first second with hbefore | rfl | hbefore
    · exact hbefore
    · omega
    · have := ordinal_lt_ordinal_of_before hbefore
      omega
  · exact ordinal_lt_ordinal_of_before

/-- Counting every month as 31 days keeps the order. -/
theorem place_lt_place_iff {first second : Date} :
    first.place < second.place ↔ first < second := by
  rw [lt_iff_before]
  constructor
  · intro hplace
    rcases before_or_eq_or_before first second with hbefore | rfl | hbefore
    · exact hbefore
    · omega
    · have := place_lt_place_of_before hbefore
      omega
  · exact place_lt_place_of_before

end Date

namespace TimeOfDay

theorem microseconds_lt (time : TimeOfDay) : time.microseconds < 86400000000 := by
  obtain ⟨hhour, hminute, hsecond, hmicrosecond⟩ := time.valid
  unfold microseconds seconds
  omega

@[simp] theorem microseconds_midnight : midnight.microseconds = 0 := by
  decide

/-- Only the start of a day has no microseconds behind it. -/
theorem microseconds_pos_iff {time : TimeOfDay} : 0 < time.microseconds ↔ time ≠ midnight := by
  have hparts : time = midnight ↔
      time.hour = 0 ∧ time.minute = 0 ∧ time.second = 0 ∧ time.microsecond = 0 := by
    cases time
    simp [midnight]
  rw [ne_eq, hparts]
  unfold microseconds seconds
  omega

end TimeOfDay

/-- Clocks show the order of days, and on one day the order of times. -/
theorem DateTime.clock_lt_clock_iff {first second : DateTime} :
    first.clock < second.clock ↔ first.date < second.date ∨
      first.date = second.date ∧ first.time.microseconds < second.time.microseconds := by
  have hfirst := first.time.microseconds_lt
  have hsecond := second.time.microseconds_lt
  unfold clock
  rcases lt_trichotomy first.date second.date with hlt | heq | hgt
  · have hplace := Date.place_lt_place_iff.mpr hlt
    exact iff_of_true (by omega) (Or.inl hlt)
  · rw [heq]
    simp
  · have hplace := Date.place_lt_place_iff.mpr hgt
    refine iff_of_false (by omega) ?_
    rintro (hlt | ⟨heq, -⟩)
    · exact lt_asymm hlt hgt
    · exact hgt.ne' heq

end TaskQuery
