import Mathlib.Data.Int.Init
import Mathlib.Data.Nat.Init
import Mathlib.Order.Nat
import Mathlib.Tactic.SplitIfs
import TaskQuery.Calendar.Date

/-!
# Days and their numbers

`Date.next?` and `Date.previous?` try the parts of a date one after the other, the day of
the month, the month and the year, while `Date.ordinal` counts days from the first day of
year 1.  This file shows that the two agree: the neighbours of a day have the neighbouring
numbers, and a neighbour is missing only where the number leaves the range of the years 1
to 9999.  So arithmetic on days is arithmetic on numbers.

The numbers of these days are exactly those from 1 to `Date.lastOrdinal`
(`isDayNumber_iff`).  That a month or a year ends where the next one begins is
`daysBeforeMonth_succ` and `daysBeforeYear_succ`.
-/

namespace TaskQuery

theorem isLeapYear_iff (year : ℕ) :
    isLeapYear year = true ↔ year % 4 = 0 ∧ (year % 100 ≠ 0 ∨ year % 400 = 0) := by
  simp [isLeapYear]

theorem daysInYear_eq (year : ℕ) :
    daysInYear year = if year % 4 = 0 ∧ (year % 100 ≠ 0 ∨ year % 400 = 0) then 366 else 365 := by
  unfold daysInYear
  simp only [isLeapYear_iff]

theorem daysInMonth_pos (year month : ℕ) : 1 ≤ daysInMonth year month := by
  unfold daysInMonth
  split
  · split <;> omega
  · split <;> omega

theorem daysInMonth_le (year month : ℕ) : daysInMonth year month ≤ 31 := by
  unfold daysInMonth
  split
  · split <;> omega
  · split <;> omega

namespace Date

/-! ## Months and years follow one another -/

theorem daysBeforeYear_succ {year : ℕ} (hyear : 1 ≤ year) :
    daysBeforeYear (year + 1) = daysBeforeYear year + daysInYear year := by
  obtain ⟨past, rfl⟩ : ∃ past, year = past + 1 := ⟨year - 1, by omega⟩
  have hcenturies : past / 100 ≤ past / 4 := Nat.div_le_div_left (by omega) (by omega)
  rw [daysInYear_eq]
  dsimp only [daysBeforeYear]
  simp only [Nat.add_sub_cancel, Nat.succ_div, ← Nat.dvd_iff_mod_eq_zero, ne_eq]
  generalize past / 4 = fours, past / 100 = centuries, past / 400 = cycles at hcenturies ⊢
  split_ifs <;> omega

theorem daysBeforeYear_mono {first second : ℕ} (hfirst : 1 ≤ first) (hle : first ≤ second) :
    daysBeforeYear first ≤ daysBeforeYear second := by
  induction second, hle using Nat.le_induction with
  | base => exact le_refl _
  | succ year hyear ih =>
      rw [daysBeforeYear_succ (hfirst.trans hyear)]
      exact ih.trans (Nat.le_add_right _ _)

theorem daysBeforeMonth_one (year : ℕ) : daysBeforeMonth year 1 = 0 :=
  rfl

theorem daysBeforeMonth_succ (year : ℕ) {month : ℕ} (hmonth : 1 ≤ month) :
    daysBeforeMonth year (month + 1) = daysBeforeMonth year month + daysInMonth year month := by
  obtain ⟨past, rfl⟩ : ∃ past, month = past + 1 := ⟨month - 1, by omega⟩
  unfold daysBeforeMonth
  rw [Nat.add_sub_cancel, Nat.add_sub_cancel, List.range'_1_concat, List.foldl_append,
    Nat.add_comm 1 past]
  rfl

/-- The twelve months make up the year. -/
theorem daysBeforeMonth_thirteen (year : ℕ) : daysBeforeMonth year 13 = daysInYear year := by
  have htwelve : daysBeforeMonth year 13 = daysInMonth year 2 + 337 := by
    have hmonths : daysInMonth year 2 + 337 = 31 + daysInMonth year 2 + 31 + 30 + 31 + 30 + 31 + 31
        + 30 + 31 + 30 + 31 := by omega
    rw [hmonths]
    simp [daysBeforeMonth, daysInMonth, List.range']
  rw [htwelve]
  unfold daysInMonth daysInYear
  cases isLeapYear year <;> rfl

theorem daysBeforeMonth_mono (year : ℕ) {first second : ℕ} (hfirst : 1 ≤ first)
    (hle : first ≤ second) : daysBeforeMonth year first ≤ daysBeforeMonth year second := by
  induction second, hle using Nat.le_induction with
  | base => exact le_refl _
  | succ month hmonth ih =>
      rw [daysBeforeMonth_succ year (hfirst.trans hmonth)]
      exact ih.trans (Nat.le_add_right _ _)

/-! ## The range of the numbers -/

/-- The number of the last day of the year 9999. -/
def lastOrdinal : ℕ :=
  3652059

theorem one_le_ordinal (date : Date) : 1 ≤ date.ordinal := by
  have := date.valid.2.2.1
  unfold ordinal
  omega

theorem ordinal_le (date : Date) : date.ordinal ≤ lastOrdinal := by
  obtain ⟨⟨hyear, hlastYear⟩, ⟨hmonth, hlastMonth⟩, -, hday⟩ := date.valid
  have hmonthEnd := daysBeforeMonth_succ date.year hmonth
  have hmonths := daysBeforeMonth_mono date.year (Nat.le_add_left 1 date.month)
    (show date.month + 1 ≤ 13 by omega)
  have hyearEnd := daysBeforeYear_succ hyear
  have hyears := daysBeforeYear_mono (Nat.le_add_left 1 date.year)
    (show date.year + 1 ≤ 10000 by omega)
  have hlast : daysBeforeYear 10000 = lastOrdinal := rfl
  rw [daysBeforeMonth_thirteen] at hmonths
  unfold ordinal
  omega

/-! ## Neighbours -/

theorem of?_eq_some {year month day : ℕ} (hvalid : IsCalendarDay year month day) :
    of? year month day = some ⟨year, month, day, hvalid⟩ :=
  dif_pos hvalid

theorem of?_eq_none {year month day : ℕ} (hinvalid : ¬ IsCalendarDay year month day) :
    of? year month day = none :=
  dif_neg hinvalid

/-- The day after has the next number, and only the last day has none. -/
theorem next?_spec (date : Date) :
    match date.next? with
    | some after => after.ordinal = date.ordinal + 1
    | none => date.ordinal = lastOrdinal := by
  obtain ⟨year, month, day, hvalid⟩ := date
  obtain ⟨⟨hyear, hlastYear⟩, ⟨hmonth, hlastMonth⟩, hday, hlastDay⟩ := id hvalid
  unfold next?
  by_cases hsameMonth : day + 1 ≤ daysInMonth year month
  · rw [of?_eq_some ⟨⟨hyear, hlastYear⟩, ⟨hmonth, hlastMonth⟩, by omega, hsameMonth⟩]
    rfl
  · rw [of?_eq_none fun h => hsameMonth h.2.2.2, Option.none_or]
    have hdayEq : day = daysInMonth year month := by omega
    have hmonthEnd := daysBeforeMonth_succ year hmonth
    by_cases hsameYear : month + 1 ≤ 12
    · rw [of?_eq_some ⟨⟨hyear, hlastYear⟩, ⟨by omega, hsameYear⟩, le_refl 1, daysInMonth_pos _ _⟩]
      show daysBeforeYear year + daysBeforeMonth year (month + 1) + 1 =
        daysBeforeYear year + daysBeforeMonth year month + day + 1
      omega
    · rw [of?_eq_none fun h => hsameYear h.2.1.2, Option.none_or]
      have hmonthEq : month = 12 := by omega
      subst hmonthEq
      have hyearEnd := daysBeforeYear_succ hyear
      rw [daysBeforeMonth_thirteen] at hmonthEnd
      by_cases hnextYear : year + 1 ≤ 9999
      · rw [of?_eq_some ⟨⟨by omega, hnextYear⟩, by omega, le_refl 1, daysInMonth_pos _ _⟩]
        show daysBeforeYear (year + 1) + daysBeforeMonth (year + 1) 1 + 1 =
          daysBeforeYear year + daysBeforeMonth year 12 + day + 1
        rw [daysBeforeMonth_one]
        omega
      · rw [of?_eq_none fun h => hnextYear h.1.2]
        have hyearEq : year = 9999 := by omega
        subst hyearEq
        have hlast : daysBeforeYear (9999 + 1) = lastOrdinal := rfl
        show daysBeforeYear 9999 + daysBeforeMonth 9999 12 + day = lastOrdinal
        omega

/-- The day before has the previous number, and only the first day has none. -/
theorem previous?_spec (date : Date) :
    match date.previous? with
    | some before => before.ordinal + 1 = date.ordinal
    | none => date.ordinal = 1 := by
  obtain ⟨year, month, day, hvalid⟩ := date
  obtain ⟨⟨hyear, hlastYear⟩, ⟨hmonth, hlastMonth⟩, hday, hlastDay⟩ := id hvalid
  unfold previous?
  by_cases hsameMonth : 1 ≤ day - 1
  · rw [of?_eq_some ⟨⟨hyear, hlastYear⟩, ⟨hmonth, hlastMonth⟩, hsameMonth, by omega⟩]
    show daysBeforeYear year + daysBeforeMonth year month + (day - 1) + 1 =
      daysBeforeYear year + daysBeforeMonth year month + day
    omega
  · rw [of?_eq_none fun h => hsameMonth h.2.2.1, Option.none_or]
    have hdayEq : day = 1 := by omega
    subst hdayEq
    by_cases hsameYear : 1 ≤ month - 1
    · rw [of?_eq_some ⟨⟨hyear, hlastYear⟩, ⟨hsameYear, by omega⟩, daysInMonth_pos _ _, le_refl _⟩]
      have hmonthEnd := daysBeforeMonth_succ year hsameYear
      rw [Nat.sub_add_cancel hmonth] at hmonthEnd
      show daysBeforeYear year + daysBeforeMonth year (month - 1) +
          daysInMonth year (month - 1) + 1 =
        daysBeforeYear year + daysBeforeMonth year month + 1
      omega
    · rw [of?_eq_none fun h => hsameYear h.2.1.1, Option.none_or]
      have hmonthEq : month = 1 := by omega
      subst hmonthEq
      by_cases hlastOfYear : 1 ≤ year - 1
      · have hdecember : (31 : ℕ) ≤ daysInMonth (year - 1) 12 := le_refl 31
        rw [of?_eq_some ⟨⟨hlastOfYear, by omega⟩, by omega, by omega, hdecember⟩]
        have hyearEnd := daysBeforeYear_succ hlastOfYear
        have hmonthEnd := daysBeforeMonth_succ (year - 1) (show 1 ≤ 12 by omega)
        have hlength : daysInMonth (year - 1) 12 = 31 := rfl
        rw [Nat.sub_add_cancel hyear] at hyearEnd
        rw [daysBeforeMonth_thirteen] at hmonthEnd
        show daysBeforeYear (year - 1) + daysBeforeMonth (year - 1) 12 + 31 + 1 =
          daysBeforeYear year + daysBeforeMonth year 1 + 1
        rw [daysBeforeMonth_one]
        omega
      · rw [of?_eq_none fun h => hlastOfYear h.1.1]
        have hyearEq : year = 1 := by omega
        subst hyearEq
        show daysBeforeYear 1 + daysBeforeMonth 1 1 + 1 = 1
        rfl

theorem ordinal_of_next? {date after : Date} (hafter : date.next? = some after) :
    after.ordinal = date.ordinal + 1 := by
  have hspec := next?_spec date
  rwa [hafter] at hspec

theorem next?_eq_none_iff {date : Date} : date.next? = none ↔ date.ordinal = lastOrdinal := by
  have hspec := next?_spec date
  cases hnext : date.next? with
  | none =>
      rw [hnext] at hspec
      exact iff_of_true rfl hspec
  | some after =>
      -- the number of the day after is in range
      have hafter := ordinal_of_next? hnext
      have hle := after.ordinal_le
      exact iff_of_false (by simp) (by omega)

theorem ordinal_of_previous? {date before : Date} (hbefore : date.previous? = some before) :
    before.ordinal + 1 = date.ordinal := by
  have hspec := previous?_spec date
  rwa [hbefore] at hspec

theorem previous?_eq_none_iff {date : Date} : date.previous? = none ↔ date.ordinal = 1 := by
  have hspec := previous?_spec date
  cases hprevious : date.previous? with
  | none =>
      rw [hprevious] at hspec
      exact iff_of_true rfl hspec
  | some before =>
      have hbefore := ordinal_of_previous? hprevious
      have hle := before.one_le_ordinal
      exact iff_of_false (by simp) (by omega)

end Date

/-! ## The numbers of days -/

/-- The numbers that are the number of a day of the years 1 to 9999. -/
def IsDayNumber (number : ℤ) : Prop :=
  ∃ date : Date, (date.ordinal : ℤ) = number

/-- Every number in the range is reached from the first day. -/
theorem isDayNumber_iff {number : ℤ} :
    IsDayNumber number ↔ 1 ≤ number ∧ number ≤ Date.lastOrdinal := by
  constructor
  · rintro ⟨date, rfl⟩
    have hfirst := date.one_le_ordinal
    have hlast := date.ordinal_le
    omega
  · rintro ⟨hfirst, hlast⟩
    induction number, hfirst using Int.leInduction with
    | base => exact ⟨⟨1, 1, 1, by decide⟩, rfl⟩
    | succ number hnumber ih =>
        obtain ⟨date, hdate⟩ := ih (by omega)
        cases hnext : date.next? with
        | none =>
            rw [Date.next?_eq_none_iff] at hnext
            omega
        | some after =>
            have hafter := Date.ordinal_of_next? hnext
            exact ⟨after, by omega⟩

end TaskQuery
