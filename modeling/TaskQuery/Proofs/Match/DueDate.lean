import TaskQuery.Match
import TaskQuery.Proofs.Calendar.DayOrder
import TaskQuery.Proofs.Match.Failure

/-!
# Due dates are compared by days

A filter on the due date compares the clock of the due date with the clock at the start of
a day, and counts the whole day in for two of the comparisons.  This file shows that the
time of day drops out: a due date is earlier than the start of a day if its day is an
earlier one, and the comparisons that count the day in are the comparisons of days.  The
time matters for one comparison only, `>`, which holds on the day itself from just after
midnight on (`Comparison.holdsDueDate_iff`).

So `<` and `>=` exclude each other and leave nothing out, while `>` and `<=` leave nothing
out and overlap on the rest of the day after midnight.
-/

namespace TaskQuery

open Text

/-! ## A due date and the start of a day -/

theorem DateTime.clock_lt_startOf_iff {due : DateTime} {day : Date} :
    due.clock < (startOf day).clock ↔ due.date < day := by
  rw [clock_lt_clock_iff]
  simp [startOf]

theorem DateTime.startOf_lt_clock_iff {due : DateTime} {day : Date} :
    (startOf day).clock < due.clock ↔ day < due.date ∨ due.date = day ∧ due.time ≠ .midnight := by
  rw [clock_lt_clock_iff, eq_comm (a := due.date)]
  simp only [startOf, TimeOfDay.microseconds_midnight, TimeOfDay.microseconds_pos_iff]

/-! ## The comparisons -/

namespace Comparison

/-- What a comparison says about the day and the time of a due date. -/
def HoldsOnDay (comparison : Comparison) (due : DateTime) (day : Date) : Prop :=
  match comparison with
  | .equals | .contains => due.date = day
  | .lessThan => due.date < day
  | .lessOrEqual => due.date ≤ day
  | .greaterOrEqual => day ≤ due.date
  | .greaterThan => day < due.date ∨ due.date = day ∧ due.time ≠ .midnight

/-- The clocks are compared as the days are. -/
theorem holdsDueDate_iff {comparison : Comparison} {due : DateTime} {day : Date} :
    comparison.holdsDueDate due day = true ↔ comparison.HoldsOnDay due day := by
  unfold holdsDueDate HoldsOnDay
  cases comparison with
  | equals | contains => exact beq_iff_eq
  | lessThan =>
      dsimp only
      rw [decide_eq_true_iff, DateTime.clock_lt_startOf_iff]
  | greaterThan =>
      dsimp only
      rw [decide_eq_true_iff, DateTime.startOf_lt_clock_iff]
  | greaterOrEqual =>
      dsimp only
      rw [Bool.or_eq_true, decide_eq_true_iff, beq_iff_eq, ← not_lt,
        DateTime.clock_lt_startOf_iff, not_lt]
      exact or_iff_left_of_imp fun hsame => hsame.ge
  | lessOrEqual =>
      -- behind midnight only the day itself is left to be counted in
      dsimp only
      rw [Bool.or_eq_true, decide_eq_true_iff, beq_iff_eq, ← not_lt,
        DateTime.startOf_lt_clock_iff]
      constructor
      · rintro (hnot | hsame)
        · exact not_lt.mp fun hlater => hnot (Or.inl hlater)
        · exact hsame.le
      · intro hle
        rcases hle.lt_or_eq with hlt | hsame
        · refine Or.inl ?_
          rintro (hlater | ⟨hsame, -⟩)
          · exact lt_asymm hlt hlater
          · exact hlt.ne hsame
        · exact Or.inr hsame

section Laws

variable (due : DateTime) (day : Date)

theorem holdsDueDate_greaterOrEqual :
    greaterOrEqual.holdsDueDate due day = !lessThan.holdsDueDate due day := by
  rw [Bool.eq_iff_iff, Bool.not_eq_true', ← Bool.not_eq_true, holdsDueDate_iff, holdsDueDate_iff]
  exact not_lt.symm

theorem holdsDueDate_lessOrEqual :
    lessOrEqual.holdsDueDate due day =
      (lessThan.holdsDueDate due day || equals.holdsDueDate due day) := by
  rw [Bool.eq_iff_iff, Bool.or_eq_true, holdsDueDate_iff, holdsDueDate_iff, holdsDueDate_iff]
  exact le_iff_lt_or_eq

theorem holdsDueDate_greaterOrEqual_eq_or :
    greaterOrEqual.holdsDueDate due day =
      (greaterThan.holdsDueDate due day || equals.holdsDueDate due day) := by
  rw [Bool.eq_iff_iff, Bool.or_eq_true, holdsDueDate_iff, holdsDueDate_iff, holdsDueDate_iff]
  constructor
  · intro hle
    exact hle.lt_or_eq.imp Or.inl Eq.symm
  · rintro ((hlt | ⟨hsame, -⟩) | hsame)
    · exact hlt.le
    · exact hsame.ge
    · exact hsame.ge

theorem holdsDueDate_greaterThan_or_lessOrEqual :
    (greaterThan.holdsDueDate due day || lessOrEqual.holdsDueDate due day) = true := by
  rw [Bool.or_eq_true, holdsDueDate_iff, holdsDueDate_iff]
  exact (lt_or_ge day due.date).imp_left Or.inl

/-- The one overlap of two comparisons with opposite signs. -/
theorem holdsDueDate_greaterThan_and_lessOrEqual :
    (greaterThan.holdsDueDate due day && lessOrEqual.holdsDueDate due day) = true ↔
      due.date = day ∧ due.time ≠ .midnight := by
  rw [Bool.and_eq_true, holdsDueDate_iff, holdsDueDate_iff]
  constructor
  · rintro ⟨hlater | hsame, hle⟩
    · exact absurd hlater hle.not_gt
    · exact hsame
  · rintro ⟨hsame, htime⟩
    exact ⟨Or.inr ⟨hsame, htime⟩, hsame.le⟩

end Laws

end Comparison

/-! ## Filters on the due date -/

theorem FieldFilter.passes_dueDate {task : Task} {due : DateTime} {value : String} {day : Date}
    {now : DateTime} {sections : List Section} (hdue : task.dueDate = some due)
    (hday : resolveDay (folded value) due.zone now = .ok (some day)) (comparison : Comparison) :
    ({ field := .dueDate, comparison, value } : FieldFilter).passes task sections now =
      .ok (comparison.holdsDueDate due day) := by
  unfold passes
  dsimp only
  rw [hdue]
  dsimp only
  rw [hday]
  rfl

/-- **Due dates are compared by days.**  A filter whose value names a day has an answer for
every due date, and the answer depends on the calendar day that the due date shows in its
own frame and, for `>` only, on whether it shows the start of the day.  So `<` and `>=`
exclude each other and leave nothing out, `>` and `<=` leave nothing out and both hold
exactly on the day itself after midnight, and each comparison that counts the day in is the
one that does not together with `=`. -/
theorem FieldFilter.passes_dueDate_byDay {task : Task} {due : DateTime} {value : String}
    {day : Date} {now : DateTime} (sections : List Section) (hdue : task.dueDate = some due)
    (hday : resolveDay (folded value) due.zone now = .ok (some day)) :
    ∃ holds : Comparison → Bool,
      (∀ comparison, ({ field := .dueDate, comparison, value } : FieldFilter).passes task
        sections now = .ok (holds comparison)) ∧
      ((holds .equals = true ↔ due.date = day) ∧
        (holds .contains = true ↔ due.date = day) ∧
        (holds .greaterOrEqual = true ↔ day ≤ due.date) ∧
        (holds .lessOrEqual = true ↔ due.date ≤ day) ∧
        (holds .lessThan = true ↔ due.date < day) ∧
        (holds .greaterThan = true ↔
          day < due.date ∨ due.date = day ∧ due.time ≠ .midnight)) ∧
      holds .greaterOrEqual = !holds .lessThan ∧
      (holds .greaterThan || holds .lessOrEqual) = true ∧
      ((holds .greaterThan && holds .lessOrEqual) = true ↔
        due.date = day ∧ due.time ≠ .midnight) ∧
      holds .lessOrEqual = (holds .lessThan || holds .equals) ∧
      holds .greaterOrEqual = (holds .greaterThan || holds .equals) := by
  open Comparison in
  exact ⟨fun comparison => comparison.holdsDueDate due day, passes_dueDate hdue hday,
    ⟨holdsDueDate_iff, holdsDueDate_iff, holdsDueDate_iff, holdsDueDate_iff, holdsDueDate_iff,
      holdsDueDate_iff⟩,
    holdsDueDate_greaterOrEqual due day, holdsDueDate_greaterThan_or_lessOrEqual due day,
    holdsDueDate_greaterThan_and_lessOrEqual due day, holdsDueDate_lessOrEqual due day,
    holdsDueDate_greaterOrEqual_eq_or due day⟩

/-- A due date one microsecond behind midnight in a frame east of the clock's, on the day
that is already tomorrow there. -/
theorem FieldFilter.exists_passes_greaterThan_and_lessOrEqual :
    ∃ (task : Task) (due : DateTime) (day : Date) (now : DateTime),
      task.dueDate = some due ∧
        resolveDay (folded "Today") due.zone now = .ok (some day) ∧ now.date ≠ day ∧
        ({ field := .dueDate, comparison := .greaterThan, value := "Today" } :
          FieldFilter).passes task [] now = .ok true ∧
        ({ field := .dueDate, comparison := .lessOrEqual, value := "Today" } :
          FieldFilter).passes task [] now = .ok true := by
  let day : Date := ⟨2026, 3, 1, by decide⟩
  let due : DateTime :=
    { date := day, time := ⟨0, 0, 0, 1, by decide⟩, zone := some { offset := ⟨19800, by decide⟩ } }
  let now : DateTime :=
    { date := ⟨2026, 2, 28, by decide⟩, time := ⟨20, 0, 0, 0, by decide⟩
      zone := some { offset := .zero } }
  let task : Task := { id := "1", title := "Pay rent", dueDate := some due }
  have hdue : task.dueDate = some due := rfl
  have hday : resolveDay (folded "Today") due.zone now = .ok (some day) := by
    decide +kernel
  obtain ⟨holds, hpasses, -, -, -, hboth, -⟩ :=
    passes_dueDate_byDay [] hdue hday
  have htrue := hboth.mpr ⟨rfl, by decide⟩
  rw [Bool.and_eq_true] at htrue
  refine ⟨task, due, day, now, hdue, hday, by decide, ?_, ?_⟩
  · rw [hpasses, htrue.1]
  · rw [hpasses, htrue.2]

end TaskQuery
