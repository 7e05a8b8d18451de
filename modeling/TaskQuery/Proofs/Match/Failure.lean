import TaskQuery.Match
import TaskQuery.Proofs.Calendar.Frame

/-!
# When matching has no answer

A value that cannot be read makes its filter fail, and so does a missing attribute.  There
is one case without an answer, a day named relative to the clock that lies outside the
years 1 to 9999, and this file says exactly when it occurs (`Query.Undecided`).

## Strategy

The condition on the clock is stated on numbers of seconds and days
(`RelativeDay.OutOfRange`), and `resolveDay_eq_error_iff` shows that the moves of the clock
and the step to the neighbouring day fail exactly then.  One filter fails only through its
day (`FieldFilter.passes_eq_error_iff`), and a list of filters fails at the first that
does not pass (`passesFilters_eq_error_iff`, by induction on the list).
-/

namespace TaskQuery

open Text DateTime

/-! ## Days named by a word -/

namespace RelativeDay

/-- The word for a day. -/
def word : RelativeDay → List Char
  | today => "today".toList
  | tomorrow => "tomorrow".toList
  | yesterday => "yesterday".toList

/-- How many days a day lies after the day of the clock. -/
def shift : RelativeDay → ℤ
  | today => 0
  | tomorrow => 1
  | yesterday => -1

theorem ofValue?_eq_some_iff {value : List Char} {day : RelativeDay} :
    ofValue? value = some day ↔ value = day.word := by
  constructor
  · intro hread
    unfold ofValue? at hread
    split_ifs at hread with htoday htomorrow hyesterday
    · obtain rfl := Option.some.inj hread
      exact htoday
    · obtain rfl := Option.some.inj hread
      exact htomorrow
    · obtain rfl := Option.some.inj hread
      exact hyesterday
  · rintro rfl
    cases day <;> decide

/-- A day is missing exactly if its number is that of no day. -/
theorem from?_eq_none_iff {date : Date} {day : RelativeDay} :
    day.from? date = none ↔ ¬ IsDayNumber (date.ordinal + day.shift) := by
  have hfirst := date.one_le_ordinal
  have hlast := date.ordinal_le
  rw [isDayNumber_iff]
  cases day with
  | today =>
      have hsome : from? date today = some date := rfl
      rw [hsome, shift]
      exact iff_of_false (by simp) (not_not_intro (by omega))
  | tomorrow =>
      have hnext : from? date tomorrow = date.next? := rfl
      rw [hnext, Date.next?_eq_none_iff, shift]
      omega
  | yesterday =>
      have hprevious : from? date yesterday = date.previous? := rfl
      rw [hprevious, Date.previous?_eq_none_iff, shift]
      omega

/-- The clock `now` names no day of the years 1 to 9999 for a due date in a frame.  A clock
without zone is taken as it stands.  One with a zone goes to universal time and on to the
frame, where local time is universal time; both have to show a calendar day, and the named
day has to be one.  A clock in the zone of the frame itself is there already and does not go
by universal time. -/
def OutOfRange (day : RelativeDay) (now : DateTime) (frame : Option Zone) : Prop :=
  match now.zone with
  | none => ¬ IsDayNumber (dayNumber now.clockSeconds + day.shift)
  | some zone =>
    (frame ≠ some zone ∧ ¬ IsDayNumber (dayNumber (now.universalSeconds zone.offset))) ∨
      ¬ IsDayNumber (dayNumber (now.universalSeconds zone.offset + frameSeconds frame)) ∨
      ¬ IsDayNumber (dayNumber (now.universalSeconds zone.offset + frameSeconds frame) + day.shift)

/-- The day of the clock or its neighbour is missing exactly if the numbers say so. -/
theorem outOfRange_iff {day : RelativeDay} {now : DateTime} {frame : Option Zone} :
    ((now.inFrame? frame).bind fun shown => day.from? shown.date) = none ↔
      day.OutOfRange now frame := by
  unfold OutOfRange
  cases hzone : now.zone with
  | none =>
      rw [inFrame?_of_local hzone, Option.bind_some, from?_eq_none_iff, dayNumber_clockSeconds]
  | some zone =>
      cases hshown : now.inFrame? frame with
      | none =>
          rw [inFrame?_eq_none_iff hzone] at hshown
          exact iff_of_true rfl (hshown.imp_right Or.inl)
      | some shown =>
          have hclock := clockSeconds_of_inFrame? hzone hshown
          have hdays : ¬ (now.inFrame? frame = none) := by
            rw [hshown]
            simp
          rw [inFrame?_eq_none_iff hzone, not_or] at hdays
          dsimp only
          rw [Option.bind_some, from?_eq_none_iff, ← dayNumber_clockSeconds, hclock,
            or_iff_right hdays.1, or_iff_right hdays.2]

end RelativeDay

theorem resolveDay_eq_error_iff {value : List Char} {frame : Option Zone} {now : DateTime} :
    resolveDay value frame now = .error .dateOutOfRange ↔
      ∃ day : RelativeDay, value = day.word ∧ day.OutOfRange now frame := by
  unfold resolveDay
  cases hvalue : RelativeDay.ofValue? value with
  | none =>
      refine iff_of_false (by simp) ?_
      rintro ⟨day, hword, -⟩
      rw [RelativeDay.ofValue?_eq_some_iff.mpr hword] at hvalue
      simp at hvalue
  | some day =>
      have hword := RelativeDay.ofValue?_eq_some_iff.mp hvalue
      have hunique : (∃ other : RelativeDay, value = other.word ∧ other.OutOfRange now frame) ↔
          day.OutOfRange now frame := by
        constructor
        · rintro ⟨other, hother, hrange⟩
          have hsame := RelativeDay.ofValue?_eq_some_iff.mpr hother
          obtain rfl : day = other := Option.some.inj (hvalue.symm.trans hsame)
          exact hrange
        · exact fun hrange => ⟨day, hword, hrange⟩
      rw [hunique, ← RelativeDay.outOfRange_iff]
      dsimp only
      cases (now.inFrame? frame).bind fun shown => day.from? shown.date with
      | none => exact iff_of_true rfl rfl
      | some date => exact iff_of_false (by simp) (by simp)

/-! ## One filter -/

/-- A filter that cannot be decided: one on the due date whose value names a day out of
range, where there is a due date. -/
def FieldFilter.Undecided (filter : FieldFilter) (task : Task) (now : DateTime) : Prop :=
  filter.field = .dueDate ∧ ∃ (due : DateTime) (day : RelativeDay), task.dueDate = some due ∧
    folded filter.value = day.word ∧ day.OutOfRange now due.zone

variable {task : Task} {sections : List Section} {now : DateTime}

theorem FieldFilter.passes_eq_error_iff {filter : FieldFilter} :
    filter.passes task sections now = .error .dateOutOfRange ↔ filter.Undecided task now := by
  have hother (hfield : filter.field ≠ .dueDate) : ¬ filter.Undecided task now :=
    fun hundecided => hfield hundecided.1
  unfold passes
  cases hfield : filter.field with
  | title | description | priority | status =>
      exact iff_of_false (by simp) (hother (by rw [hfield]; decide))
  | amount | sectionTitle =>
      refine iff_of_false ?_ (hother (by rw [hfield]; decide))
      dsimp only
      split <;> simp
  | dueDate =>
      dsimp only
      cases hdue : task.dueDate with
      | none =>
          refine iff_of_false (by simp) ?_
          rintro ⟨-, due, day, hsome, -⟩
          rw [hdue] at hsome
          simp at hsome
      | some due =>
          have hresolve : filter.Undecided task now ↔
              resolveDay (folded filter.value) due.zone now = .error .dateOutOfRange := by
            rw [resolveDay_eq_error_iff]
            constructor
            · rintro ⟨-, other, day, hsome, hword, hrange⟩
              obtain rfl : due = other := Option.some.inj (hdue.symm.trans hsome)
              exact ⟨day, hword, hrange⟩
            · rintro ⟨day, hword, hrange⟩
              exact ⟨hfield, due, day, hdue, hword, hrange⟩
          rw [hresolve]
          dsimp only
          -- a day that is found, or none, decides the filter
          cases resolveDay (folded filter.value) due.zone now with
          | error fault =>
              cases fault
              exact iff_of_true rfl rfl
          | ok found => cases found <;> simp [bind, Except.bind, pure, Except.pure]

/-! ## A list of filters -/

/-- A list of filters has no answer exactly if the first that does not pass has none. -/
theorem passesFilters_eq_error_iff {filters : List FieldFilter} {fault : MatchFault} :
    passesFilters task sections now filters = .error fault ↔
      ∃ before filter after, filters = before ++ filter :: after ∧
        (∀ earlier ∈ before, earlier.passes task sections now = .ok true) ∧
        filter.passes task sections now = .error fault := by
  induction filters with
  | nil => simp [passesFilters]
  | cons first rest ih =>
      -- the filter without answer is the first, or it comes later and the first passes
      have hsplit : (∃ before filter after, first :: rest = before ++ filter :: after ∧
          (∀ earlier ∈ before, earlier.passes task sections now = .ok true) ∧
          filter.passes task sections now = .error fault) ↔
          first.passes task sections now = .error fault ∨
            first.passes task sections now = .ok true ∧
              passesFilters task sections now rest = .error fault := by
        rw [ih]
        constructor
        · rintro ⟨before, filter, after, heq, hbefore, hfilter⟩
          cases before with
          | nil =>
              obtain ⟨rfl, rfl⟩ := List.cons.inj heq
              exact Or.inl hfilter
          | cons earlier before =>
              obtain ⟨rfl, rfl⟩ := List.cons.inj heq
              exact Or.inr ⟨hbefore first (List.mem_cons_self ..), before, filter, after, rfl,
                fun other hother => hbefore other (List.mem_cons_of_mem _ hother), hfilter⟩
        · rintro (hfirst | ⟨hfirst, before, filter, after, rfl, hbefore, hfilter⟩)
          · exact ⟨[], first, rest, rfl, by simp, hfirst⟩
          · refine ⟨first :: before, filter, after, rfl, ?_, hfilter⟩
            exact List.forall_mem_cons.mpr ⟨hfirst, hbefore⟩
      rw [hsplit, passesFilters]
      cases first.passes task sections now with
      | error other => simp [bind, Except.bind]
      | ok passed => cases passed <;> simp [bind, Except.bind, pure, Except.pure]

/-! ## A query -/

/-- A query that cannot be decided for a task: the terms are satisfied, and the first
filter that does not pass cannot be decided. -/
def Query.Undecided (query : Query) (task : Task) (sections : List Section) (now : DateTime) :
    Prop :=
  satisfiesTerms query.terms (task.searchText sections) = true ∧
    ∃ before filter after, query.filters = before ++ filter :: after ∧
      (∀ earlier ∈ before, earlier.passes task sections now = .ok true) ∧
      filter.Undecided task now

/-- Early on the first day of year 1, at a place where universal time has no day yet, a clock is
read in its own zone and not in another one of the same offset. -/
example :
    let zone : Zone := { offset := ⟨3600, by decide⟩ }
    let due : DateTime :=
      { date := ⟨1, 1, 1, by decide⟩, time := ⟨12, 0, 0, 0, by decide⟩, zone }
    let now : DateTime :=
      { date := ⟨1, 1, 1, by decide⟩, time := ⟨0, 30, 0, 0, by decide⟩, zone }
    let query : Query :=
      { filters := [{ field := .dueDate, comparison := .equals, value := "today" }] }
    let task : Task := { id := "1", title := "Pay rent", dueDate := due }
    query.matches task [] now = .ok true ∧
      query.matches task [] { now with zone := some { zone with tag := 1 } } =
        .error .dateOutOfRange := by
  decide +kernel

/-- On the last day of the year 9999 there is no tomorrow. -/
example (due : DateTime) :
    ({ filters := [{ field := .dueDate, comparison := .contains, value := "Tomorrow" }] } :
        Query).matches { id := "1", title := "Pay rent", dueDate := some due } []
      (.startOf ⟨9999, 12, 31, by decide⟩) = .error .dateOutOfRange := by
  rfl

end TaskQuery
