import TaskQuery.Proofs.Calendar.DayText
import TaskQuery.Proofs.Match.DueDate
import TaskQuery.Proofs.Outcome
import TaskQuery.Query.Parser

/-!
# Days named relative to the clock

The words `today`, `tomorrow` and `yesterday` are resolved by moving a clock, and a written
day by reading its digits.  This file shows that the two lead to the same filter: a word
stands for the day that it names, written as `YYYY-MM-DD`
(`RelativeDay.standsFor_writtenDay`).

Which day that is depends on the clock only through the day that it shows in the frame of
the due date (`resolveDay_congr`), and two clocks that show one instant show the same day
there, or both cannot be shown (`DateTime.SameInstant.date_inFrame?`).  So of a clock with
a zone only the instant counts.

At the two ends of the calendar the zone counts too.  A clock that goes to another zone goes
by universal time, and a clock that is in the zone already does not.  So where universal time
shows no day of the years 1 to 9999, one clock may have an answer and the other none, unless
both of them are in the zone of the due date or neither is (`DateTime.AlikeIn`).
-/

namespace TaskQuery

open Text

namespace DateTime

/-! ## The day of a clock -/

/-- The number of the day that a clock shows in a frame.  A clock without zone is taken as
it stands. -/
def dayNumberIn (now : DateTime) (frame : Option Zone) : ℤ :=
  match now.zone with
  | none => dayNumber now.clockSeconds
  | some zone => dayNumber (now.universalSeconds zone.offset + frameSeconds frame)

theorem ordinal_of_inFrame? {now shown : DateTime} {frame : Option Zone}
    (hshown : now.inFrame? frame = some shown) :
    (shown.date.ordinal : ℤ) = now.dayNumberIn frame := by
  unfold dayNumberIn
  cases hzone : now.zone with
  | none =>
      rw [inFrame?_of_local hzone] at hshown
      obtain rfl := Option.some.inj hshown
      exact (dayNumber_clockSeconds now).symm
  | some zone =>
      rw [← dayNumber_clockSeconds, clockSeconds_of_inFrame? hzone hshown]

/-! ## Instants -/

/-- The microseconds that universal time shows at a moment with an offset. -/
def instant (moment : DateTime) (offset : UtcOffset) : ℤ :=
  moment.universalSeconds offset * 1000000 + moment.time.microsecond

/-- Two moments with zones that are one point in time. -/
def SameInstant (first second : DateTime) : Prop :=
  ∃ zone otherZone, first.zone = some zone ∧ second.zone = some otherZone ∧
    first.instant zone.offset = second.instant otherZone.offset

/-- Universal time shows a day of the years 1 to 9999 at a moment. -/
def HasUniversalDay (moment : DateTime) : Prop :=
  ∀ zone ∈ moment.zone, IsDayNumber (dayNumber (moment.universalSeconds zone.offset))

/-- Two clocks of one instant go to a frame in the same way: universal time shows a day then,
or both of the clocks are in the zone of the frame already, or neither is. -/
def AlikeIn (first second : DateTime) (frame : Option Zone) : Prop :=
  first.HasUniversalDay ∨ (first.zone = frame ↔ second.zone = frame)

theorem SameInstant.universalSeconds_eq {first second : DateTime} {zone otherZone : Zone}
    (hinstant : first.instant zone.offset = second.instant otherZone.offset) :
    first.universalSeconds zone.offset = second.universalSeconds otherZone.offset := by
  have := first.time.valid.2.2.2
  have := second.time.valid.2.2.2
  unfold instant at hinstant
  omega

/-- What one of two clocks of an instant cannot be shown in, the other cannot either. -/
theorem SameInstant.inFrame?_eq_none_iff {first second : DateTime}
    (hsame : first.SameInstant second) {frame : Option Zone} (halike : first.AlikeIn second frame) :
    first.inFrame? frame = none ↔ second.inFrame? frame = none := by
  obtain ⟨zone, otherZone, hfirst, hsecond, hinstant⟩ := hsame
  rw [DateTime.inFrame?_eq_none_iff hfirst, DateTime.inFrame?_eq_none_iff hsecond,
    ← universalSeconds_eq hinstant]
  refine or_congr_left (and_congr_left fun hmissing => not_congr ?_)
  rcases halike with hday | hzones
  · exact absurd (hday zone hfirst) hmissing
  · rwa [hfirst, hsecond, eq_comm, eq_comm (a := some otherZone)] at hzones

/-- Clocks of one instant show the same day in every frame in which both can be shown. -/
theorem SameInstant.date_eq {first second : DateTime} (hsame : first.SameInstant second)
    {frame : Option Zone} {shown other : DateTime} (hshown : first.inFrame? frame = some shown)
    (hother : second.inFrame? frame = some other) : shown.date = other.date := by
  obtain ⟨zone, otherZone, hfirst, hsecond, hinstant⟩ := hsame
  have hclock : shown.clockSeconds = other.clockSeconds := by
    rw [clockSeconds_of_inFrame? hfirst hshown, clockSeconds_of_inFrame? hsecond hother,
      universalSeconds_eq hinstant]
  have hordinal : (shown.date.ordinal : ℤ) = other.date.ordinal := by
    rw [← dayNumber_clockSeconds, ← dayNumber_clockSeconds, hclock]
  exact Date.ordinal_injective (by omega)

/-- Clocks of one instant that go to a frame in the same way show the same day there, or both
cannot be shown. -/
theorem SameInstant.date_inFrame? {first second : DateTime} (hsame : first.SameInstant second)
    {frame : Option Zone} (halike : first.AlikeIn second frame) :
    (first.inFrame? frame).map (·.date) = (second.inFrame? frame).map (·.date) := by
  have hnone := hsame.inFrame?_eq_none_iff halike
  cases hshown : first.inFrame? frame with
  | none => rw [hnone.mp hshown]
  | some shown =>
      cases hother : second.inFrame? frame with
      | none =>
          rw [hnone.mpr hother] at hshown
          cases hshown
      | some other => rw [Option.map_some, Option.map_some, hsame.date_eq hshown hother]

end DateTime

/-! ## Resolving a day -/

namespace RelativeDay

theorem ordinal_of_from? {relative : RelativeDay} {date day : Date}
    (hday : relative.from? date = some day) :
    (day.ordinal : ℤ) = date.ordinal + relative.shift := by
  cases relative with
  | today =>
      obtain rfl := Option.some.inj hday
      exact (add_zero _).symm
  | tomorrow =>
      have hnext := Date.ordinal_of_next? hday
      dsimp only [shift]
      omega
  | yesterday =>
      have hprevious := Date.ordinal_of_previous? hday
      dsimp only [shift]
      omega

/-- A written day is none of the words: it has no letters. -/
theorem ofValue?_isoChars (date : Date) : ofValue? date.isoChars = none := by
  cases hvalue : ofValue? date.isoChars with
  | none => rfl
  | some relative =>
      have hletters : relative.word.all (fun c => !Number.isDigit c && c != '-') = true := by
        cases relative <;> rfl
      have hnonempty : relative.word ≠ [] := by
        cases relative <;> decide
      obtain ⟨c, rest, hword⟩ := List.exists_cons_of_ne_nil hnonempty
      have hc : c ∈ relative.word := by
        rw [hword]
        exact List.mem_cons_self ..
      have hmem : c ∈ date.isoChars := by
        rw [ofValue?_eq_some_iff.mp hvalue]
        exact hc
      have hletter := List.all_eq_true.mp hletters c hc
      rcases Date.isDigit_or_eq_hyphen_of_mem_isoChars hmem with hdigit | rfl
      · simp [hdigit] at hletter
      · simp at hletter

/-- A word names the day of the clock or its neighbour. -/
theorem exists_resolveDay_eq {relative : RelativeDay} {now : DateTime}
    {frame : Option Zone} (hrange : ¬ relative.OutOfRange now frame) :
    ∃ today day : Date, (today.ordinal : ℤ) = now.dayNumberIn frame ∧
      (day.ordinal : ℤ) = today.ordinal + relative.shift ∧
      resolveDay relative.word frame now = .ok (some day) := by
  rw [← outOfRange_iff, ← ne_eq, Option.ne_none_iff_exists'] at hrange
  obtain ⟨day, hday⟩ := hrange
  obtain ⟨shown, hshown, hfrom⟩ := Option.bind_eq_some_iff.mp hday
  refine ⟨shown.date, day, DateTime.ordinal_of_inFrame? hshown, ordinal_of_from? hfrom, ?_⟩
  unfold resolveDay
  rw [ofValue?_eq_some_iff.mpr rfl]
  dsimp only
  rw [hday]

/-- All spellings of a word name the same day. -/
theorem folded_of_recased {relative : RelativeDay} {word : String}
    (hword : Recased (String.ofList relative.word) word) : folded word = relative.word := by
  have hfixed : fold relative.word = relative.word := by
    cases relative <;> decide
  calc folded word
      = folded (String.ofList relative.word) := by
        rw [← folded_caseless, hword.caseless_eq, folded_caseless]
    _ = relative.word := by rw [folded, String.toList_ofList, hfixed]

end RelativeDay

/-- A written day names itself, whatever the clock shows. -/
theorem resolveDay_isoChars (date : Date) (frame : Option Zone) (now : DateTime) :
    resolveDay (folded (String.ofList date.isoChars)) frame now = .ok (some date) := by
  rw [folded, String.toList_ofList, date.fold_isoChars, resolveDay,
    RelativeDay.ofValue?_isoChars]
  dsimp only
  rw [date.ofDayText?_isoChars]

/-- The clock counts only through the day that it shows in the frame. -/
theorem resolveDay_congr {now other : DateTime} {frame : Option Zone}
    (hdate : (now.inFrame? frame).map (·.date) = (other.inFrame? frame).map (·.date))
    (value : List Char) : resolveDay value frame now = resolveDay value frame other := by
  unfold resolveDay
  cases RelativeDay.ofValue? value with
  | none => rfl
  | some relative =>
      have hbind : ∀ moment : DateTime,
          ((moment.inFrame? frame).bind fun shown => relative.from? shown.date) =
            ((moment.inFrame? frame).map (·.date)).bind relative.from? := by
        intro moment
        cases moment.inFrame? frame <;> rfl
      dsimp only
      rw [hbind now, hbind other, hdate]

theorem resolveDay_of_sameInstant {now other : DateTime} (hsame : now.SameInstant other)
    {value : List Char} {frame : Option Zone} {found again : Option Date}
    (hfound : resolveDay value frame now = .ok found)
    (hagain : resolveDay value frame other = .ok again) : found = again := by
  unfold resolveDay at hfound hagain
  cases hvalue : RelativeDay.ofValue? value with
  | none =>
      simp only [hvalue] at hfound hagain
      exact Except.ok.inj (hfound.symm.trans hagain)
  | some relative =>
      simp only [hvalue] at hfound hagain
      -- a day was found from both clocks, so both can be shown in the frame
      split at hfound <;> split at hagain
      · rename_i hday _ _ hotherDay
        obtain ⟨shown, hshown, hfrom⟩ := Option.bind_eq_some_iff.mp hday
        obtain ⟨otherShown, hotherShown, hotherFrom⟩ := Option.bind_eq_some_iff.mp hotherDay
        rw [hsame.date_eq hshown hotherShown] at hfrom
        rw [← Except.ok.inj hfound, ← Except.ok.inj hagain, ← hfrom, hotherFrom]
      all_goals contradiction

/-! ## Matching at one instant

Two clocks of one instant never have different answers.  Whether there is an answer may only
differ where a clock leaves the years 1 to 9999 on its way by universal time and the other one
does not go that way. -/

/-- Two clocks that are not told apart by a task: they go to the frame of its due date, if it
has one, in the same way. -/
def Task.AlikeFor (task : Task) (now other : DateTime) : Prop :=
  ∀ due ∈ task.dueDate, now.AlikeIn other due.zone

variable {now other : DateTime} {task : Task}

theorem FieldFilter.passes_eq_of_sameInstant (hsame : now.SameInstant other)
    {filter : FieldFilter} {sections : List Section} {answer again : Bool}
    (hanswer : filter.passes task sections now = .ok answer)
    (hagain : filter.passes task sections other = .ok again) : answer = again := by
  cases hfield : filter.field with
  | dueDate =>
      cases hdue : task.dueDate with
      | none =>
          simp only [passes, hfield, hdue] at hanswer hagain
          exact Except.ok.inj (hanswer.symm.trans hagain)
      | some due =>
          simp only [passes, hfield, hdue] at hanswer hagain
          obtain ⟨found, hfound, hanswer⟩ := bind_eq_ok_iff.mp hanswer
          obtain ⟨foundAgain, hfoundAgain, hagain⟩ := bind_eq_ok_iff.mp hagain
          obtain rfl := resolveDay_of_sameInstant hsame hfound hfoundAgain
          exact Except.ok.inj (hanswer.symm.trans hagain)
  | _ =>
      -- the other fields do not look at the clock
      simp only [passes, hfield] at hanswer hagain
      exact Except.ok.inj (hanswer.symm.trans hagain)

theorem passesFilters_eq_of_sameInstant (hsame : now.SameInstant other)
    {filters : List FieldFilter} {sections : List Section} {answer again : Bool}
    (hanswer : passesFilters task sections now filters = .ok answer)
    (hagain : passesFilters task sections other filters = .ok again) : answer = again := by
  induction filters with
  | nil => exact Except.ok.inj (hanswer.symm.trans hagain)
  | cons filter filters ih =>
      obtain ⟨passed, hpassed, hanswer⟩ := bind_eq_ok_iff.mp hanswer
      obtain ⟨passedAgain, hpassedAgain, hagain⟩ := bind_eq_ok_iff.mp hagain
      obtain rfl := FieldFilter.passes_eq_of_sameInstant hsame hpassed hpassedAgain
      cases passed with
      | true => exact ih hanswer hagain
      | false => exact Except.ok.inj (hanswer.symm.trans hagain)

theorem Query.matches_eq_of_sameInstant (hsame : now.SameInstant other) {query : Query}
    {sections : List Section} {answer again : Bool}
    (hanswer : query.matches task sections now = .ok answer)
    (hagain : query.matches task sections other = .ok again) : answer = again := by
  unfold «matches» at hanswer hagain
  split at hanswer
  · rename_i hterms
    rw [if_pos hterms] at hagain
    exact passesFilters_eq_of_sameInstant hsame hanswer hagain
  · rename_i hterms
    rw [if_neg hterms] at hagain
    exact Except.ok.inj (hanswer.symm.trans hagain)

theorem FieldFilter.passes_of_sameInstant (hsame : now.SameInstant other)
    (halike : task.AlikeFor now other) (filter : FieldFilter) (sections : List Section) :
    filter.passes task sections now = filter.passes task sections other := by
  unfold passes
  cases hdue : task.dueDate with
  | none => rfl
  | some due =>
      have hresolve : ∀ value, resolveDay value due.zone now = resolveDay value due.zone other :=
        fun value => resolveDay_congr (hsame.date_inFrame? (halike due hdue)) value
      simp only [hresolve]

theorem passesFilters_of_sameInstant (hsame : now.SameInstant other)
    (halike : task.AlikeFor now other) (filters : List FieldFilter) (sections : List Section) :
    passesFilters task sections now filters = passesFilters task sections other filters := by
  induction filters with
  | nil => rfl
  | cons filter filters ih =>
      rw [passesFilters, passesFilters, filter.passes_of_sameInstant hsame halike, ih]

theorem Query.matches_of_sameInstant (hsame : now.SameInstant other)
    (halike : task.AlikeFor now other) (query : Query) (sections : List Section) :
    query.matches task sections now = query.matches task sections other := by
  unfold «matches»
  rw [passesFilters_of_sameInstant hsame halike]

/-! ## Words and written days -/

end TaskQuery
