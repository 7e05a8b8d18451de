import TaskQuery.Calendar.DateTime
import TaskQuery.Proofs.Calendar.DayNumber

/-!
# Clocks in other frames

A moment is left alone in its own zone.  In another frame it is shown by moving its clock
twice by less than a day, to universal time and on to the frame.  Each move changes the day
to a neighbour if it has to.  In terms of the seconds that a clock shows, counted over all
days (`DateTime.clockSeconds`), a move adds seconds, and it fails exactly if the day of the
sum is no day of the years 1 to 9999 (`shift?_spec`).  `inFrame?_eq_none_iff` and
`clockSeconds_of_inFrame?` say the same of both moves together.
-/

namespace TaskQuery

namespace TimeOfDay

theorem seconds_lt (time : TimeOfDay) : time.seconds < 86400 := by
  obtain ⟨hhour, hminute, hsecond, -⟩ := time.valid
  unfold seconds
  omega

theorem seconds_atSecond (time : TimeOfDay) {seconds : ℕ} (hlt : seconds < 86400) :
    (time.atSecond seconds).seconds = seconds := by
  simp only [TimeOfDay.seconds, atSecond]
  omega

end TimeOfDay

theorem UtcOffset.neg_seconds_bounded (offset : UtcOffset) :
    -86400 < -offset.seconds ∧ -offset.seconds < 86400 := by
  have := offset.bounded
  omega

namespace DateTime

/-! ## Seconds and days -/

/-- The seconds that a clock shows, counted from the start of the day before the first day
of year 1. -/
def clockSeconds (moment : DateTime) : ℤ :=
  moment.date.ordinal * 86400 + moment.time.seconds

/-- The number of the day on which a clock shows so many seconds. -/
def dayNumber (seconds : ℤ) : ℤ :=
  seconds / 86400

theorem dayNumber_clockSeconds (moment : DateTime) :
    dayNumber moment.clockSeconds = moment.date.ordinal := by
  have := moment.time.seconds_lt
  unfold dayNumber clockSeconds
  omega

theorem isDayNumber_dayNumber_clockSeconds (moment : DateTime) :
    IsDayNumber (dayNumber moment.clockSeconds) :=
  ⟨moment.date, moment.dayNumber_clockSeconds.symm⟩

/-! ## One move of the clock -/

/-- Moving the clock adds the seconds and leaves the zone alone, and it fails if that
leads to no day. -/
theorem shift?_spec (moment : DateTime) {seconds : ℤ}
    (hsmall : -86400 < seconds ∧ seconds < 86400) :
    match moment.shift? seconds with
    | some shown => shown.clockSeconds = moment.clockSeconds + seconds ∧
        shown.zone = moment.zone
    | none => ¬ IsDayNumber (dayNumber (moment.clockSeconds + seconds)) := by
  have hlt := moment.time.seconds_lt
  unfold shift?
  dsimp only
  by_cases hbefore : (moment.time.seconds : ℤ) + seconds < 0
  · rw [if_pos hbefore]
    cases hdate : moment.date.previous? with
    | none =>
        rw [Date.previous?_eq_none_iff] at hdate
        show ¬ IsDayNumber _
        rw [isDayNumber_iff]
        unfold dayNumber clockSeconds
        omega
    | some date =>
        have hordinal := Date.ordinal_of_previous? hdate
        have htime := moment.time.seconds_atSecond
          (show (moment.time.seconds + seconds + 86400).toNat < 86400 by omega)
        refine ⟨?_, rfl⟩
        simp only [clockSeconds, htime]
        omega
  · rw [if_neg hbefore]
    by_cases hafter : 86400 ≤ (moment.time.seconds : ℤ) + seconds
    · rw [if_pos hafter]
      cases hdate : moment.date.next? with
      | none =>
          rw [Date.next?_eq_none_iff] at hdate
          show ¬ IsDayNumber _
          rw [isDayNumber_iff]
          unfold dayNumber clockSeconds
          omega
      | some date =>
          have hordinal := Date.ordinal_of_next? hdate
          have htime := moment.time.seconds_atSecond
            (show (moment.time.seconds + seconds - 86400).toNat < 86400 by omega)
          refine ⟨?_, rfl⟩
          simp only [clockSeconds, htime]
          omega
    · rw [if_neg hafter]
      have htime := moment.time.seconds_atSecond
        (show (moment.time.seconds + seconds).toNat < 86400 by omega)
      refine ⟨?_, rfl⟩
      simp only [clockSeconds, htime]
      omega

theorem clockSeconds_of_shift? {moment shown : DateTime} {seconds : ℤ}
    (hsmall : -86400 < seconds ∧ seconds < 86400) (hshown : moment.shift? seconds = some shown) :
    shown.clockSeconds = moment.clockSeconds + seconds := by
  have hspec := moment.shift?_spec hsmall
  rw [hshown] at hspec
  exact hspec.1

theorem shift?_eq_none_iff {moment : DateTime} {seconds : ℤ}
    (hsmall : -86400 < seconds ∧ seconds < 86400) :
    moment.shift? seconds = none ↔
      ¬ IsDayNumber (dayNumber (moment.clockSeconds + seconds)) := by
  have hspec := moment.shift?_spec hsmall
  cases hshift : moment.shift? seconds with
  | none =>
      rw [hshift] at hspec
      exact iff_of_true rfl hspec
  | some shown =>
      have hday := shown.isDayNumber_dayNumber_clockSeconds
      rw [clockSeconds_of_shift? hsmall hshift] at hday
      exact iff_of_false (by simp) (not_not_intro hday)

/-! ## Another frame -/

/-- The seconds that universal time shows at a moment with an offset. -/
def universalSeconds (moment : DateTime) (offset : UtcOffset) : ℤ :=
  moment.clockSeconds - offset.seconds

theorem frameSeconds_bounded (frame : Option Zone) :
    -86400 < frameSeconds frame ∧ frameSeconds frame < 86400 := by
  cases frame with
  | none => decide
  | some zone => exact zone.offset.bounded

variable {moment shown : DateTime} {zone : Zone} {frame : Option Zone}

/-- Local time is taken as it stands. -/
theorem inFrame?_of_local (hlocal : moment.zone = none) (frame : Option Zone) :
    moment.inFrame? frame = some { moment with zone := frame } := by
  unfold inFrame?
  rw [hlocal]

/-- A moment is left alone in its own zone. -/
theorem inFrame?_zone (hzone : moment.zone = some zone) :
    moment.inFrame? moment.zone = some moment := by
  unfold inFrame?
  rw [hzone]
  exact if_pos rfl

/-- Into another zone, or local time, the clock is moved twice. -/
theorem inFrame?_of_ne (hzone : moment.zone = some zone) (hframe : frame ≠ some zone) :
    moment.inFrame? frame = (moment.shift? (-zone.offset.seconds)).bind fun universal =>
      (universal.shift? (frameSeconds frame)).map fun shown => { shown with zone := frame } := by
  unfold inFrame?
  rw [hzone]
  exact if_neg hframe

theorem universalSeconds_add_frameSeconds (moment : DateTime) (zone : Zone) :
    moment.universalSeconds zone.offset + frameSeconds (some zone) = moment.clockSeconds :=
  Int.sub_add_cancel ..

/-- A moment with a zone cannot be shown in a frame if its day in universal time, provided that
the frame is another one, or its day in the frame is no day of the calendar. -/
theorem inFrame?_eq_none_iff (hzone : moment.zone = some zone) :
    moment.inFrame? frame = none ↔
      (frame ≠ some zone ∧ ¬ IsDayNumber (dayNumber (moment.universalSeconds zone.offset))) ∨
        ¬ IsDayNumber (dayNumber (moment.universalSeconds zone.offset + frameSeconds frame)) := by
  by_cases hframe : frame = some zone
  · subst hframe
    have hday := moment.isDayNumber_dayNumber_clockSeconds
    rw [← hzone, inFrame?_zone hzone, hzone, universalSeconds_add_frameSeconds]
    exact iff_of_false (by simp) (not_or.mpr ⟨fun hother => hother.1 rfl, not_not_intro hday⟩)
  have hback := zone.offset.neg_seconds_bounded
  have huniversal : moment.clockSeconds + -zone.offset.seconds =
      moment.universalSeconds zone.offset := rfl
  rw [inFrame?_of_ne hzone hframe]
  cases hshift : moment.shift? (-zone.offset.seconds) with
  | none =>
      rw [shift?_eq_none_iff hback, huniversal] at hshift
      exact iff_of_true rfl (Or.inl ⟨hframe, hshift⟩)
  | some universal =>
      have hclock := clockSeconds_of_shift? hback hshift
      have hday := universal.isDayNumber_dayNumber_clockSeconds
      rw [huniversal] at hclock
      rw [hclock] at hday
      rw [Option.bind_some, Option.map_eq_none_iff,
        shift?_eq_none_iff (frameSeconds_bounded frame), hclock]
      exact (or_iff_right fun hother => hother.2 hday).symm

/-- In every frame in which it can be shown, its own zone included, a moment is as many seconds
from universal time as the frame. -/
theorem clockSeconds_of_inFrame? (hzone : moment.zone = some zone)
    (hshown : moment.inFrame? frame = some shown) :
    shown.clockSeconds = moment.universalSeconds zone.offset + frameSeconds frame := by
  by_cases hframe : frame = some zone
  · rw [hframe, ← hzone, inFrame?_zone hzone] at hshown
    obtain rfl := Option.some.inj hshown
    rw [hframe, universalSeconds_add_frameSeconds]
  have hback := zone.offset.neg_seconds_bounded
  rw [inFrame?_of_ne hzone hframe] at hshown
  obtain ⟨universal, huniversal, hmap⟩ := Option.bind_eq_some_iff.mp hshown
  obtain ⟨moved, hmoved, rfl⟩ := Option.map_eq_some_iff.mp hmap
  calc moved.clockSeconds
      = universal.clockSeconds + frameSeconds frame :=
        clockSeconds_of_shift? (frameSeconds_bounded frame) hmoved
    _ = moment.universalSeconds zone.offset + frameSeconds frame := by
        rw [clockSeconds_of_shift? hback huniversal]
        rfl

end DateTime

end TaskQuery
