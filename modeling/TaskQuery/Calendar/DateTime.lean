import TaskQuery.Calendar.Date
import TaskQuery.Number.Numeral

/-!
# Moments

A moment is a calendar day and a time of day, with or without a time zone.  Without
one it is local time, and local time is universal time.  Two moments in one frame,
that is both in the same zone or both local, are ordered as their clocks show them.

A zone has an offset that does not change.  This file has the clocks of moments, the
messages about parts that are impossible, and the text that is written of a moment.
-/

namespace TaskQuery

/-! ### Time of day -/

/-- Whether four numbers are the hour, minute, second and microsecond of a time of
day. -/
def IsTimeOfDay (hour minute second microsecond : Nat) : Prop :=
  hour < 24 ∧ minute < 60 ∧ second < 60 ∧ microsecond < 1000000

instance (hour minute second microsecond : Nat) :
    Decidable (IsTimeOfDay hour minute second microsecond) :=
  inferInstanceAs (Decidable (_ ∧ _ ∧ _ ∧ _))

/-- A time of day. -/
structure TimeOfDay where
  hour : Nat
  minute : Nat
  second : Nat
  microsecond : Nat
  valid : IsTimeOfDay hour minute second microsecond
deriving DecidableEq

namespace TimeOfDay

/-- The time of day with the given parts, if there is one. -/
def of? (hour minute second microsecond : Nat) : Option TimeOfDay :=
  if valid : IsTimeOfDay hour minute second microsecond then
    some ⟨hour, minute, second, microsecond, valid⟩
  else none

/-- The start of a day. -/
def midnight : TimeOfDay :=
  ⟨0, 0, 0, 0, by decide⟩

/-- The whole seconds since midnight. -/
def seconds (time : TimeOfDay) : Nat :=
  (time.hour * 60 + time.minute) * 60 + time.second

/-- The microseconds since midnight. -/
def microseconds (time : TimeOfDay) : Nat :=
  time.seconds * 1000000 + time.microsecond

/-- The same microsecond in another second of the day. -/
def atSecond (time : TimeOfDay) (seconds : Nat) : TimeOfDay where
  hour := seconds / 3600 % 24
  minute := seconds / 60 % 60
  second := seconds % 60
  microsecond := time.microsecond
  valid := by
    have := time.valid.2.2.2
    exact ⟨by omega, by omega, by omega, this⟩

end TimeOfDay

/-! ### Offsets -/

/-- An offset from universal time, shorter than a day. -/
structure UtcOffset where
  seconds : Int
  bounded : -86400 < seconds ∧ seconds < 86400
deriving DecidableEq

/-- The offset of so many seconds, if it is shorter than a day. -/
def UtcOffset.of? (seconds : Int) : Option UtcOffset :=
  if bounded : -86400 < seconds ∧ seconds < 86400 then some ⟨seconds, bounded⟩ else none

/-- Universal time itself. -/
def UtcOffset.zero : UtcOffset :=
  ⟨0, by decide⟩

/-- A time zone.  Zones with one offset may be different zones, which the tag tells
apart; what is written of a moment does not show it. -/
structure Zone where
  offset : UtcOffset
  tag : Nat := 0
deriving DecidableEq

/-! ### Moments -/

/-- A moment, with a time zone if it is not local time. -/
structure DateTime where
  date : Date
  time : TimeOfDay
  zone : Option Zone := none
deriving DecidableEq

namespace DateTime

/-- The offset of a moment from universal time, if it is known. -/
def offset (moment : DateTime) : Option UtcOffset :=
  moment.zone.map (·.offset)

/-- The start of a day, as local time. -/
def startOf (date : Date) : DateTime :=
  { date, time := .midnight }

/-- The place of a moment among the moments of its frame. -/
def clock (moment : DateTime) : Nat :=
  moment.date.place * 86400000000 + moment.time.microseconds

/-- Moves the clock by less than a day, if the result is a calendar day. -/
def shift? (moment : DateTime) (seconds : Int) : Option DateTime :=
  let total := moment.time.seconds + seconds
  if total < 0 then
    moment.date.previous?.map fun date =>
      { moment with date, time := moment.time.atSecond (total + 86400).toNat }
  else if 86400 ≤ total then
    moment.date.next?.map fun date =>
      { moment with date, time := moment.time.atSecond (total - 86400).toNat }
  else some { moment with time := moment.time.atSecond total.toNat }

/-- The seconds that a frame is ahead of universal time. -/
def frameSeconds : Option Zone → Int
  | some zone => zone.offset.seconds
  | none => 0

/-- The moment as a frame's clock shows it.  Local time is taken as it stands, and so is
a moment that is in the zone of the frame already.  Any other moment goes to universal
time first and from there to the frame, and both have to be calendar days. -/
def inFrame? (moment : DateTime) (frame : Option Zone) : Option DateTime :=
  match moment.zone with
  | none => some { moment with zone := frame }
  | some zone =>
    if frame = some zone then some moment
    else
      (moment.shift? (-zone.offset.seconds)).bind fun universal =>
        (universal.shift? (frameSeconds frame)).map fun shown => { shown with zone := frame }

end DateTime

/-! ### Reading moments

Moments are also read from ISO 8601 texts, by a reader that a run is given.  `DateTime.ofIso` is
one. -/

/-- Why an ISO text names no moment. -/
inductive IsoFault where
  /-- The text has none of the forms, or names no calendar day or time. -/
  | malformed
  /-- The text names a day after the year 9999. -/
  | outOfRange
deriving DecidableEq

/-- A reader of ISO 8601 texts. -/
abbrev MomentReader := List Char → Except IsoFault DateTime

/-!
## Naming the part that is out of range

When the parts of a day or a time come from a text that has already been
recognised as one, `Date.checked`, `TimeOfDay.checked` and `UtcOffset.checked` say
which part is impossible.
-/

/-- The first impossible part of a day, a time or an offset. -/
inductive CalendarFault where
  | year (value : Nat)
  | month
  | day
  | hour
  | minute
  | second
  /-- An offset of a day or more, in seconds. -/
  | offset (seconds : Int)
deriving DecidableEq

/-- A time span as whole days and the seconds that are left, which are not
negative. -/
def spanText (seconds : Int) : String :=
  let days := seconds.fdiv 86400
  let rest := seconds.fmod 86400
  let parts :=
    (if days = 0 then [] else ["days=" ++ toString days])
      ++ (if rest = 0 then [] else ["seconds=" ++ toString rest])
  "datetime.timedelta(" ++ (if parts.isEmpty then "0" else ", ".intercalate parts) ++ ")"

/-- What is wrong, in words. -/
def CalendarFault.message : CalendarFault → String
  | .year value => "year " ++ toString value ++ " is out of range"
  | .month => "month must be in 1..12"
  | .day => "day is out of range for month"
  | .hour => "hour must be in 0..23"
  | .minute => "minute must be in 0..59"
  | .second => "second must be in 0..59"
  | .offset seconds =>
    "offset must be a timedelta strictly between -timedelta(hours=24) and timedelta(hours=24), not "
      ++ spanText seconds ++ "."

/-- The calendar day with the given parts, or the part that is impossible. -/
def Date.checked (year month day : Nat) : Except CalendarFault Date :=
  match Date.of? year month day with
  | some date => .ok date
  | none =>
    if year < 1 ∨ 9999 < year then .error (.year year)
    else if month < 1 ∨ 12 < month then .error .month
    else .error .day

/-- The time of day with the given parts, or the part that is impossible.  The
microsecond is to be below a million. -/
def TimeOfDay.checked (hour minute second microsecond : Nat) : Except CalendarFault TimeOfDay :=
  match TimeOfDay.of? hour minute second microsecond with
  | some time => .ok time
  | none =>
    if 24 ≤ hour then .error .hour
    else if 60 ≤ minute then .error .minute
    else .error .second

/-- The offset of so many seconds, if it is shorter than a day. -/
def UtcOffset.checked (seconds : Int) : Except CalendarFault UtcOffset :=
  match UtcOffset.of? seconds with
  | some offset => .ok offset
  | none => .error (.offset seconds)

/-!
## Writing days and moments

A day is written `YYYY-MM-DD`.  A moment is its day, a `T` (or a space), the time as
`HH:MM:SS`, six digits of a second if the microseconds are not zero, and the offset
as a sign with `HH:MM`, and `:SS` if it is not a whole number of minutes.
-/

open Number

/-- The decimal digits of a number, with zeros in front to reach `width`. -/
def paddedNumber (width n : Nat) : List Char :=
  let digits := Nat.toDigits 10 n
  List.replicate (width - digits.length) '0' ++ digits

/-- A day as `YYYY-MM-DD`. -/
def Date.isoChars (date : Date) : List Char :=
  paddedNumber 4 date.year ++ '-' :: paddedNumber 2 date.month ++ '-' :: paddedNumber 2 date.day

/-- A day as `YYYY-MM-DD`, the year without zeros in front. -/
def Date.plainChars (date : Date) : List Char :=
  paddedNumber 1 date.year ++ '-' :: paddedNumber 2 date.month ++ '-' :: paddedNumber 2 date.day

/-- A time of day as `HH:MM:SS`, with six more digits unless they are zero. -/
def TimeOfDay.isoChars (time : TimeOfDay) : List Char :=
  paddedNumber 2 time.hour ++ ':' :: paddedNumber 2 time.minute ++ ':' :: paddedNumber 2 time.second
    ++ (if time.microsecond = 0 then [] else '.' :: paddedNumber 6 time.microsecond)

/-- An offset as a sign, hours and minutes, and seconds unless they are zero. -/
def UtcOffset.isoChars (offset : UtcOffset) : List Char :=
  let size := offset.seconds.natAbs
  (if offset.seconds < 0 then '-' else '+') :: paddedNumber 2 (size / 3600)
    ++ ':' :: paddedNumber 2 (size / 60 % 60)
    ++ (if size % 60 = 0 then [] else ':' :: paddedNumber 2 (size % 60))

namespace DateTime

/-- A moment with a separator between day and time. -/
def isoChars (separator : Char) (moment : DateTime) : List Char :=
  moment.date.isoChars ++ separator :: moment.time.isoChars
    ++ (match moment.offset with
      | none => []
      | some offset => offset.isoChars)

/-- A moment as text. -/
def isoText (moment : DateTime) : String :=
  String.ofList (moment.isoChars 'T')

end DateTime

end TaskQuery
