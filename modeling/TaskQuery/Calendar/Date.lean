import TaskQuery.Text.Basic

/-!
# Calendar days

The days of the years 1 to 9999 of the Gregorian calendar.  A day outside these
years does not exist, so the day after the last one and the day before the first
one are missing.
-/

namespace TaskQuery

/-- Whether a year has 366 days. -/
def isLeapYear (year : Nat) : Bool :=
  year % 4 == 0 && (year % 100 != 0 || year % 400 == 0)

/-- The number of days in a month. -/
def daysInMonth (year month : Nat) : Nat :=
  if month = 2 then (if isLeapYear year then 29 else 28)
  else if month = 4 ∨ month = 6 ∨ month = 9 ∨ month = 11 then 30
  else 31

/-- The number of days in a year. -/
def daysInYear (year : Nat) : Nat :=
  if isLeapYear year then 366 else 365

/-- Whether three numbers are the year, month and day of a calendar day. -/
def IsCalendarDay (year month day : Nat) : Prop :=
  (1 ≤ year ∧ year ≤ 9999) ∧ (1 ≤ month ∧ month ≤ 12) ∧ (1 ≤ day ∧ day ≤ daysInMonth year month)

instance (year month day : Nat) : Decidable (IsCalendarDay year month day) :=
  inferInstanceAs (Decidable (_ ∧ _ ∧ _))

/-- A calendar day. -/
structure Date where
  year : Nat
  month : Nat
  day : Nat
  valid : IsCalendarDay year month day
deriving DecidableEq

namespace Date

/-- The calendar day with the given parts, if there is one. -/
def of? (year month day : Nat) : Option Date :=
  if valid : IsCalendarDay year month day then some ⟨year, month, day, valid⟩ else none

/-! ### Neighbours -/

/-- The day after; there is none after the last day of 9999. -/
def next? (date : Date) : Option Date :=
  (of? date.year date.month (date.day + 1)).or
    ((of? date.year (date.month + 1) 1).or (of? (date.year + 1) 1 1))

/-- The day before; there is none before the first day of year 1. -/
def previous? (date : Date) : Option Date :=
  (of? date.year date.month (date.day - 1)).or
    ((of? date.year (date.month - 1) (daysInMonth date.year (date.month - 1))).or
      (of? (date.year - 1) 12 31))

/-! ### Order -/

/-- The place of a day in the order of days.  Counting every month as 31 days
keeps the order. -/
def place (date : Date) : Nat :=
  (date.year * 12 + (date.month - 1)) * 31 + (date.day - 1)

/-! ### Counting days -/

/-- The days of all years before a year. -/
def daysBeforeYear (year : Nat) : Nat :=
  let past := year - 1
  past * 365 + past / 4 - past / 100 + past / 400

/-- The days of a year before a month. -/
def daysBeforeMonth (year month : Nat) : Nat :=
  (List.range' 1 (month - 1)).foldl (fun days earlier => days + daysInMonth year earlier) 0

/-- The number of a day, counted from 1 for the first day of year 1. -/
def ordinal (date : Date) : Nat :=
  daysBeforeYear date.year + daysBeforeMonth date.year date.month + date.day

/-- The day of the week, 1 for Monday to 7 for Sunday; the first day of year 1 is
a Monday. -/
def weekday (date : Date) : Nat :=
  (date.ordinal + 6) % 7 + 1

/-- The day that follows `index` others within the given months of a year. -/
def inMonths? (year index : Nat) : List Nat → Option Date
  | [] => none
  | month :: months =>
    if index < daysInMonth year month then of? year month (index + 1)
    else inMonths? year (index - daysInMonth year month) months

/-- The day that follows `index` others of the same year. -/
def ofYearDay? (year index : Nat) : Option Date :=
  inMonths? year index (List.range' 1 12)

/-- The day `shift` days after the first of a year, which may lie in the year
before or after. -/
def ofYearShift? (year : Nat) (shift : Int) : Option Date :=
  if shift < 0 then ofYearDay? (year - 1) (shift + daysInYear (year - 1)).toNat
  else if shift < daysInYear year then ofYearDay? year shift.toNat
  else ofYearDay? (year + 1) (shift.toNat - daysInYear year)

/-- A day of a numbered week.  Weeks begin on Mondays, and the first week of a
year is the one with the fourth of January. -/
def ofWeek? (year week weekday : Nat) : Option Date :=
  (of? year 1 4).bind fun fourth =>
    ofYearShift? year (4 - fourth.weekday + (week - 1 : Nat) * 7 + (weekday - 1 : Nat))

end Date

/-!
## Reading the day of a filter

A filter value names a day as `YYYY-MM-DD`: exactly four digits for the year, one or
two for the month and one or two for the day, and the first digit of the day may
be a space.  The digits of the year, and the second digit of the days 10 to 29,
may be those of any script.  Nothing may follow.
-/

open Text

/-- A digit from 1 to 9. -/
def nonzeroDigit? (c : Char) : Option Nat :=
  (asciiDigit? c).filter (· ≠ 0)

/-- The number that four digits of any script write. -/
def fourDigits? (a b c d : Char) : Option Nat := do
  let thousands ← decimalDigit? a
  let hundreds ← decimalDigit? b
  let tens ← decimalDigit? c
  let ones ← decimalDigit? d
  pure (((thousands * 10 + hundreds) * 10 + tens) * 10 + ones)

/-- Takes a month and the hyphen after it off the front of a text. -/
def takeMonth? : List Char → Option (Nat × List Char)
  | c :: '-' :: rest => (nonzeroDigit? c).map (·, rest)
  | '1' :: c :: '-' :: rest =>
    ((asciiDigit? c).filter (· ≤ 2)).map fun ones => (10 + ones, rest)
  | '0' :: c :: '-' :: rest => (nonzeroDigit? c).map (·, rest)
  | _ => none

/-- The day of the month that a whole text writes. -/
def monthDay? : List Char → Option Nat
  | [c] => nonzeroDigit? c
  | [first, second] =>
    if first = '3' then ((asciiDigit? second).filter (· ≤ 1)).map (30 + ·)
    else if first = '1' then (decimalDigit? second).map (10 + ·)
    else if first = '2' then (decimalDigit? second).map (20 + ·)
    else if first = '0' ∨ first = ' ' then nonzeroDigit? second
    else none
  | _ => none

/-- The calendar day that a text names. -/
def Date.ofDayText? : List Char → Option Date
  | a :: b :: c :: d :: '-' :: rest => do
    let year ← fourDigits? a b c d
    let (month, rest) ← takeMonth? rest
    let day ← monthDay? rest
    of? year month day
  | _ => none

end TaskQuery
