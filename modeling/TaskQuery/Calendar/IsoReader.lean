import TaskQuery.Calendar.DateTime
import TaskQuery.Number.Numeral

/-!
# Reading ISO 8601 text

A due date is a day in one of the forms

* `YYYY`, `YYYY-MM`, `YYYY-MM-DD` or `YYYYMMDD`,
* `YYYY-Www`, `YYYYWww`, `YYYY-Www-D` or `YYYYWwwD`, a numbered week,
* `YYYY-DDD` or `YYYYDDD`, a numbered day of the year,

and after a full day, any one character and a time of day: `HH`, `HH:MM`, `HHMM`,
`HH:MM:SS` or `HHMMSS`, then a fraction of a second after a point or comma, of which
six digits count, then an offset: `Z`, `±HH`, `±HHMM` or `±HH:MM`.  Hour 24 stands for
the midnight that ends the day.

The first group of day forms is tried first; the others are tried only if the
text does not have one of these forms at all.  Each number has exactly as many
digits as its form shows.

Other readers take some texts that are refused here, such as those with a minute of one
digit.  So a snapshot is read with any `MomentReader`, and this is the one that the program
is run with.
-/

namespace TaskQuery

open Number

namespace IsoReader

/-- The outcome of a step that can only find a text malformed. -/
def required {α : Type} : Option α → Except IsoFault α
  | some value => .ok value
  | none => .error .malformed

/-! ## Days -/

/-- Takes a hyphen off the front, and says whether there was one. -/
def takeHyphen : List Char → Bool × List Char
  | '-' :: rest => (true, rest)
  | text => (false, text)

/-- The year, month and day of the common forms, not yet known to be a calendar
day, and the text after them. -/
def commonDay? (text : List Char) : Option ((Nat × Nat × Nat) × List Char) := do
  let (year, rest) ← takeNumber? 4 text
  if rest.isEmpty then pure ((year, 1, 1), [])
  else
    let (hyphens, rest) := takeHyphen rest
    let (month, rest) ← takeNumber? 2 rest
    if rest.isEmpty then
      if hyphens then pure ((year, month, 1), []) else none
    else
      let (again, rest) := if hyphens then takeHyphen rest else (false, rest)
      if again ≠ hyphens then none
      else
        let (day, rest) ← takeNumber? 2 rest
        pure ((year, month, day), rest)

/-- The day of a numbered week, after the `W`. -/
def weekDay (year : Nat) (hyphens : Bool) (text : List Char) :
    Except IsoFault (Date × List Char) := do
  let (week, rest) ← required (takeNumber? 2 text)
  let (day, rest) ←
    if rest.isEmpty then pure (1, [])
    else
      let (again, rest) := takeHyphen rest
      if again ≠ hyphens then throw .malformed
      else required (takeNumber? 1 rest)
  if week < 1 ∨ 53 < week ∨ day < 1 ∨ 7 < day then throw .malformed
  else
    let _ ← required (Date.of? year 1 4)
    match Date.ofWeek? year week day with
    | some date => pure (date, rest)
    | none => throw .outOfRange

/-- A numbered day of a year. -/
def yearDay (year : Nat) (text : List Char) : Except IsoFault (Date × List Char) := do
  let (number, rest) ← required (takeNumber? 3 text)
  let _ ← required (Date.of? year 1 1)
  if number < 1 ∨ daysInYear year < number then throw .malformed
  else
    let date ← required (Date.ofYearDay? year (number - 1))
    pure (date, rest)

/-- The day of the forms with a week or with a day of the year. -/
def uncommonDay (text : List Char) : Except IsoFault (Date × List Char) := do
  let (year, rest) ← required (takeNumber? 4 text)
  let (hyphens, rest) := takeHyphen rest
  match rest with
  | 'W' :: rest => weekDay year hyphens rest
  | _ => yearDay year rest

/-! ## Times -/

/-- The parts of a time as they are read, not yet known to be a time of day. -/
structure Clock where
  hour : Nat := 0
  minute : Nat := 0
  second : Nat := 0
  microsecond : Nat := 0
  offset : Option UtcOffset := none

/-- Whether an offset begins with a character. -/
def marksOffset (c : Char) : Bool :=
  c == '-' || c == '+' || c == 'Z' || c == 'z'

/-- The hours and minutes of an offset, after its sign. -/
def offsetSpan? (text : List Char) : Option (Nat × Nat) := do
  let (hours, rest) ← takeNumber? 2 text
  let (minutes, rest) ←
    match rest with
    | [] => some (0, [])
    | ':' :: rest => takeNumber? 2 rest
    | rest => takeNumber? 2 rest
  if rest.isEmpty && decide (hours ≤ 23) && decide (minutes ≤ 59) then some (hours, minutes)
  else none

/-- The offset that a whole text writes. -/
def offset? (text : List Char) : Option UtcOffset :=
  match text with
  | ['Z'] => some .zero
  | ['z'] => some .zero
  | '+' :: span => do
    let (hours, minutes) ← offsetSpan? span
    UtcOffset.of? ((hours * 60 + minutes) * 60)
  | '-' :: span => do
    let (hours, minutes) ← offsetSpan? span
    UtcOffset.of? (-((hours * 60 + minutes) * 60))
  | _ => none

/-- Ends a time where the text ends or an offset begins, and reads `more`
otherwise. -/
def Clock.endOr (clock : Clock) (text : List Char)
    (more : List Char → Option Clock) : Option Clock :=
  match text with
  | [] => some clock
  | c :: _ =>
    if marksOffset c then (offset? text).map fun offset => { clock with offset := some offset }
    else more text

/-- Reads the fraction of a second. -/
def fraction? (clock : Clock) : List Char → Option Clock
  | [] => none
  | mark :: rest =>
    let (digits, rest) := cutDigits rest
    if (mark ≠ '.' ∧ mark ≠ ',') ∨ digits.isEmpty then none
    else
      let kept := digits.take 6
      Clock.endOr { clock with microsecond := digitsValue kept * Nat.pow 10 (6 - kept.length) } rest
        fun _ => none

/-- Reads the second, after a colon if one stands after the hour. -/
def second? (colons : Bool) (clock : Clock) (text : List Char) : Option Clock := do
  let text ←
    if colons then
      match text with
      | ':' :: rest => some rest
      | _ => none
    else some text
  let (second, rest) ← takeNumber? 2 text
  let clock := { clock with second }
  clock.endOr rest (fraction? clock)

/-- Reads the minute, which a colon may precede. -/
def minute? (clock : Clock) (text : List Char) : Option Clock := do
  let (colons, text) :=
    match text with
    | ':' :: rest => (true, rest)
    | _ => (false, text)
  let (minute, rest) ← takeNumber? 2 text
  let clock := { clock with minute }
  clock.endOr rest (second? colons clock)

/-- Reads a time, which has at least two characters. -/
def clock? (text : List Char) : Option Clock :=
  if text.length < 2 then none
  else
    Clock.endOr {} text fun text => do
      let (hour, rest) ← takeNumber? 2 text
      let clock : Clock := { hour }
      clock.endOr rest (minute? clock)

/-! ## Moments -/

/-- Whether a time is the midnight that ends a day. -/
def Clock.endsDay (clock : Clock) : Bool :=
  clock.hour == 24

/-- The time of day of its parts; the midnight that ends a day is that of the next
day. -/
def Clock.timeOfDay? (clock : Clock) : Option TimeOfDay :=
  if clock.endsDay then
    if clock.minute = 0 ∧ clock.second = 0 ∧ clock.microsecond = 0 then some .midnight else none
  else TimeOfDay.of? clock.hour clock.minute clock.second clock.microsecond

/-- A moment from a day and the text after it. -/
def moment (day : Option Date) (text : List Char) : Except IsoFault DateTime := do
  let clock ←
    match text with
    | [] => pure {}
    | _ :: time => required (clock? time)
  let time ← required clock.timeOfDay?
  let date ← required day
  let zone := clock.offset.map fun offset => ({ offset } : Zone)
  if clock.endsDay then
    match date.next? with
    | some date => pure { date, time, zone }
    | none => throw .outOfRange
  else pure { date, time, zone }

end IsoReader

/-- The moment that an ISO text names. -/
def DateTime.ofIso (text : List Char) : Except IsoFault DateTime :=
  if !text.all (·.toNat < 0x80) then .error .malformed
  else
    match IsoReader.commonDay? text with
    | some ((year, month, day), rest) => IsoReader.moment (Date.of? year month day) rest
    | none => do
      let (date, rest) ← IsoReader.uncommonDay text
      IsoReader.moment (some date) rest

end TaskQuery
