import TaskQuery.Calendar.DateTime
import TaskQuery.Number.Numeral
import TaskQuery.Value.Basic

/-!
# What plain scalars mean

A plain scalar, one without quotes, is null, a truth value, a number, a day or a
moment if it is written like one, and a string otherwise.  The forms are those of
YAML 1.1: truth values are also `yes`, `no`, `on` and `off`; whole numbers may be
binary, octal (with a zero in front), hexadecimal or in base sixty with colons; a
floating-point number has a point and a sign in its exponent; underscores may
stand in numbers.
-/

namespace TaskQuery

namespace Yaml

open Number

/-! ## Null and truth values -/

/-- The ways to write null; an empty place is null too. -/
def nullWords : List String :=
  ["", "~", "null", "Null", "NULL"]

/-- The ways to write a truth value. -/
def truthWords : List (String × Bool) := [
  ("yes", true), ("Yes", true), ("YES", true), ("no", false), ("No", false), ("NO", false),
  ("true", true), ("True", true), ("TRUE", true),
  ("false", false), ("False", false), ("FALSE", false),
  ("on", true), ("On", true), ("ON", true), ("off", false), ("Off", false), ("OFF", false)]

/-! ## Numbers -/

/-- The text without its underscores. -/
def dropMarks (text : List Char) : List Char :=
  text.filter (· != '_')

/-- Whether a character is a digit or an underscore. -/
def isDigitOrMark (c : Char) : Bool :=
  isDigit c || c == '_'

/-- The value of a digit in a base up to sixteen. -/
def digitInBase? (base : Nat) (c : Char) : Option Nat :=
  let digit :=
    if isDigit c then c.toNat - '0'.toNat
    else if 'a' ≤ c ∧ c ≤ 'f' then c.toNat - 'a'.toNat + 10
    else if 'A' ≤ c ∧ c ≤ 'F' then c.toNat - 'A'.toNat + 10
    else base
  if digit < base then some digit else none

/-- Whether a text is not empty and all digits and underscores of a base. -/
def isInBase (base : Nat) (text : List Char) : Bool :=
  !text.isEmpty && text.all fun c => c == '_' || (digitInBase? base c).isSome

/-- The number that digits write in a base. -/
def valueInBase (base : Nat) (text : List Char) : Nat :=
  text.foldl (fun value c => base * value + (digitInBase? base c).getD 0) 0

/-- The pieces of a text between colons. -/
def colonPieces : List Char → List (List Char)
  | [] => [[]]
  | c :: rest =>
    if c = ':' then [] :: colonPieces rest
    else
      match colonPieces rest with
      | [] => [[c]]
      | piece :: pieces => (c :: piece) :: pieces

/-- Whether a text is a digit of base sixty: one or two digits, below 60. -/
def isSixtieth : List Char → Bool
  | [c] => isDigit c
  | [tens, ones] => isDigit tens && decide (tens ≤ '5') && isDigit ones
  | _ => false

/-- A signed whole number. -/
def signed (negative : Bool) (n : Nat) : Scalar :=
  .int (if negative then -(n : Int) else n)

/-- The whole number that a text is written like. -/
def wholeNumber? (text : List Char) : Option (Except YamlFault Scalar) :=
  let (negative, unsigned) := cutSign text
  let inBase (base : Nat) (digits : List Char) : Option (Except YamlFault Scalar) :=
    if isInBase base digits then
      if (dropMarks digits).isEmpty then some (.error (.noDigits base))
      else some (.ok (signed negative (valueInBase base (dropMarks digits))))
    else none
  match unsigned with
  | '0' :: 'b' :: digits => inBase 2 digits
  | '0' :: 'x' :: digits => inBase 16 digits
  | ['0'] => some (.ok (signed negative 0))
  | '0' :: digits =>
    if isInBase 8 digits then some (.ok (signed negative (valueInBase 8 (dropMarks digits))))
    else none
  | first :: rest =>
    if !isDigit first then none
    else
      match colonPieces rest with
      | [] => none
      | head :: sixtieths =>
        if head.all isDigitOrMark && sixtieths.all isSixtieth then
          let leading := dropMarks (first :: head)
          if mostDigits < leading.length then some (.error (.tooManyDigits leading.length))
          else
            some (.ok (signed negative
              (sixtieths.foldl (fun value piece => 60 * value + digitsValue piece)
                (digitsValue leading))))
        else none
  | [] => none

/-- Whether a text is an exponent with its sign, or nothing. -/
def isSignedExponent : List Char → Bool
  | [] => true
  | e :: sign :: digits =>
    (e == 'e' || e == 'E') && (sign == '+' || sign == '-') && !digits.isEmpty && digits.all isDigit
  | _ => false

/-- A floating-point number with the sign it is written with. -/
def withSign (negative : Bool) (x : Binary64) : Binary64 :=
  if negative then x.neg else x

/-- The floating-point number of base sixty whose digits are given, the last one
first.  The weight of every place has to be a floating-point number. -/
def sexagesimal (weight : Nat) (sum : Binary64) :
    List (List Char) → Except YamlFault Binary64
  | [] => .ok sum
  | piece :: pieces =>
    match Binary64.ofInt weight with
    | .infinite _ => .error .placeTooLarge
    | place =>
      let digit := (decimal? false (dropMarks piece)).getD .nan
      sexagesimal (weight * 60) (sum.add (digit.mul place)) pieces

/-- The floating-point number that a text is written like. -/
def floatingNumber? (text : List Char) : Option (Except YamlFault Binary64) :=
  let (negative, unsigned) := cutSign text
  let isSigned := unsigned.length != text.length
  if unsigned = ".inf".toList ∨ unsigned = ".Inf".toList ∨ unsigned = ".INF".toList then
    some (.ok (.infinite negative))
  else if text = ".nan".toList ∨ text = ".NaN".toList ∨ text = ".NAN".toList then some (.ok .nan)
  else
    let whole := unsigned.takeWhile isDigitOrMark
    match unsigned.dropWhile isDigitOrMark with
    | '.' :: rest =>
      let fraction := rest.takeWhile isDigitOrMark
      let startsWell :=
        match whole with
        | [] => !isSigned && (fraction.head?.map isDigit).getD false
        | first :: _ => isDigit first
      if startsWell && isSignedExponent (rest.dropWhile isDigitOrMark) then
        (decimal? negative (dropMarks unsigned)).map .ok
      else none
    | ':' :: rest =>
      let places := (rest.dropWhile (· != '.')).drop 1
      let sixtieths := colonPieces (rest.takeWhile (· != '.'))
      if rest.contains '.' && (whole.head?.map isDigit).getD false && sixtieths.all isSixtieth
          && places.all isDigitOrMark then
        let pieces := whole :: sixtieths
        let last := (pieces.getLast?.getD []) ++ '.' :: places
        some ((sexagesimal 1 (.signedZero false) (last :: pieces.dropLast.reverse)).map
          (withSign negative))
      else none
    | _ => none

/-! ## Days and moments -/

/-- The text after a mark. -/
def after? (mark : Char) : List Char → Option (List Char)
  | [] => none
  | c :: rest => if c = mark then some rest else none

/-- The offset at the end of a moment, in seconds. -/
def offsetSeconds? (text : List Char) : Option (Option Int) :=
  match text.dropWhile (fun c => c == ' ' || c == '\t') with
  | [] => if text.isEmpty then some none else none
  | ['Z'] => some (some 0)
  | sign :: rest =>
    if sign ≠ '+' ∧ sign ≠ '-' then none
    else do
      let (hours, rest) ← takeDigits? 1 2 rest
      let (minutes, rest) ←
        match rest with
        | ':' :: rest => takeDigits? 2 2 rest
        | rest => some (0, rest)
      if rest ≠ [] then none
      else
        let size : Int := ((hours * 60 + minutes) * 60 : Nat)
        some (some (if sign = '-' then -size else size))

/-- The parts of a moment that a text is written like. -/
structure MomentText where
  year : Nat
  month : Nat
  day : Nat
  hour : Nat
  minute : Nat
  second : Nat
  microsecond : Nat
  offset : Option Int

/-- The moment with the given parts, or the part that is impossible. -/
def MomentText.checked (parts : MomentText) : Except CalendarFault DateTime := do
  let offset ←
    match parts.offset with
    | none => pure none
    | some seconds => (UtcOffset.checked seconds).map some
  let date ← Date.checked parts.year parts.month parts.day
  let time ← TimeOfDay.checked parts.hour parts.minute parts.second parts.microsecond
  pure { date, time, zone := offset.map fun offset => ({ offset } : Zone) }

/-- The year, month and day of a day with all its digits. -/
def dayText? (text : List Char) : Option (Nat × Nat × Nat) := do
  let (year, rest) ← takeDigits? 4 4 text
  let (month, rest) ← takeDigits? 2 2 (← after? '-' rest)
  let (day, rest) ← takeDigits? 2 2 (← after? '-' rest)
  if rest = [] then some (year, month, day) else none

/-- The parts of a moment. -/
def momentText? (text : List Char) : Option MomentText := do
  let (year, rest) ← takeDigits? 4 4 text
  let (month, rest) ← takeDigits? 1 2 (← after? '-' rest)
  let (day, rest) ← takeDigits? 1 2 (← after? '-' rest)
  let rest ←
    match rest with
    | [] => none
    | c :: rest =>
      if c = 'T' ∨ c = 't' then some rest
      else if c = ' ' ∨ c = '\t' then some (rest.dropWhile fun c => c == ' ' || c == '\t')
      else none
  let (hour, rest) ← takeDigits? 1 2 rest
  let (minute, rest) ← takeDigits? 2 2 (← after? ':' rest)
  let (second, rest) ← takeDigits? 2 2 (← after? ':' rest)
  let (places, rest) :=
    match rest with
    | '.' :: rest => cutDigits rest
    | rest => ([], rest)
  let offset ← offsetSeconds? rest
  let kept := places.take 6
  some {
    year, month, day, hour, minute, second, offset
    microsecond := digitsValue kept * Nat.pow 10 (6 - kept.length) }

/-- The result of a check of a day or moment. -/
def checkedScalar {α : Type} (scalar : α → Scalar) :
    Except CalendarFault α → Except YamlFault Scalar
  | .ok value => .ok (scalar value)
  | .error fault => .error (.calendar fault)

/-- The day or moment that a text is written like. -/
def timestamp? (text : List Char) : Option (Except YamlFault Scalar) :=
  match dayText? text with
  | some (year, month, day) => some (checkedScalar .date (Date.checked year month day))
  | none => (momentText? text).map fun parts => checkedScalar .dateTime parts.checked

/-! ## All plain scalars -/

/-- The meaning of a plain scalar.  An equals sign and the merge mark stand for
nothing on their own. -/
def resolvePlain (text : List Char) : Except YamlFault Scalar :=
  let word := String.ofList text
  if nullWords.contains word then .ok .null
  else if word = "=" ∨ word = "<<" then .error .malformed
  else
    match truthWords.lookup word with
    | some value => .ok (.bool value)
    | none =>
      match floatingNumber? text with
      | some result => result.map Scalar.float
      | none =>
        match wholeNumber? text with
        | some result => result
        | none =>
          match timestamp? text with
          | some result => result
          | none => .ok (.string word)

end Yaml

end TaskQuery
