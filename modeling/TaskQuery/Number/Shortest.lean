import TaskQuery.Number.Binary64

/-!
# The shortest decimal text of a number

A finite number is written with the fewest decimal digits that read back as the
same number; of the decimals with that many digits the nearest one is taken, and
of two that are equally near the one whose last digit is even.

The numbers that read back as a given one form an interval around it, which
reaches half way to the neighbours on both sides and contains its ends if the
significand is even.  On each decimal grid, from coarse to fine, only the two
points next to the number have to be tried.
-/

namespace TaskQuery.Number

/-- A positive decimal number `digits * 10 ^ exponent`. -/
structure Decimal where
  digits : Nat
  exponent : Int
deriving DecidableEq

/-! ## The interval that reads back -/

/-- The value of a number and the ends of the interval that reads back as it, in
quarters of the least positive number. -/
structure Interval where
  low : Nat
  value : Nat
  high : Nat
  /-- Whether the ends belong to the interval. -/
  closed : Bool

/-- The interval of a positive number.  Below a power of two the neighbour is at
half the distance. -/
def Interval.of (significand exponent : Nat) : Interval where
  low :=
    if significand = Nat.pow 2 52 ∧ exponent ≠ 0 then (4 * significand - 1) * Nat.pow 2 exponent
    else (4 * significand - 2) * Nat.pow 2 exponent
  value := 4 * significand * Nat.pow 2 exponent
  high := (4 * significand + 2) * Nat.pow 2 exponent
  closed := significand % 2 == 0

/-- The interval with a finer unit. -/
def Interval.scale (interval : Interval) (factor : Nat) : Interval where
  low := interval.low * factor
  value := interval.value * factor
  high := interval.high * factor
  closed := interval.closed

/-- Whether a point lies in the interval. -/
def Interval.contains (interval : Interval) (point : Nat) : Bool :=
  if interval.closed then decide (interval.low ≤ point) && decide (point ≤ interval.high)
  else decide (interval.low < point) && decide (point < interval.high)

/-! ## One decimal grid -/

/-- The quarters of the least positive number in one. -/
def quartersInOne : Nat :=
  Nat.pow 2 1076

/-- The multiple of `step` in the interval that is nearest to its value, as a
count of steps. -/
def Interval.nearestMultiple? (interval : Interval) (step : Nat) : Option Nat :=
  let below := interval.value / step
  let above := below + 1
  match interval.contains (below * step), interval.contains (above * step) with
  | false, false => none
  | true, false => some below
  | false, true => some above
  | true, true => some (roundQuotient interval.value step)

/-- The multiple of `10 ^ exponent` in the interval that is nearest to its
value. -/
def Interval.onGrid? (interval : Interval) (exponent : Int) : Option Nat :=
  if 0 ≤ exponent then interval.nearestMultiple? (quartersInOne * Nat.pow 10 exponent.toNat)
  else (interval.scale (Nat.pow 10 (-exponent).toNat)).nearestMultiple? quartersInOne

/-- The number of digits in front of the decimal point, or minus the number of
zeros after it that stand before the first digit. -/
def Interval.pointPlace (interval : Interval) : Int :=
  (decimalLength (interval.value * Nat.pow 10 400 / quartersInOne) : Int) - 400

/-! ## The shortest decimal -/

/-- A decimal without the zero that a carry into a new place leaves. -/
def Decimal.dropZero (decimal : Decimal) : Decimal :=
  if decimal.digits % 10 = 0 then ⟨decimal.digits / 10, decimal.exponent + 1⟩ else decimal

/-- Tries grids of `length`, `length + 1`, … digits, at most `attempts` of them. -/
def Interval.searchGrids (interval : Interval) (point : Int) : Nat → Nat → Decimal
  | 0, length =>
    let exponent := point - length
    ⟨if 0 ≤ exponent then interval.value / (quartersInOne * Nat.pow 10 exponent.toNat)
      else interval.value * Nat.pow 10 (-exponent).toNat / quartersInOne, exponent⟩
  | attempts + 1, length =>
    match interval.onGrid? (point - length) with
    | some digits => Decimal.dropZero ⟨digits, point - length⟩
    | none => interval.searchGrids point attempts (length + 1)

/-- The shortest decimal that reads back as a positive number.  Seventeen digits
are always enough. -/
def shortestDecimal (significand exponent : Nat) : Decimal :=
  let interval := Interval.of significand exponent
  interval.searchGrids interval.pointPlace 17 1

/-! ## Layout -/

/-- The digits of an exponent, at least two. -/
def exponentDigits (n : Nat) : List Char :=
  if n < 10 then '0' :: Nat.toDigits 10 n else Nat.toDigits 10 n

/-- Writes a decimal: with a point if the first digit is at most 16 places before it
or at most 4 places after it, else with one digit before the point and an
exponent. -/
def Decimal.layout (decimal : Decimal) : List Char :=
  let digits := Nat.toDigits 10 decimal.digits
  let point : Int := decimal.exponent + digits.length
  if -4 < point ∧ point ≤ 16 then
    if point ≤ 0 then '0' :: '.' :: List.replicate (-point).toNat '0' ++ digits
    else
      let whole := point.toNat
      if digits.length ≤ whole then
        digits ++ List.replicate (whole - digits.length) '0' ++ ['.', '0']
      else digits.take whole ++ '.' :: digits.drop whole
  else
    let fraction :=
      match digits with
      | [] => []
      | [digit] => [digit]
      | digit :: more => digit :: '.' :: more
    let power := point - 1
    fraction ++ 'e' :: (if power < 0 then '-' else '+') :: exponentDigits power.natAbs

end TaskQuery.Number

namespace TaskQuery.Binary64

/-- The shortest text of a number. -/
def shortestText : Binary64 → List Char
  | .nan => ['n', 'a', 'n']
  | .infinite negative => (if negative then ['-'] else []) ++ ['i', 'n', 'f']
  | .finite negative significand exponent _ =>
    (if negative then ['-'] else []) ++
      (if significand = 0 then ['0', '.', '0']
        else (Number.shortestDecimal significand exponent).layout)

/-- The shortest text of a number, as a string. -/
def toText (x : Binary64) : String :=
  String.ofList x.shortestText

end TaskQuery.Binary64
