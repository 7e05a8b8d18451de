/-!
# Floating-point numbers

Numbers of 64 bits: their values, how they are rounded, compared and subtracted, and
how they are shown with two decimal places.
-/

namespace TaskQuery.Number

/-!
## Rounding a quotient

The integer nearest to an exact quotient of natural numbers; of two that are
equally near, the even one.
-/

/-- The integer nearest to `numerator / denominator`, a half going to the even
neighbour. -/
def roundQuotient (numerator denominator : Nat) : Nat :=
  let quotient := numerator / denominator
  let twice := 2 * (numerator % denominator)
  if twice < denominator then quotient
  else if denominator < twice then quotient + 1
  else quotient + quotient % 2

/-- The number of decimal digits of a natural number; one for zero. -/
def decimalLength (n : Nat) : Nat :=
  (Nat.toDigits 10 n).length

end TaskQuery.Number

/-!
## Binary floating-point numbers of 64 bits

A finite number is a signed significand below `2 ^ 53` times a power of two, and it
has exactly one such form: the significand is at least `2 ^ 52` unless the exponent
is the least one.  Exponents count from the least positive number, `2 ^ (-1074)`,
so every finite number is a whole multiple of it; `units` is that multiple, and
order and arithmetic are those of the multiples, rounded where they have to be.
-/

namespace TaskQuery

/-- The one form in which a finite number is kept. -/
def CanonicalForm (significand exponent : Nat) : Prop :=
  significand < Nat.pow 2 53 ∧ exponent ≤ 2045 ∧ (exponent = 0 ∨ Nat.pow 2 52 ≤ significand)

instance (significand exponent : Nat) : Decidable (CanonicalForm significand exponent) :=
  inferInstanceAs (Decidable (_ ∧ _ ∧ _))

/-- A floating-point number: not a number, one of the two infinities, or
`± significand * 2 ^ exponent` multiples of the least positive number. -/
inductive Binary64 where
  | nan
  | infinite (negative : Bool)
  | finite (negative : Bool) (significand exponent : Nat)
      (canonical : CanonicalForm significand exponent)
deriving DecidableEq

namespace Binary64

/-- Zero with a sign. -/
def signedZero (negative : Bool) : Binary64 :=
  .finite negative 0 0 (by decide)

/-- Puts a significand of at most `2 ^ 53` into its form; a number beyond the
largest finite one is infinite. -/
def ofParts (negative : Bool) (significand exponent : Nat) : Binary64 :=
  let carried := significand == Nat.pow 2 53
  let kept := if carried then Nat.pow 2 52 else significand
  let raised := if carried then exponent + 1 else exponent
  if canonical : CanonicalForm kept raised then .finite negative kept raised canonical
  else .infinite negative

/-! ### Rounding to the nearest number -/

/-- The exponent at which a number of that many whole units has a significand of
53 binary digits, or the least exponent. -/
def exponentOf (wholeUnits : Nat) : Nat :=
  if wholeUnits < Nat.pow 2 53 then 0 else wholeUnits.log2 - 52

/-- The number nearest to `± numerator / denominator` units. -/
def ofUnitQuotient (negative : Bool) (numerator denominator : Nat) : Binary64 :=
  let exponent := exponentOf (numerator / denominator)
  ofParts negative (Number.roundQuotient numerator (denominator * Nat.pow 2 exponent)) exponent

/-- The number nearest to `± numerator / denominator`. -/
def ofQuotient (negative : Bool) (numerator denominator : Nat) : Binary64 :=
  ofUnitQuotient negative (numerator * Nat.pow 2 1074) denominator

/-- The number nearest to `± digits * 10 ^ exponent`.  Powers of ten so large or
so small that the answer does not depend on them are not computed. -/
def ofDecimal (negative : Bool) (digits : Nat) (exponent : Int) : Binary64 :=
  if digits = 0 then signedZero negative
  else if 0 ≤ exponent then
    if 400 < exponent then .infinite negative
    else ofQuotient negative (digits * Nat.pow 10 exponent.toNat) 1
  else
    let places := (-exponent).toNat
    if digits.log2 + 400 < places then signedZero negative
    else ofQuotient negative digits (Nat.pow 10 places)

/-- The number nearest to an integer. -/
def ofInt (n : Int) : Binary64 :=
  ofQuotient (decide (n < 0)) n.natAbs 1

/-! ### Value and order -/

/-- How many times the least positive number goes into a finite number. -/
def units (negative : Bool) (significand exponent : Nat) : Int :=
  let size : Int := ((significand * Nat.pow 2 exponent : Nat) : Int)
  if negative then -size else size

/-- More units than any finite number has. -/
def infinityUnits : Int :=
  Nat.pow 2 2100

/-- The place of a number in the order of numbers; one that is not a number has
none. -/
def position : Binary64 → Option Int
  | .nan => none
  | .infinite negative => some (if negative then -infinityUnits else infinityUnits)
  | .finite negative significand exponent _ => some (units negative significand exponent)

/-- Whether `a` is less than `b`; false if one of them is not a number. -/
def lt (a b : Binary64) : Bool :=
  match a.position, b.position with
  | some x, some y => decide (x < y)
  | _, _ => false

/-- Whether `a` is at most `b`; false if one of them is not a number. -/
def le (a b : Binary64) : Bool :=
  match a.position, b.position with
  | some x, some y => decide (x ≤ y)
  | _, _ => false

/-! ### Arithmetic -/

/-- The number with the other sign. -/
def neg : Binary64 → Binary64
  | .nan => .nan
  | .infinite negative => .infinite (!negative)
  | .finite negative significand exponent canonical =>
    .finite (!negative) significand exponent canonical

/-- The number without its sign. -/
def abs : Binary64 → Binary64
  | .nan => .nan
  | .infinite _ => .infinite false
  | .finite _ significand exponent canonical => .finite false significand exponent canonical

/-- The number nearest to a whole number of units; `zeroSign` is the sign of a
zero. -/
def ofUnits (zeroSign : Bool) (n : Int) : Binary64 :=
  if n = 0 then signedZero zeroSign else ofUnitQuotient (decide (n < 0)) n.natAbs 1

/-- The sum, rounded to the nearest number. -/
def add : Binary64 → Binary64 → Binary64
  | .nan, _ => .nan
  | _, .nan => .nan
  | .infinite a, .infinite b => if a = b then .infinite a else .nan
  | .infinite a, .finite .. => .infinite a
  | .finite .., .infinite b => .infinite b
  | .finite a s x _, .finite b t y _ => ofUnits (a && b) (units a s x + units b t y)

/-- The difference, rounded to the nearest number. -/
def sub (a b : Binary64) : Binary64 :=
  add a b.neg

/-- Whether a number is zero. -/
def isZero : Binary64 → Bool
  | .finite _ significand _ _ => significand == 0
  | _ => false

/-- Whether the sign of a number is a minus. -/
def isNegative : Binary64 → Bool
  | .nan => false
  | .infinite negative => negative
  | .finite negative .. => negative

/-- The product, rounded to the nearest number. -/
def mul : Binary64 → Binary64 → Binary64
  | .nan, _ => .nan
  | _, .nan => .nan
  | .finite a s x _, .finite b t y _ =>
    ofUnitQuotient (a != b) (s * Nat.pow 2 x * (t * Nat.pow 2 y)) (Nat.pow 2 1074)
  | a, b => if a.isZero || b.isZero then .nan else .infinite (a.isNegative != b.isNegative)

end Binary64

end TaskQuery

/-!
## Numbers with two decimal places

An amount is shown with two decimal places: the exact value is rounded to
hundredths, a half going to the even neighbour, and the sign stays, also that of
a zero.
-/

namespace TaskQuery.Binary64

/-- The hundredths of a finite number, rounded, without its sign. -/
def hundredths (significand exponent : Nat) : Nat :=
  Number.roundQuotient (significand * Nat.pow 2 exponent * 100) (Nat.pow 2 1074)

/-- A count of hundredths as a decimal text. -/
def hundredthsText (n : Nat) : List Char :=
  let places := Nat.toDigits 10 (n % 100)
  Nat.toDigits 10 (n / 100) ++ '.' :: (if places.length < 2 then '0' :: places else places)

/-- The text of a number with two decimal places. -/
def twoPlaces : Binary64 → List Char
  | .nan => ['n', 'a', 'n']
  | .infinite negative => (if negative then ['-'] else []) ++ ['i', 'n', 'f']
  | .finite negative significand exponent _ =>
    (if negative then ['-'] else []) ++ hundredthsText (hundredths significand exponent)

end TaskQuery.Binary64
