import TaskQuery.Number.Binary64
import TaskQuery.Text.Basic

/-!
# Numbers in texts

The limit on the digits of whole numbers, and the numerals that are read as
floating-point numbers.
-/

namespace TaskQuery.Number

/-!
## Long whole numbers

A whole number becomes decimal text, or is read from it, only if it has at most 4300
digits.  The sign does not count, and numbers that are written in other bases may be
read at any length.
-/

/-- The greatest number of decimal digits that a whole number may have as text. -/
def mostDigits : Nat :=
  4300

/-- Whether a whole number has too many digits to be turned into text. -/
def isLong (n : Int) : Bool :=
  decide (Nat.pow 10 mostDigits ≤ n.natAbs)

/-- What is said where a number has too many digits, with a remark in the middle. -/
def limitMessage (remark : String) : String :=
  "Exceeds the limit (" ++ toString mostDigits ++ " digits) for integer string conversion"
    ++ remark ++ "; use sys.set_int_max_str_digits() to increase the limit"

/-- What is said where a number is too long to be turned into text. -/
def longNumberMessage : String :=
  limitMessage ""

/-- What is said where a number is read from too many digits. -/
def longNumeralMessage (count : Nat) : String :=
  limitMessage (": value has " ++ toString count ++ " digits")

/-!
## Reading a number

A numeral is an optional sign, then either digits with an optional point and an
optional exponent, or one of the words `inf`, `infinity` and `nan` in any letter
case.  A single underscore may stand between two digits, and blanks around the
numeral are skipped.  In a text with characters beyond ASCII, the digits of every
script count as digits and every blank as a space.
-/

open Text

/-- Whether a character is an ASCII digit. -/
def isDigit (c : Char) : Bool :=
  decide ('0' ≤ c) && decide (c ≤ '9')

/-- The number that a row of decimal digits writes. -/
def digitsValue (digits : List Char) : Nat :=
  digits.foldl (fun value c => 10 * value + (c.toNat - '0'.toNat)) 0

/-! ### Bringing a numeral to ASCII -/

/-- A character of a numeral in ASCII; one that means nothing in a numeral becomes
a question mark. -/
def toAsciiChar (c : Char) : Char :=
  if c.toNat < 0x7F then c
  else if isBlank c then ' '
  else
    match decimalDigit? c with
    | some digit => Char.ofNat ('0'.toNat + digit)
    | none => '?'

/-- A numeral in ASCII. -/
def toAscii (text : List Char) : List Char :=
  if text.all (·.toNat < 0x80) then text else text.map toAsciiChar

/-- Whether a character around a numeral is skipped. -/
def isPadding (c : Char) : Bool :=
  c == ' ' || (decide (0x09 ≤ c.toNat) && decide (c.toNat ≤ 0x0D))

/-- The text without the padding at both ends. -/
def stripPadding (text : List Char) : List Char :=
  ((text.dropWhile isPadding).reverse.dropWhile isPadding).reverse

/-! ### Underscores -/

/-- Takes the underscores out of a numeral, where `afterDigit` says whether the
character before is a digit.  Each has to stand between two digits. -/
def dropUnderscores? (afterDigit : Bool) : List Char → Option (List Char)
  | [] => some []
  | '_' :: c :: rest =>
    if afterDigit && isDigit c then (dropUnderscores? true rest).map (c :: ·) else none
  | c :: rest => if c = '_' then none else (dropUnderscores? (isDigit c) rest).map (c :: ·)

/-! ### Parts of a numeral -/

/-- Takes a sign off the front: whether it is a minus, and what follows. -/
def cutSign : List Char → Bool × List Char
  | '-' :: rest => (true, rest)
  | '+' :: rest => (false, rest)
  | text => (false, text)

/-- Takes the digits off the front. -/
def cutDigits (text : List Char) : List Char × List Char :=
  (text.takeWhile isDigit, text.dropWhile isDigit)

/-- The number that at least `fewest` and at most `most` digits at the front of a
text write, and the text after them. -/
def takeDigits? (fewest most : Nat) (text : List Char) : Option (Nat × List Char) :=
  let digits := (text.take most).takeWhile isDigit
  if digits.length < fewest then none
  else some (digitsValue digits, text.drop digits.length)

/-- The number that exactly `width` digits at the front of a text write, and the text
after them. -/
def takeNumber? (width : Nat) (text : List Char) : Option (Nat × List Char) :=
  takeDigits? width width text

/-- The exponent at the end of a numeral; zero if nothing is left. -/
def exponent? : List Char → Option Int
  | [] => some 0
  | e :: rest =>
    if e = 'e' ∨ e = 'E' then
      let (negative, digits) := cutSign rest
      if digits.isEmpty || !digits.all isDigit then none
      else
        let value : Int := (digitsValue digits : Int)
        some (if negative then -value else value)
    else none

/-- Reads a numeral without sign as digits, point and exponent. -/
def decimal? (negative : Bool) (text : List Char) : Option Binary64 :=
  let (whole, afterWhole) := cutDigits text
  let (fraction, afterFraction) :=
    match afterWhole with
    | '.' :: rest => cutDigits rest
    | rest => ([], rest)
  if whole.isEmpty && fraction.isEmpty then none
  else
    (exponent? afterFraction).map fun exponent =>
      Binary64.ofDecimal negative (digitsValue (whole ++ fraction)) (exponent - fraction.length)

/-- Reads a word for a number that has no digits. -/
def special? (negative : Bool) (text : List Char) : Option Binary64 :=
  let word := text.map Char.toLower
  if word = ['i', 'n', 'f'] ∨ word = ['i', 'n', 'f', 'i', 'n', 'i', 't', 'y'] then
    some (.infinite negative)
  else if word = ['n', 'a', 'n'] then some .nan
  else none

/-- The floating-point number that a text writes. -/
def numeral? (text : List Char) : Option Binary64 :=
  match dropUnderscores? false (stripPadding (toAscii text)) with
  | none => none
  | some plain =>
    let (negative, unsigned) := cutSign plain
    match decimal? negative unsigned with
    | some value => some value
    | none => special? negative unsigned

end TaskQuery.Number
