import TaskQuery.Json.Document
import TaskQuery.Number.Numeral

/-!
# Reading JSON text

The grammar is that of JSON, with the words `NaN`, `Infinity` and `-Infinity` as
numbers besides.  A number with a fraction or an exponent is a floating-point
number, and every other one is whole and must not be long.  Control characters have to be escaped in a
string, and a pair of surrogate escapes is one character.

Each reader takes its piece off the front of the text and returns the text after
it.  Every nested step takes at least one character, so a fuel of the length of
the text is always enough.
-/

namespace TaskQuery

/-- Why a text is no JSON document. -/
inductive JsonFault where
  | malformed
  /-- A whole number with too many digits to be read. -/
  | tooManyDigits (count : Nat)
deriving DecidableEq

/-- What is wrong, in words. -/
def JsonFault.message : JsonFault → String
  | .malformed => "malformed JSON"
  | .tooManyDigits count => Number.longNumeralMessage count

namespace Json

open Number

/-- Whether a character may stand between two pieces of a document. -/
def isSpace (c : Char) : Bool :=
  c == ' ' || c == '\t' || c == '\n' || c == '\r'

/-- The text after the spaces it starts with. -/
def skipSpaces (text : List Char) : List Char :=
  text.dropWhile isSpace

/-! ## Strings -/

/-- The value of a hexadecimal digit. -/
def hexDigit? (c : Char) : Option Nat :=
  if '0' ≤ c ∧ c ≤ '9' then some (c.toNat - '0'.toNat)
  else if 'a' ≤ c ∧ c ≤ 'f' then some (c.toNat - 'a'.toNat + 10)
  else if 'A' ≤ c ∧ c ≤ 'F' then some (c.toNat - 'A'.toNat + 10)
  else none

/-- Takes four hexadecimal digits off the front. -/
def takeHex? : List Char → Option (Nat × List Char)
  | a :: b :: c :: d :: rest => do
    let a ← hexDigit? a
    let b ← hexDigit? b
    let c ← hexDigit? c
    let d ← hexDigit? d
    some (((a * 16 + b) * 16 + c) * 16 + d, rest)
  | _ => none

/-- The second half of a surrogate pair, if the text starts with its escape. -/
def takeLowSurrogate? : List Char → Option (Nat × List Char)
  | '\\' :: 'u' :: rest =>
    (takeHex? rest).filter fun (code, _) => decide (0xDC00 ≤ code) && decide (code ≤ 0xDFFF)
  | _ => none

/-- Reads the character of a code escape.  A lone surrogate is no character and
is read as the replacement character. -/
def takeCode? (text : List Char) : Option (Char × List Char) := do
  let (code, rest) ← takeHex? text
  if 0xD800 ≤ code ∧ code ≤ 0xDBFF then
    match takeLowSurrogate? rest with
    | some (low, rest) =>
      some (Char.ofNat (0x10000 + (code - 0xD800) * 0x400 + (low - 0xDC00)), rest)
    | none => some (Char.ofNat 0xFFFD, rest)
  else if 0xDC00 ≤ code ∧ code ≤ 0xDFFF then some (Char.ofNat 0xFFFD, rest)
  else some (Char.ofNat code, rest)

/-- Reads an escape after its backslash. -/
def takeEscape? : List Char → Option (Char × List Char)
  | '"' :: rest => some ('"', rest)
  | '\\' :: rest => some ('\\', rest)
  | '/' :: rest => some ('/', rest)
  | 'b' :: rest => some ('\x08', rest)
  | 'f' :: rest => some ('\x0c', rest)
  | 'n' :: rest => some ('\n', rest)
  | 'r' :: rest => some ('\r', rest)
  | 't' :: rest => some ('\t', rest)
  | 'u' :: rest => takeCode? rest
  | _ => none

/-- Reads a string after its opening quote. -/
def readString? : Nat → List Char → Option (List Char × List Char)
  | 0, _ => none
  | _ + 1, [] => none
  | fuel + 1, c :: rest =>
    if c = '"' then some ([], rest)
    else if c = '\\' then do
      let (escaped, rest) ← takeEscape? rest
      let (text, rest) ← readString? fuel rest
      some (escaped :: text, rest)
    else if c.toNat < 0x20 then none
    else do
      let (text, rest) ← readString? fuel rest
      some (c :: text, rest)

/-! ## Numbers -/

/-- Takes a point and the digits after it off the front.  A point without digits is
no part of a number. -/
def cutFraction : List Char → Option (List Char) × List Char
  | '.' :: rest =>
    match cutDigits rest with
    | ([], _) => (none, '.' :: rest)
    | (digits, rest) => (some digits, rest)
  | text => (none, text)

/-- Takes an exponent off the front.  A letter without digits after it is none. -/
def cutExponent : List Char → Option Int × List Char
  | [] => (none, [])
  | e :: text =>
    if e = 'e' ∨ e = 'E' then
      let (negative, rest) := cutSign text
      match cutDigits rest with
      | ([], _) => (none, e :: text)
      | (digits, rest) =>
        let value : Int := (digitsValue digits : Int)
        (some (if negative then -value else value), rest)
    else (none, e :: text)

/-- Reads a number after its sign. -/
def readNumber (negative : Bool) (text : List Char) : Except JsonFault (Json × List Char) :=
  let (whole, rest) := cutDigits text
  if whole.isEmpty || (whole.head? == some '0' && whole.length != 1) then .error .malformed
  else
    let (fraction, rest) := cutFraction rest
    let (exponent, rest) := cutExponent rest
    if fraction.isNone && exponent.isNone then
      if mostDigits < whole.length then .error (.tooManyDigits whole.length)
      else
        let value : Int := (digitsValue whole : Int)
        .ok (.int (if negative then -value else value), rest)
    else
      let places := fraction.getD []
      .ok (.float (Binary64.ofDecimal negative (digitsValue (whole ++ places))
        (exponent.getD 0 - places.length)), rest)

/-! ## Words -/

/-- Takes a word off the front of a text. -/
def takeWord? : List Char → List Char → Option (List Char)
  | [], text => some text
  | _ :: _, [] => none
  | c :: word, d :: text => if c = d then takeWord? word text else none

/-- The words that stand for a value. -/
def wordValues : List (String × Json) := [
  ("null", .null), ("true", .bool true), ("false", .bool false), ("NaN", .float .nan),
  ("Infinity", .float (.infinite false)), ("-Infinity", .float (.infinite true))]

/-- Reads a word that stands for a value. -/
def readWord? (text : List Char) : Option (Json × List Char) :=
  wordValues.findSome? fun (word, value) => (takeWord? word.toList text).map (value, ·)

/-- Reads a number or a word. -/
def readPlain (text : List Char) : Except JsonFault (Json × List Char) :=
  match readWord? text with
  | some found => .ok found
  | none =>
    match text with
    | '-' :: rest => readNumber true rest
    | rest => readNumber false rest

/-! ## Values -/

/-- Reads a string after its opening quote, and leaves the text after it. -/
def readText (fuel : Nat) (text : List Char) : Except JsonFault (String × List Char) :=
  match readString? fuel text with
  | some (value, rest) => .ok (String.ofList value, rest)
  | none => .error .malformed

mutual

/-- Reads one value. -/
def readValue : Nat → List Char → Except JsonFault (Json × List Char)
  | 0, _ => .error .malformed
  | fuel + 1, text =>
    match text with
    | '"' :: rest => do
      let (value, rest) ← readText (fuel + 1) rest
      pure (.string value, rest)
    | '[' :: rest =>
      match skipSpaces rest with
      | ']' :: rest => .ok (.array [], rest)
      | rest => do
        let (items, rest) ← readItems fuel rest
        pure (.array items, rest)
    | '{' :: rest =>
      match skipSpaces rest with
      | '}' :: rest => .ok (.object [], rest)
      | rest => do
        let (members, rest) ← readMembers fuel rest
        pure (ofMembers members, rest)
    | text => readPlain text

/-- Reads the items of an array up to its end. -/
def readItems : Nat → List Char → Except JsonFault (List Json × List Char)
  | 0, _ => .error .malformed
  | fuel + 1, text => do
    let (item, rest) ← readValue fuel text
    match skipSpaces rest with
    | ']' :: rest => pure ([item], rest)
    | ',' :: rest => do
      let (items, rest) ← readItems fuel (skipSpaces rest)
      pure (item :: items, rest)
    | _ => throw .malformed

/-- Reads the members of an object up to its end. -/
def readMembers : Nat → List Char → Except JsonFault (List (String × Json) × List Char)
  | 0, _ => .error .malformed
  | fuel + 1, text =>
    match text with
    | '"' :: rest => do
      let (key, rest) ← readText (fuel + 1) rest
      match skipSpaces rest with
      | ':' :: rest => do
        let (value, rest) ← readValue fuel (skipSpaces rest)
        match skipSpaces rest with
        | '}' :: rest => pure ([(key, value)], rest)
        | ',' :: rest => do
          let (members, rest) ← readMembers fuel (skipSpaces rest)
          pure ((key, value) :: members, rest)
        | _ => throw .malformed
      | _ => throw .malformed
    | _ => .error .malformed

end

/-- The document that a whole text writes. -/
def read (text : List Char) : Except JsonFault Json := do
  let (document, rest) ← readValue (2 * text.length + 1) (skipSpaces text)
  if (skipSpaces rest).isEmpty then pure document else throw .malformed

end Json

end TaskQuery
