import TaskQuery.Calendar.DateTime
import TaskQuery.Number.Numeral
import TaskQuery.Number.Shortest
import TaskQuery.Text.Quoted
import TaskQuery.Value.Basic

/-!
# Values as text

Identifiers may be any value and are turned into text, and messages show the
value that they complain about.  A value is shown with its strings quoted, in
brackets and braces, and dots stand for a value inside of itself; turned into text,
a string stands for itself and a day or a moment is written as in ISO 8601, with a
space in the middle.  A value with a long number anywhere in it cannot be shown, nor
turned into text.
-/

namespace TaskQuery

open Text

/-- A list of parts between two marks. -/
def enclosed (opening : String) (parts : List String) (closing : String) : String :=
  opening ++ ", ".intercalate parts ++ closing

/-- A frame as it is shown. -/
def UtcOffset.shown (offset : UtcOffset) : String :=
  if offset.seconds = 0 then "datetime.timezone.utc"
  else "datetime.timezone(" ++ spanText offset.seconds ++ ")"

/-- A moment as it is shown: seconds and microseconds only as far as they are
needed. -/
def DateTime.shown (moment : DateTime) : String :=
  let time := moment.time
  let fine :=
    if time.microsecond ≠ 0 then [toString time.second, toString time.microsecond]
    else if time.second ≠ 0 then [toString time.second]
    else []
  let frame :=
    match moment.offset with
    | none => []
    | some offset => ["tzinfo=" ++ offset.shown]
  enclosed "datetime.datetime("
    ([moment.date.year, moment.date.month, moment.date.day, time.hour, time.minute].map toString
      ++ fine ++ frame) ")"

/-- Bytes as they are shown: those of ASCII as their characters, the others as codes. -/
def shownBytes (content : List UInt8) : String :=
  let chars := content.map fun byte => Char.ofNat byte.toNat
  let mark := quoteFor chars
  let escape (c : Char) : List Char :=
    if c.toNat < 0x80 then escapeChar mark c else escapeCode c
  String.ofList ('b' :: mark :: chars.flatMap escape ++ [mark])

namespace Scalar

/-- A scalar as it is shown in messages. -/
def shown : Scalar → String
  | .null => "None"
  | .bool true => "True"
  | .bool false => "False"
  | .int value => toString value
  | .float value => value.toText
  | .string value => quoted value
  | .bytes content => shownBytes content
  | .date value =>
    enclosed "datetime.date(" ([value.year, value.month, value.day].map toString) ")"
  | .dateTime value => value.shown

/-- A scalar turned into text. -/
def toText : Scalar → String
  | .string value => value
  | .date value => String.ofList value.isoChars
  | .dateTime value => String.ofList (value.isoChars ' ')
  | other => other.shown

/-- Whether a scalar is a number that is too long to be shown. -/
def isLong : Scalar → Bool
  | .int value => Number.isLong value
  | _ => false

end Scalar

namespace Value

mutual

/-- A value as it is shown in messages. -/
def shown : Value → String
  | .scalar value => value.shown
  | .sequence items => enclosed "[" (shownItems items) "]"
  | .mapping entries => enclosed "\x7b" (shownEntries entries) "\x7d"
  | .collection text _ => text.getD ""
  | .again true => enclosed "\x7b" ["..."] "\x7d"
  | .again false => enclosed "[" ["..."] "]"

/-- The items of a sequence as they are shown. -/
def shownItems : List Value → List String
  | [] => []
  | item :: items => item.shown :: shownItems items

/-- The entries of a mapping as they are shown. -/
def shownEntries : List (Scalar × Value) → List String
  | [] => []
  | (key, value) :: entries => (key.shown ++ ": " ++ value.shown) :: shownEntries entries

end

/-- A value turned into text. -/
def toText : Value → String
  | .scalar value => value.toText
  | other => other.shown

/-! ## Values that are too long to be shown -/

mutual

/-- Whether a number that is too long to be shown is anywhere in a value. -/
def hasLong : Value → Bool
  | .scalar value => value.isLong
  | .sequence items => hasLongItem items
  | .mapping entries => hasLongEntry entries
  | .collection text _ => text.isNone
  | .again _ => false

/-- Whether such a number is in one of the items of a sequence. -/
def hasLongItem : List Value → Bool
  | [] => false
  | item :: items => item.hasLong || hasLongItem items

/-- Whether such a number is in a key or a value of a mapping. -/
def hasLongEntry : List (Scalar × Value) → Bool
  | [] => false
  | (key, value) :: entries => key.isLong || value.hasLong || hasLongEntry entries

end

/-- A value as it is shown in messages, if it can be shown. -/
def shown? (value : Value) : Option String :=
  if value.hasLong then none else some value.shown

/-- A value turned into text, if it can be. -/
def toText? (value : Value) : Option String :=
  if value.hasLong then none else some value.toText

end Value

end TaskQuery
