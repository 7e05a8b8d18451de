import TaskQuery.Calendar.DateTime
import TaskQuery.Json.Document

/-!
# Decoded data

The values that files hold, and how values of an expected type are asked for.

A decoded file is a value: a scalar, a sequence of values, or a mapping from
scalars to values in the order in which the keys first appeared.  Scalars are what
JSON and YAML files can write: null, truth values, whole and floating-point
numbers, strings, bytes, days and moments.  YAML files can also write sets and pairs,
of which nothing is asked but their text, and values that hold themselves.  Such a value
is unfolded as far as anyone looks into it, and where its text would start over, a mark
stands for it.

Texts are sequences of Unicode characters.  Files in which an escape writes half of a
surrogate pair, and environment variables that are no text, are outside of what is
described here.
-/

namespace TaskQuery

/-- A value without parts. -/
inductive Scalar where
  | null
  | bool (value : Bool)
  | int (value : Int)
  | float (value : Binary64)
  | string (value : String)
  | bytes (content : List UInt8)
  | date (value : Date)
  | dateTime (value : DateTime)
deriving DecidableEq

/-- A decoded value. -/
inductive Value where
  | scalar (value : Scalar)
  | sequence (items : List Value)
  | mapping (entries : List (Scalar × Value))
  /-- A set or a pair, with its text, if that is not too long to be shown, and whether it is
  empty. -/
  | collection (text : Option String) (void : Bool)
  /-- A sequence or a mapping in which this place lies. -/
  | again (mapping : Bool)

/-- The entries of a mapping. -/
abbrev Entries := List (Scalar × Value)

/-! ### Keys

Two keys are the same key if they are equal as numbers, as texts or as times.  A
truth value counts as the number 1 or 0, not-a-number is the same key as itself, and
moments with offsets are compared as points in time. -/

namespace Scalar

/-- A whole number in multiples of the least positive floating-point number. -/
def intUnits (n : Int) : Int :=
  n * Nat.pow 2 1074

/-- The number that a key counts as, as a position in the order of numbers. -/
def keyNumber? : Scalar → Option Int
  | .bool value => some (intUnits (if value then 1 else 0))
  | .int value => some (intUnits value)
  | .float (.finite negative significand exponent _) =>
    some (Binary64.units negative significand exponent)
  | _ => none

/-- Whether two scalars are the same key. -/
def sameKey (a b : Scalar) : Bool :=
  match a.keyNumber?, b.keyNumber? with
  | some x, some y => decide (x = y)
  | some _, none => false
  | none, some _ => false
  | none, none =>
    match a, b with
    | .dateTime x, .dateTime y =>
      match x.offset, y.offset with
      | some p, some q =>
        decide ((x.date.ordinal : Int) * 86400000000 + x.time.microseconds - p.seconds * 1000000
          = (y.date.ordinal : Int) * 86400000000 + y.time.microseconds - q.seconds * 1000000)
      | none, none => x == y
      | _, _ => false
    | a, b => a == b

end Scalar

namespace Entries

/-- Adds an entry to a mapping.  A key that is there already keeps its place and
takes the new value. -/
def insert (entries : Entries) (key : Scalar) (value : Value) : Entries :=
  match entries with
  | [] => [(key, value)]
  | (other, old) :: rest =>
    if other.sameKey key then (other, value) :: rest else (other, old) :: insert rest key value

/-- The mapping with the given entries, of which a later one with the same key
replaces an earlier one. -/
def ofList (entries : List (Scalar × Value)) : Entries :=
  entries.foldl (fun found (key, value) => insert found key value) []

/-- The value of a key. -/
def get? (entries : Entries) (key : String) : Option Value :=
  (entries.find? fun entry => entry.1 == .string key).map (·.2)

/-- The value of a key, where null counts as missing. -/
def present? (entries : Entries) (key : String) : Option Value :=
  match entries.get? key with
  | some (.scalar .null) => none
  | found => found

end Entries

namespace Value

/-- The null value. -/
def null : Value :=
  .scalar .null

/-- A string as a value. -/
def string (text : String) : Value :=
  .scalar (.string text)

mutual

/-- A JSON document as a value. -/
def ofJson : Json → Value
  | .null => .scalar .null
  | .bool value => .scalar (.bool value)
  | .int value => .scalar (.int value)
  | .float value => .scalar (.float value)
  | .string value => .scalar (.string value)
  | .array items => .sequence (ofItems items)
  | .object members => .mapping (ofMembers members)

/-- The items of an array as values. -/
def ofItems : List Json → List Value
  | [] => []
  | item :: items => ofJson item :: ofItems items

/-- The members of an object as entries. -/
def ofMembers : List (String × Json) → List (Scalar × Value)
  | [] => []
  | (key, value) :: members => (.string key, ofJson value) :: ofMembers members

end

/-- Whether a value counts as absent where an empty one would do: null, false,
zero, and an empty string, sequence, mapping and so on. -/
def isVoid : Value → Bool
  | .scalar .null => true
  | .scalar (.bool value) => !value
  | .scalar (.int value) => value == 0
  | .scalar (.float value) => value.isZero
  | .scalar (.string value) => value.isEmpty
  | .scalar (.bytes content) => content.isEmpty
  | .scalar _ => false
  | .sequence items => items.isEmpty
  | .mapping entries => entries.isEmpty
  | .collection _ void => void
  | .again _ => false

end Value

/-!
## Values of an expected type

Records and settings ask for values of certain types.  A value of another type is a
fault that names the place of the value and what was expected there.
-/

/-- What is expected at some place. -/
inductive Expected where
  | document
  | object
  | list
  | string
  | boolean
  | integer
  | number
  | isoString
deriving DecidableEq

/-- What is expected, in words. -/
def Expected.phrase : Expected → String
  | .document => "a mapping/object"
  | .object => "an object"
  | .list => "a list"
  | .string => "a string"
  | .boolean => "a boolean"
  | .integer => "an integer"
  | .number => "a number"
  | .isoString => "an ISO-8601 string"

/-- A value of another type than the one expected at its place. -/
structure TypeFault where
  place : String
  expected : Expected
deriving DecidableEq

/-- What is wrong, in words. -/
def TypeFault.message (fault : TypeFault) : String :=
  fault.place ++ " must be " ++ fault.expected.phrase

namespace Value

/-- The string that a value is. -/
def expectString (place : String) : Value → Except TypeFault String
  | .scalar (.string value) => .ok value
  | _ => .error ⟨place, .string⟩

/-- The truth value that a value is. -/
def expectBool (place : String) : Value → Except TypeFault Bool
  | .scalar (.bool value) => .ok value
  | _ => .error ⟨place, .boolean⟩

/-- The whole number that a value is; a truth value is none. -/
def expectInt (place : String) : Value → Except TypeFault Int
  | .scalar (.int value) => .ok value
  | _ => .error ⟨place, .integer⟩

/-- The entries of the mapping that a value is. -/
def expectObject (place : String) : Value → Except TypeFault Entries
  | .mapping entries => .ok entries
  | _ => .error ⟨place, .object⟩

/-- The items of the sequence that a value is. -/
def expectList (place : String) : Value → Except TypeFault (List Value)
  | .sequence items => .ok items
  | _ => .error ⟨place, .list⟩

/-- The place of an item in a sequence. -/
def itemPlace (place : String) (index : Nat) : String :=
  place ++ "[" ++ toString index ++ "]"

/-- The place of an entry of a mapping. -/
def entryPlace (place key : String) : String :=
  place ++ "." ++ key

/-- Reads the items of a sequence one after the other, each with its place, up to
the first fault. -/
def readItems {α fault : Type} (read : String → Value → Except fault α) (place : String)
    (index : Nat) : List Value → Except fault (List α)
  | [] => .ok []
  | item :: items => do
    let value ← read (itemPlace place index) item
    let values ← readItems read place (index + 1) items
    pure (value :: values)

end Value

/-!
## Reading YAML

YAML is read by a reader that a run is given.  `Yaml.read` is one.
-/

/-- Why a text is no YAML value. -/
inductive YamlFault where
  /-- The text does not follow the rules, or asks for something that is not
  supported. -/
  | malformed
  /-- A day, time or offset that does not exist. -/
  | calendar (fault : CalendarFault)
  /-- A number that has a base but no digits. -/
  | noDigits (base : Nat)
  /-- A whole number with too many decimal digits to be read. -/
  | tooManyDigits (count : Nat)
  /-- A floating-point number with too many places in base sixty. -/
  | placeTooLarge
deriving DecidableEq

/-- What is wrong, in words. -/
def YamlFault.message : YamlFault → String
  | .malformed => "malformed YAML"
  | .calendar fault => fault.message
  | .noDigits base => "invalid literal for int() with base " ++ toString base ++ ": ''"
  | .tooManyDigits count => Number.longNumeralMessage count
  | .placeTooLarge => "int too large to convert to float"

/-- A reader of YAML texts. -/
abbrev YamlReader := List Char → Except YamlFault Value

end TaskQuery
