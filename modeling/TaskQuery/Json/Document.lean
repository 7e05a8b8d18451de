import TaskQuery.Number.Binary64
import TaskQuery.Number.Shortest

/-!
# JSON documents

A JSON document, with whole numbers of any size kept apart from floating-point
numbers.  An object is the list of its members in the order in which their keys
first appear.
-/

namespace TaskQuery

/-- A JSON document. -/
inductive Json where
  | null
  | bool (value : Bool)
  | int (value : Int)
  | float (value : Binary64)
  | string (value : String)
  | array (items : List Json)
  | object (members : List (String × Json))

namespace Json

/-- Adds a member to an object.  A key that is there already keeps its place and
takes the new value. -/
def insertMember (members : List (String × Json)) (key : String) (value : Json) :
    List (String × Json) :=
  match members with
  | [] => [(key, value)]
  | (other, old) :: rest =>
    if other = key then (other, value) :: rest else (other, old) :: insertMember rest key value

/-- The object with the given members, of which a later one with the same key
replaces an earlier one. -/
def ofMembers (members : List (String × Json)) : Json :=
  .object (members.foldl (fun found (key, value) => insertMember found key value) [])

/-- The text, or null if it is missing. -/
def ofText? : Option String → Json
  | some value => .string value
  | none => .null

/-- The member of an object with a key. -/
def member? (key : String) : Json → Option Json
  | object members => members.lookup key
  | _ => none

end Json

end TaskQuery

/-!
## Writing JSON text

A document is written over several lines: every item of an array and every member
of an object stands on a line of its own, two spaces further in than the brackets
around it, and an empty array or object is a pair of brackets.  Strings escape
quotes, backslashes and control characters and show every other character as it is;
numbers take their shortest text.
-/

namespace TaskQuery.Json

/-- A control character as a code escape. -/
def codeEscape (c : Char) : List Char :=
  let digits := Nat.toDigits 16 c.toNat
  '\\' :: 'u' :: (List.replicate (4 - digits.length) '0' ++ digits)

/-- A character inside a string. -/
def printChar (c : Char) : List Char :=
  if c = '"' then ['\\', '"']
  else if c = '\\' then ['\\', '\\']
  else if c = '\n' then ['\\', 'n']
  else if c = '\r' then ['\\', 'r']
  else if c = '\t' then ['\\', 't']
  else if c = '\x08' then ['\\', 'b']
  else if c = '\x0c' then ['\\', 'f']
  else if c.toNat < 0x20 then codeEscape c
  else [c]

/-- A string between quotes. -/
def printString (text : String) : List Char :=
  '"' :: text.toList.flatMap printChar ++ ['"']

/-- A whole number. -/
def printInt (n : Int) : List Char :=
  (if n < 0 then ['-'] else []) ++ Nat.toDigits 10 n.natAbs

/-- A floating-point number. -/
def printFloat : Binary64 → List Char
  | .nan => "NaN".toList
  | .infinite false => "Infinity".toList
  | .infinite true => "-Infinity".toList
  | x => x.shortestText

/-- The start of a line inside `depth` brackets. -/
def newLine (depth : Nat) : List Char :=
  '\n' :: List.replicate (2 * depth) ' '

mutual

/-- A document inside `depth` brackets. -/
def print (depth : Nat) : Json → List Char
  | .null => "null".toList
  | .bool true => "true".toList
  | .bool false => "false".toList
  | .int n => printInt n
  | .float x => printFloat x
  | .string value => printString value
  | .array [] => ['[', ']']
  | .array (item :: items) =>
    '[' :: newLine (depth + 1) ++ print (depth + 1) item ++ printItems (depth + 1) items
      ++ newLine depth ++ [']']
  | .object [] => ['{', '}']
  | .object ((key, value) :: members) =>
    '{' :: newLine (depth + 1) ++ printString key ++ ':' :: ' ' :: print (depth + 1) value
      ++ printMembers (depth + 1) members ++ newLine depth ++ ['}']

/-- The items of an array after the first. -/
def printItems (depth : Nat) : List Json → List Char
  | [] => []
  | item :: items => ',' :: newLine depth ++ print depth item ++ printItems depth items

/-- The members of an object after the first. -/
def printMembers (depth : Nat) : List (String × Json) → List Char
  | [] => []
  | (key, value) :: members =>
    ',' :: newLine depth ++ printString key ++ ':' :: ' ' :: print depth value
      ++ printMembers depth members

end

/-- A whole document as text. -/
def toText (document : Json) : String :=
  String.ofList (document.print 0)

end TaskQuery.Json
