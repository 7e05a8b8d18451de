import TaskQuery.Yaml.Node

/-!
# Nodes on one line

A node that stands on one line is a plain scalar, a scalar in single or double
quotes, or a sequence in brackets or a mapping in braces.  A tab is allowed only
between quotes.  Inside brackets and braces a plain scalar also ends at a comma,
bracket, brace or question mark.

Each reader takes its piece off the front of the line and returns what follows.
-/

namespace TaskQuery.Yaml

/-- The line after the spaces it starts with. -/
def skipBlanks (text : List Char) : List Char :=
  text.dropWhile (· == ' ')

/-- Whether nothing but a comment is left of a line. -/
def isDone (text : List Char) : Bool :=
  match skipBlanks text with
  | [] => true
  | c :: _ => c == '#'

/-- Whether a piece ends in front of this text. -/
def endsPiece : List Char → Bool
  | [] => true
  | c :: _ => c == ' ' || c == '\t'

/-! ## Plain scalars -/

/-- The characters that have a meaning of their own inside brackets and braces. -/
def flowMarks : List Char :=
  [',', '?', '[', ']', '\x7b', '\x7d']

/-- The characters that a plain scalar does not start with. -/
def indicators : List Char :=
  ['-', '?', ':', ',', '[', ']', '\x7b', '\x7d', '#', '&', '*', '!', '|', '>', '\'', '"', '%', '@',
    '\x60', '\t']

/-- Whether a plain scalar may start here.  A dash, and outside brackets also a
question mark or colon, may start one if no space follows. -/
def startsPlain (inFlow : Bool) : List Char → Bool
  | [] => false
  | c :: rest =>
    if indicators.contains c then
      !endsPiece rest && (c == '-' || (!inFlow && (c == '?' || c == ':')))
    else true

/-- Whether a colon in front of this text ends a plain scalar. -/
def endsKey (inFlow : Bool) (rest : List Char) : Bool :=
  endsPiece rest ||
    (inFlow && (rest.head?.map fun c => c == ',' || c == '[' || c == ']' || c == '\x7b'
      || c == '\x7d').getD false)

/-- Takes a plain scalar off the front, where `pending` are the spaces before. -/
def takePlain (inFlow : Bool) (pending : List Char) : List Char → List Char × List Char
  | [] => ([], [])
  | ' ' :: rest => takePlain inFlow (' ' :: pending) rest
  | c :: rest =>
    if c = '\t' || (c = '#' && !pending.isEmpty) || (c = ':' && endsKey inFlow rest)
        || (inFlow && flowMarks.contains c) then ([], c :: rest)
    else
      let (more, after) := takePlain inFlow [] rest
      (pending ++ c :: more, after)

/-! ## Quoted scalars -/

/-- Reads a scalar after its single quote.  Two quotes stand for one. -/
def takeSingleQuoted? : List Char → Option (List Char × List Char)
  | [] => none
  | '\'' :: '\'' :: rest => do
    let (text, after) ← takeSingleQuoted? rest
    some ('\'' :: text, after)
  | c :: rest =>
    if c = '\'' then some ([], rest)
    else do
      let (text, after) ← takeSingleQuoted? rest
      some (c :: text, after)

/-- The characters that one letter after a backslash stands for. -/
def letterEscapes : List (Char × Char) := [
  ('0', '\x00'), ('a', '\x07'), ('b', '\x08'), ('t', '\t'), ('\t', '\t'), ('n', '\n'),
  ('v', '\x0b'), ('f', '\x0c'), ('r', '\r'), ('e', '\x1b'), (' ', ' '), ('"', '"'),
  ('\\', '\\'), ('/', '/'), ('N', '\u0085'), ('_', '\u00a0'), ('L', '\u2028'), ('P', '\u2029')]

/-- The numbers of hexadecimal digits that follow the letters of code escapes. -/
def codeEscapes : List (Char × Nat) :=
  [('x', 2), ('u', 4), ('U', 8)]

/-- Reads an escape after its backslash. -/
def takeEscape? : List Char → Option (Char × List Char)
  | [] => none
  | c :: rest =>
    match letterEscapes.lookup c with
    | some escaped => some (escaped, rest)
    | none => do
      let width ← codeEscapes.lookup c
      let digits := rest.take width
      if digits.length = width && digits.all fun digit => (digitInBase? 16 digit).isSome then
        some (Char.ofNat (valueInBase 16 digits), rest.drop width)
      else none

/-- Reads a scalar after its double quote.  The fuel is to be the length of the
text. -/
def takeDoubleQuoted? : Nat → List Char → Option (List Char × List Char)
  | 0, _ => none
  | _ + 1, [] => none
  | fuel + 1, c :: rest =>
    if c = '"' then some ([], rest)
    else if c = '\\' then do
      let (escaped, rest) ← takeEscape? rest
      let (text, after) ← takeDoubleQuoted? fuel rest
      some (escaped :: text, after)
    else do
      let (text, after) ← takeDoubleQuoted? fuel rest
      some (c :: text, after)

/-! ## Sequences and mappings -/

/-- The greatest number of characters from the start of a key to its colon. -/
def longestKey : Nat :=
  1024

/-- Whether a key is not too long, where `text` starts with the key and `after` with
its colon. -/
def isKeyLength (text after : List Char) : Bool :=
  decide (text.length ≤ after.length + longestKey)

/-- Whether the value of an entry is left out in front of this text. -/
def lacksValue (text : List Char) : Bool :=
  match text with
  | [] => false
  | c :: _ => c == ',' || c == ']' || c == '\x7d'

mutual

/-- Reads the node that a line starts with.  The fuel is to be twice the length of
the line. -/
def takeNode? (inFlow : Bool) : Nat → List Char → Option (Node × List Char)
  | 0, _ => none
  | fuel + 1, text =>
    match text with
    | [] => none
    | c :: rest =>
      if c = '\'' then do
        let (content, after) ← takeSingleQuoted? rest
        some (.scalar false content, after)
      else if c = '"' then do
        let (content, after) ← takeDoubleQuoted? (rest.length + 1) rest
        some (.scalar false content, after)
      else if c = '[' then do
        let (items, after) ← takeItems? fuel (skipBlanks rest)
        some (.sequence items, after)
      else if c = '\x7b' then do
        let (entries, after) ← takeEntries? fuel (skipBlanks rest)
        some (.mapping entries, after)
      else if startsPlain inFlow text then
        let (content, after) := takePlain inFlow [] text
        some (.scalar true content, after)
      else none

/-- Reads the value of an entry after its key: what follows the colon if there is
one.  The entry starts at `entry`. -/
def takeValue? (entry : List Char) : Nat → List Char → Option (Option Node × List Char)
  | 0, _ => none
  | fuel + 1, text =>
    match skipBlanks text with
    | ':' :: rest =>
      let marked := skipBlanks rest
      if !isKeyLength entry (':' :: rest) then none
      else if lacksValue marked then some (some Node.empty, marked)
      else do
        let (value, after) ← takeNode? true fuel marked
        some (some value, skipBlanks after)
    | rest => some (none, rest)

/-- Reads the items of a sequence up to its end.  An item with a colon is a mapping
of one entry. -/
def takeItems? : Nat → List Char → Option (List Node × List Char)
  | 0, _ => none
  | _ + 1, ']' :: rest => some ([], rest)
  | fuel + 1, text => do
    let (key, after) ← takeNode? true fuel text
    let (value, after) ← takeValue? text fuel after
    let item :=
      match value with
      | none => key
      | some value => Node.mapping [(key, value)]
    match after with
    | ',' :: rest => do
      let (items, after) ← takeItems? fuel (skipBlanks rest)
      some (item :: items, after)
    | ']' :: rest => some ([item], rest)
    | _ => none

/-- Reads the entries of a mapping up to its end.  An entry without a colon has the
value null. -/
def takeEntries? : Nat → List Char → Option (List (Node × Node) × List Char)
  | 0, _ => none
  | _ + 1, '\x7d' :: rest => some ([], rest)
  | fuel + 1, text => do
    let (key, after) ← takeNode? true fuel text
    let (value, after) ← takeValue? text fuel after
    let entry := (key, value.getD Node.empty)
    match after with
    | ',' :: rest => do
      let (entries, after) ← takeEntries? fuel (skipBlanks rest)
      some (entry :: entries, after)
    | '\x7d' :: rest => some ([entry], rest)
    | _ => none

end

/-- Reads the node that a line starts with, and skips the spaces after it. -/
def takeHead? (text : List Char) : Option (Node × List Char) :=
  (takeNode? false (2 * text.length + 2) text).map fun (node, after) => (node, skipBlanks after)

end TaskQuery.Yaml
