import TaskQuery.Yaml.Flow

/-!
# Reading YAML text

The block structure of a document, and the whole text.

Anchors and aliases, tags, block scalars and flow collections over several lines are not
supported, and a text that uses one of them is refused.  So files are read with any
`YamlReader`, and this is the one that the program is run with.
-/

namespace TaskQuery.Yaml

/-!
## Nodes on several lines

The lines of a sequence or mapping stand at one column.  What belongs to an entry
stands further in, except that a sequence may stand at the column of the key it
belongs to.  A plain scalar goes on over lines that stand further in than the entry
it belongs to.

The readers take lines off the front of a list and return the lines that are left.
-/

/-- A line: the number of spaces it starts with and the rest of it. -/
structure Line where
  indent : Nat
  text : List Char

/-- The line that a text without line end is. -/
def Line.ofText (text : List Char) : Line where
  indent := (text.takeWhile (· == ' ')).length
  text := skipBlanks text

/-- Whether a line has nothing on it, or only a comment. -/
def Line.isVoid (line : Line) : Bool :=
  isDone line.text

/-- The lines from the first one on that says something. -/
def skipVoid (lines : List Line) : List Line :=
  lines.dropWhile Line.isVoid

/-- Whether a line starts with the dash of a sequence item. -/
def startsItem : List Char → Bool
  | '-' :: rest => endsPiece rest
  | _ => false

/-- The key of a line and what follows its colon, if the line has a key.  The
line itself has to be in order. -/
def splitKey? (text : List Char) : Option (Option (Node × List Char)) := do
  let (head, after) ← takeHead? text
  match after with
  | ':' :: rest =>
    if !endsPiece rest then some none
    else if isKeyLength text after then some (some (head, rest))
    else none
  | _ => some none

/-! ### Scalars over several lines -/

/-- The text between two lines of a plain scalar with so many empty lines between
them. -/
def foldBreak (emptyLines : Nat) : List Char :=
  if emptyLines = 0 then [' '] else List.replicate emptyLines '\n'

/-- Goes on with a plain scalar over the lines that stand at least at column
`least`, where `emptyLines` counts the empty lines before. -/
def continuePlain? (least emptyLines : Nat) (content : List Char) :
    List Line → Option (List Char × List Line)
  | [] => some (content, [])
  | line :: lines =>
    if line.text.isEmpty then continuePlain? least (emptyLines + 1) content lines
    else if line.indent < least || line.text.head? == some '#' then
      some (content, line :: lines)
    else
      let (more, after) := takePlain false [] line.text
      let longer := content ++ foldBreak emptyLines ++ more
      if after.isEmpty then continuePlain? least 0 longer lines
      else if isDone after && !more.isEmpty then some (longer, lines)
      else none

/-- Reads a node that stands on the rest of a line and can go on, if it is plain,
at column `least`. -/
def readInline? (least : Nat) (text : List Char) (lines : List Line) :
    Option (Node × List Line) := do
  let (node, after) ← takeHead? text
  match node, after with
  | .scalar true content, [] => do
    let (whole, rest) ← continuePlain? least 0 content lines
    some (.scalar true whole, rest)
  | node, after => if isDone after then some (node, lines) else none

/-! ### Sequences and mappings -/

/-- The column and text of what follows the dash of an item. -/
def itemRest (column : Nat) : List Char → Line
  | [] => ⟨column, []⟩
  | _ :: rest =>
    let line := Line.ofText rest
    ⟨column + 1 + line.indent, line.text⟩

mutual

/-- Reads the node whose first line stands at least at column `least`; without such
a line it is empty.  The fuel is to exceed twice the number of characters and
lines. -/
def readNode? : Nat → Nat → List Line → Option (Node × List Line)
  | 0, _, _ => none
  | fuel + 1, least, lines =>
    match skipVoid lines with
    | [] => some (Node.empty, [])
    | line :: rest =>
      if line.indent < least then some (Node.empty, line :: rest)
      else if startsItem line.text then do
        let (items, after) ← readItems? fuel line.indent (line :: rest)
        some (.sequence items, after)
      else do
        match ← splitKey? line.text with
        | some _ => do
          let (entries, after) ← readEntries? fuel line.indent (line :: rest)
          some (.mapping entries, after)
        | none => readInline? least line.text rest

/-- Reads the items of a sequence at a column. -/
def readItems? : Nat → Nat → List Line → Option (List Node × List Line)
  | 0, _, _ => none
  | fuel + 1, column, lines =>
    match skipVoid lines with
    | [] => some ([], [])
    | line :: rest =>
      if column < line.indent then none
      else if line.indent < column || !startsItem line.text then some ([], line :: rest)
      else do
        let item := itemRest column line.text
        let (node, after) ←
          readNode? fuel (column + 1) (if item.isVoid then rest else item :: rest)
        let (nodes, after) ← readItems? fuel column after
        some (node :: nodes, after)

/-- Reads the entries of a mapping at a column. -/
def readEntries? : Nat → Nat → List Line → Option (List (Node × Node) × List Line)
  | 0, _, _ => none
  | fuel + 1, column, lines =>
    match skipVoid lines with
    | [] => some ([], [])
    | line :: rest =>
      if column < line.indent then none
      else if line.indent < column then some ([], line :: rest)
      else do
        let (key, text) ← (← splitKey? line.text)
        let (value, after) ←
          if isDone text then
            match skipVoid rest with
            | next :: others =>
              if next.indent = column && startsItem next.text then do
                let (items, after) ← readItems? fuel column (next :: others)
                some (Node.sequence items, after)
              else readNode? fuel (column + 1) (next :: others)
            | [] => some (Node.empty, [])
          else readInline? (column + 1) (skipBlanks text) rest
        let (entries, after) ← readEntries? fuel column after
        some ((key, value) :: entries, after)

end

/-!
## Reading YAML text

A text holds one document, which the mark `---` may begin and the mark `...` may
end.  A text without a document is null.  A second document is a fault.
-/

/-- Whether a character may stand in YAML text. -/
def isAllowed (c : Char) : Bool :=
  let code := c.toNat
  code == 0x09 || code == 0x0A || code == 0x0D || (decide (0x20 ≤ code) && decide (code ≤ 0x7E))
    || code == 0x85 || (decide (0xA0 ≤ code) && decide (code ≤ 0xFFFD))
    || decide (0x10000 ≤ code)

/-- Whether a character ends a line of YAML text. -/
def isBreak (c : Char) : Bool :=
  c == '\n' || c == '\r' || c == '\u0085' || c == '\u2028' || c == '\u2029'

/-- Puts a character in front of the first line. -/
def consToLine (c : Char) : List (List Char) → List (List Char)
  | [] => [[c]]
  | line :: lines => (c :: line) :: lines

/-- The lines of a text. -/
def splitLines : List Char → List (List Char)
  | [] => [[]]
  | '\r' :: '\n' :: rest => [] :: splitLines rest
  | c :: rest => if isBreak c then [] :: splitLines rest else consToLine c (splitLines rest)

/-- Whether a line is a mark, alone or with something after a space. -/
def isMark (mark : List Char) (line : Line) : Bool :=
  line.indent == 0 && mark.isPrefixOf line.text && endsPiece (line.text.drop mark.length)

/-- The mark that begins a document. -/
def beginMark : List Char :=
  ['-', '-', '-']

/-- The mark that ends a document. -/
def endMark : List Char :=
  ['.', '.', '.']

/-- Whether a line is one of the two marks. -/
def isAnyMark (line : Line) : Bool :=
  isMark beginMark line || isMark endMark line

/-- Whether the lines after a document are in order: only the end mark and lines
that say nothing. -/
def endsWell (lines : List Line) : Bool :=
  lines.all fun line => line.isVoid || (isMark endMark line && isDone (line.text.drop 3))

/-- The node of the lines of a document, where `first` is what stands on the line
of its begin mark. -/
def readDocument? (first : List Char) (lines : List Line) : Option Node :=
  let size := lines.foldl (fun size line => size + line.text.length + 2) 0
  let fuel := 2 * size + 2
  let result :=
    if isDone first then readNode? fuel 0 lines else readInline? 0 (skipBlanks first) lines
  match result with
  | none => none
  | some (node, rest) => if (skipVoid rest).isEmpty then some node else none

/-- The node of a text. -/
def readNodes? (text : List Char) : Option Node :=
  if !text.all isAllowed then none
  else
    let shown :=
      match text with
      | '\ufeff' :: rest => rest
      | text => text
    match skipVoid ((splitLines shown).map Line.ofText) with
    | [] => some Node.empty
    | line :: lines =>
      let (first, body) :=
        if isMark beginMark line then (line.text.drop 3, lines) else ([], line :: lines)
      let (document, rest) := body.span fun line => !isAnyMark line
      if (!isMark beginMark line && isAnyMark line) || !endsWell rest then none
      else readDocument? first document

/-- The value of a text. -/
def read (text : List Char) : Except YamlFault Value :=
  match readNodes? text with
  | none => .error .malformed
  | some node => node.toValue

end TaskQuery.Yaml
