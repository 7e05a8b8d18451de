import TaskQuery.Query.Token

/-!
# From a search text to a query

Every text has a query: what is not a filter, a phrase or a keyword is a term, and
a word that is only marks is nothing at all.  The text is read from place to place.

* A keyword sets the operator of the next token and of no later one; the last of
  several keywords counts.
* `-word` excludes the word, whatever keyword stands before it.
* `word*` asks for a word that starts with `word`.
* `name:value` is a filter if `name` is a field name and `value` is not empty.  The
  value may start with `>=`, `<=`, `>`, `<` or `=`; without one of these the filter asks
  for containment.
-/

namespace TaskQuery

open Text

/-! ## Field filters -/

/-- The names a field goes by in search texts. -/
def fieldNames : List (String × Field) := [
  ("title", .title), ("name", .title),
  ("desc", .description), ("description", .description), ("notes", .description),
  ("amount", .amount), ("price", .amount), ("cost", .amount),
  ("section", .sectionTitle), ("category", .sectionTitle),
  ("priority", .priority),
  ("status", .status), ("complete", .status), ("completed", .status),
  ("due", .dueDate), ("duedate", .dueDate), ("date", .dueDate)]

/-- The field that a name in any letter case stands for. -/
def Field.ofName? (name : List Char) : Option Field :=
  fieldNames.lookup (String.ofList (lower name))

/-- Takes the comparison sign off the front of a filter value. -/
def Comparison.ofMarked : List Char → Comparison × List Char
  | '>' :: '=' :: value => (.greaterOrEqual, value)
  | '<' :: '=' :: value => (.lessOrEqual, value)
  | '>' :: value => (.greaterThan, value)
  | '<' :: value => (.lessThan, value)
  | '=' :: value => (.equals, value)
  | value => (.contains, value)

/-- The filter that a word stands for. -/
def FieldFilter.ofWord? (word : List Char) : Option FieldFilter :=
  match cutAt ':' word with
  | (_, none) => none
  | (name, some marked) =>
    if name.isEmpty || marked.isEmpty then none
    else
      (Field.ofName? name).map fun field =>
        let (comparison, value) := Comparison.ofMarked marked
        { field, comparison, value := String.ofList value }

/-! ## Terms -/

/-- Takes the star off the end of a word, and says whether there was one. -/
def cutStar (word : List Char) : List Char × Bool :=
  if word.getLast? = some '*' then (word.dropLast, true) else (word, false)

/-- The term that a word stands for after a keyword, if any of it is left without
its marks. -/
def Term.ofWord? (pending : Operator) (word : List Char) : Option Term :=
  let (marked, operator) :=
    match word with
    | '-' :: rest => (rest, .not)
    | _ => (word, pending)
  let (text, wildcard) := cutStar marked
  if text.isEmpty then none
  else some { text := String.ofList text, wildcard, operator }

/-! ## Queries -/

namespace Query

/-- The query with one more term. -/
def addTerm (found : Query) (term : Term) : Query :=
  { found with terms := found.terms ++ [term] }

/-- The query with one more filter. -/
def addFilter (found : Query) (filter : FieldFilter) : Query :=
  { found with filters := found.filters ++ [filter] }

/-- The query with what a word stands for after a keyword. -/
def addWord (found : Query) (pending : Operator) (word : List Char) : Query :=
  match FieldFilter.ofWord? word with
  | some filter => found.addFilter filter
  | none =>
    match Term.ofWord? pending word with
    | some term => found.addTerm term
    | none => found

/-- Reads a text from a place on, where `pending` is the operator of the keyword just
before it and `found` the query of what came earlier. -/
def parseFrom (source : List Char) (place : Nat) (pending : Operator) (found : Query) : Query :=
  let start := Token.skipBlanks source place
  if inside : start < source.length then
    match isKeyword : Token.keywordFrom? source start with
    | some (operator, stop) => parseFrom source stop operator found
    | none =>
      if source[start] = '"' then
        let phrase := Token.phraseFrom source start
        let term : Term :=
          { text := String.ofList phrase.1, exactPhrase := true, operator := pending }
        parseFrom source phrase.2 .and (found.addTerm term)
      else
        let word := Token.wordFrom source start
        -- no word is empty here, because blanks were skipped
        if isEmpty : word.1.isEmpty = true then parseFrom source (start + 1) pending found
        else parseFrom source word.2 .and (found.addWord pending word.1)
  else found
termination_by source.length - place
decreasing_by
  -- what is read ends behind the place where it starts
  all_goals
    have behind : place ≤ start := Nat.le_add_right ..
    refine Nat.sub_lt_sub_left (Nat.lt_of_le_of_lt behind inside) (Nat.lt_of_le_of_lt behind ?_)
  · exact Token.lt_of_keywordFrom? inside isKeyword
  · exact Token.lt_phraseFrom inside
  · exact Nat.lt_succ_self start
  · exact Token.lt_wordFrom (Bool.eq_false_iff.2 isEmpty)

/-- The query of a search text. -/
def parse (text : String) : Query :=
  let source := trim text.toList
  if source.isEmpty then {} else parseFrom source 0 .and {}

end Query

end TaskQuery
