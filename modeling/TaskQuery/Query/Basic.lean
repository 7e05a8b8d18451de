import TaskQuery.Text.Quoted

/-!
# Queries

A query has free-text terms, each with an operator that says how it combines with
the terms before it, and field filters, each a constraint on one attribute of a
task.  Filter values are kept as they were written; they are read as numbers or
dates when a task is compared with them.
-/

namespace TaskQuery

/-- How a term combines with the terms before it. -/
inductive Operator where
  | and
  | or
  | not
deriving DecidableEq

/-- The word an operator is written as. -/
def Operator.name : Operator → String
  | .and => "AND"
  | .or => "OR"
  | .not => "NOT"

/-- The attribute of a task that a filter looks at. -/
inductive Field where
  | title
  | description
  | amount
  | sectionTitle
  | priority
  | status
  | dueDate
deriving DecidableEq

/-- The name of a field in explanations and records. -/
def Field.name : Field → String
  | .title => "title"
  | .description => "description"
  | .amount => "amount"
  | .sectionTitle => "section"
  | .priority => "priority"
  | .status => "status"
  | .dueDate => "dueDate"

/-- How a filter compares the attribute with its value. -/
inductive Comparison where
  | equals
  | contains
  | greaterThan
  | lessThan
  | greaterOrEqual
  | lessOrEqual
deriving DecidableEq

/-- The name of a comparison in explanations and records. -/
def Comparison.name : Comparison → String
  | .equals => "equals"
  | .contains => "contains"
  | .greaterThan => "greaterThan"
  | .lessThan => "lessThan"
  | .greaterOrEqual => "greaterOrEqual"
  | .lessOrEqual => "lessOrEqual"

/-- A free-text term, without the marks it was written with. -/
structure Term where
  text : String
  exactPhrase : Bool := false
  wildcard : Bool := false
  operator : Operator := .and
deriving DecidableEq

/-- A constraint on one attribute of a task. -/
structure FieldFilter where
  field : Field
  comparison : Comparison
  value : String
deriving DecidableEq

/-- What a search text says. -/
structure Query where
  terms : List Term := []
  filters : List FieldFilter := []
deriving DecidableEq

namespace Query

/-- A query without terms and filters holds of every task. -/
def isEmpty (query : Query) : Bool :=
  query.terms.isEmpty && query.filters.isEmpty

end Query

/-!
## Explaining a query

A query is explained by one line for each of its terms, then one for each of its
filters.  Texts are quoted, so that no text can be taken for more than one line
and two different queries never read the same.
-/

open Text

/-- The remarks on a term: whether it is a phrase and whether it matches the
start of a word. -/
def Term.remarks (term : Term) : String :=
  match term.exactPhrase, term.wildcard with
  | true, true => " [phrase, prefix]"
  | true, false => " [phrase]"
  | false, true => " [prefix]"
  | false, false => ""

/-- The name of an operator, filled up with spaces to the width of the longest. -/
def Operator.column : Operator → String
  | .and => "AND"
  | .or => "OR "
  | .not => "NOT"

/-- The line that explains a term. -/
def Term.explain (term : Term) : String :=
  term.operator.column ++ " " ++ quoted term.text ++ term.remarks

/-- The line that explains a filter. -/
def FieldFilter.explain (filter : FieldFilter) : String :=
  "FILTER " ++ filter.field.name ++ " " ++ filter.comparison.name ++ " " ++ quoted filter.value

namespace Query

/-- The lines that explain a query. -/
def explainLines (query : Query) : List String :=
  if query.isEmpty then ["(empty query: matches every task)"]
  else query.terms.map Term.explain ++ query.filters.map FieldFilter.explain

/-- The explanation of a query, a line feed after every line. -/
def explain (query : Query) : String :=
  String.join (query.explainLines.map (· ++ "\n"))

end Query

end TaskQuery
