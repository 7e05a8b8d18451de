import TaskQuery.Calendar.Date
import TaskQuery.Number.Binary64
import TaskQuery.Number.Numeral
import TaskQuery.Query.Basic
import TaskQuery.Task
import TaskQuery.Text.Basic
import TaskQuery.Text.Case

/-!
# Tasks that match a query

A task matches a query if it satisfies the free-text terms and passes every filter.
-/

namespace TaskQuery.Task

open Text

/-!
## What a free-text term is looked for in

A term is looked for in the case-folded title, description, email subject and
sender, section title, amount (with and without a dollar sign), priority and the
words for the state of the task.
-/

/-- The words for the state of a task. -/
def statusWords (task : Task) : List (List Char) :=
  if task.completed then ["completed".toList, "complete".toList]
  else ["incomplete".toList, "todo".toList]

/-- The case-folded form of a text that may be missing. -/
def foldedEntry (text : Option String) : List (List Char) :=
  text.toList.map folded

/-- The amount of a task as searches see it. -/
def amountEntries (amount : Option Binary64) : List (List Char) :=
  match amount with
  | none => []
  | some amount => [amount.twoPlaces, '$' :: amount.twoPlaces]

/-- The case-folded texts that free-text terms are looked for in. -/
def searchText (task : Task) (sections : List Section) : List (List Char) :=
  [folded task.title, folded task.description]
    ++ foldedEntry task.emailSubject ++ foldedEntry task.emailSender
    ++ foldedEntry (task.sectionTitle sections) ++ amountEntries task.amount
    ++ folded task.priority.displayName :: task.statusWords

end TaskQuery.Task

/-!
## Free-text terms

Each term hits a task or not, and the hits are combined from left to right.  A run
of terms with `OR` forms a group that starts from the result so far; the group is
closed, and its result taken over, by the next term with another operator and at the
end.
-/

namespace TaskQuery

open Text

/-! ### One term -/

/-- Whether a text contains another one. -/
def occursIn (needle : List Char) : List Char → Bool
  | [] => needle.isEmpty
  | c :: rest => needle.isPrefixOf (c :: rest) || occursIn needle rest

namespace Term

/-- Whether only the start of a word counts as a hit. -/
def matchesWordStart (term : Term) : Bool :=
  term.wildcard && !term.exactPhrase

/-- Whether a term hits one of the texts of a task. -/
def hits (term : Term) (entries : List (List Char)) : Bool :=
  let needle := folded term.text
  if term.matchesWordStart then
    entries.any fun entry => (words entry).any needle.isPrefixOf
  else entries.any (occursIn needle)

end Term

/-! ### All terms -/

/-- The result of the terms so far, and the result of the group that is open. -/
structure Tally where
  result : Bool := true
  openGroup : Option Bool := none

namespace Tally

/-- Takes over the result of the open group, if there is one. -/
def close (tally : Tally) : Bool :=
  match tally.openGroup with
  | none => tally.result
  | some group => tally.result && group

/-- Adds the next term.  A term with `OR` opens a group with the result so far or
joins the one that is open; any other term closes the group first. -/
def step (tally : Tally) (operator : Operator) (hit : Bool) : Tally :=
  match operator with
  | .or =>
    match tally.openGroup with
    | none => { result := true, openGroup := some (tally.result || hit) }
    | some group => { tally with openGroup := some (group || hit) }
  | .not => { result := tally.close && !hit }
  | .and => { result := tally.close && hit }

end Tally

/-- Whether a task with the given texts satisfies a list of terms. -/
def satisfiesTerms (terms : List Term) (entries : List (List Char)) : Bool :=
  let start : Tally := {}
  (terms.foldl (fun tally term => tally.step term.operator (term.hits entries)) start).close

/-!
## Field filters

A filter compares one attribute of a task with its case-folded value.  A value that
cannot be read as the number or day that the attribute calls for makes the filter
fail, and so does a missing attribute.

The words `today`, `tomorrow` and `yesterday` name days by the clock of the due
date's own frame.  A day outside the years 1 to 9999 cannot be named, and this is
the only way in which a filter has no answer.
-/

/-- Why it cannot be said whether a task matches. -/
inductive MatchFault where
  /-- The clock or the named day leaves the years 1 to 9999. -/
  | dateOutOfRange
deriving DecidableEq

/-- What is wrong, in words. -/
def MatchFault.message : MatchFault → String
  | .dateOutOfRange => "date value out of range"

/-! ### Texts and amounts -/

/-- Compares a text with a value: for equality, or else for containment. -/
def Comparison.holdsText (comparison : Comparison) (text value : List Char) : Bool :=
  match comparison with
  | .equals => text == value
  | _ => occursIn value text

/-- Amounts closer than this count as equal. -/
def amountTolerance : Binary64 :=
  .ofDecimal false 1 (-2)

/-- Compares an amount with a number.  No amount contains a number. -/
def Comparison.holdsAmount (comparison : Comparison) (amount number : Binary64) : Bool :=
  match comparison with
  | .equals => (amount.sub number).abs.lt amountTolerance
  | .greaterThan => number.lt amount
  | .lessThan => amount.lt number
  | .greaterOrEqual => number.le amount
  | .lessOrEqual => amount.le number
  | .contains => false

/-! ### Due dates -/

/-- A day named relative to the day of the clock. -/
inductive RelativeDay where
  | today
  | tomorrow
  | yesterday
deriving DecidableEq

namespace RelativeDay

/-- The relative day that a case-folded value names. -/
def ofValue? (value : List Char) : Option RelativeDay :=
  if value = "today".toList then some .today
  else if value = "tomorrow".toList then some .tomorrow
  else if value = "yesterday".toList then some .yesterday
  else none

/-- The calendar day, seen from the day of the clock. -/
def from? (date : Date) : RelativeDay → Option Date
  | .today => some date
  | .tomorrow => date.next?
  | .yesterday => date.previous?

end RelativeDay

/-- The calendar day that a value names for a due date in a frame, where `now` is
the moment of the search; none if the value names no day. -/
def resolveDay (value : List Char) (frame : Option Zone) (now : DateTime) :
    Except MatchFault (Option Date) :=
  match RelativeDay.ofValue? value with
  | some relative =>
    match (now.inFrame? frame).bind fun shown => relative.from? shown.date with
    | some date => .ok (some date)
    | none => .error .dateOutOfRange
  | none => .ok (Date.ofDayText? value)

/-- Compares a due date with the start of a day in its own frame.  At least and at
most hold also of any time on the day itself. -/
def Comparison.holdsDueDate (comparison : Comparison) (due : DateTime) (date : Date) : Bool :=
  let start := (DateTime.startOf date).clock
  let sameDay := due.date == date
  match comparison with
  | .equals => sameDay
  | .contains => sameDay
  | .greaterThan => decide (start < due.clock)
  | .lessThan => decide (due.clock < start)
  | .greaterOrEqual => decide (start ≤ due.clock) || sameDay
  | .lessOrEqual => decide (due.clock ≤ start) || sameDay

/-! ### One filter -/

/-- The section values that a task without a section satisfies. -/
def unsectionedValues : List (List Char) :=
  ["none".toList, "null".toList]

/-- Whether a task passes a filter. -/
def FieldFilter.passes (filter : FieldFilter) (task : Task) (sections : List Section)
    (now : DateTime) : Except MatchFault Bool :=
  let value := folded filter.value
  match filter.field with
  | .title => .ok (filter.comparison.holdsText (folded task.title) value)
  | .description => .ok (filter.comparison.holdsText (folded task.description) value)
  | .amount =>
    match task.amount, Number.numeral? value with
    | some amount, some number => .ok (filter.comparison.holdsAmount amount number)
    | _, _ => .ok false
  | .sectionTitle =>
    match task.sectionTitle sections with
    | some title => .ok (filter.comparison.holdsText (folded title) value)
    | none => .ok (unsectionedValues.contains value)
  | .priority => .ok (filter.comparison.holdsText (folded task.priority.displayName) value)
  | .status => .ok (task.statusWords.contains value)
  | .dueDate =>
    match task.dueDate with
    | none => .ok false
    | some due => do
      match ← resolveDay value due.zone now with
      | none => pure false
      | some date => pure (filter.comparison.holdsDueDate due date)

/-!
## Tasks that match a query

A task matches a query if it satisfies the free-text terms and passes every filter.
Filters are tried from left to right and only until one fails, and none is tried
when the terms already fail.
-/

/-- Whether a task passes all filters of a list. -/
def passesFilters (task : Task) (sections : List Section) (now : DateTime) :
    List FieldFilter → Except MatchFault Bool
  | [] => .ok true
  | filter :: filters => do
    if ← filter.passes task sections now then passesFilters task sections now filters
    else pure false

/-- Whether a task matches a query at the moment `now`. -/
def Query.matches (query : Query) (task : Task) (sections : List Section) (now : DateTime) :
    Except MatchFault Bool :=
  if satisfiesTerms query.terms (task.searchText sections) then
    passesFilters task sections now query.filters
  else .ok false

end TaskQuery
