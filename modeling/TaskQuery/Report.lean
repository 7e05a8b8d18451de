import TaskQuery.Calendar.DateTime
import TaskQuery.Json.Document
import TaskQuery.Number.Binary64
import TaskQuery.Query.Basic
import TaskQuery.Task
import TaskQuery.Text.Basic

/-!
# Reports

Tasks and queries as records, and tasks as text.
-/

namespace TaskQuery

/-!
## Tasks and queries as JSON

Records keep their members in a fixed order.  The record of a task has the fields
that a snapshot reads, so records can be read back, and the title of its section
besides.
-/

/-- The record of a task. -/
def Task.record (sections : List Section) (task : Task) : Json :=
  .object [
    ("id", .string task.id),
    ("title", .string task.title),
    ("description", .string task.description),
    ("email_subject", .ofText? task.emailSubject),
    ("email_sender", .ofText? task.emailSender),
    ("amount", (task.amount.map Json.float).getD .null),
    ("priority", .string task.priority.displayName),
    ("completed", .bool task.completed),
    ("due_date", .ofText? (task.dueDate.map DateTime.isoText)),
    ("section_id", .ofText? task.sectionId),
    ("section", .ofText? (task.sectionTitle sections))]

/-- The record of a term. -/
def Term.record (term : Term) : Json :=
  .object [
    ("text", .string term.text),
    ("operator", .string term.operator.name),
    ("exact_phrase", .bool term.exactPhrase),
    ("wildcard", .bool term.wildcard)]

/-- The record of a filter. -/
def FieldFilter.record (filter : FieldFilter) : Json :=
  .object [
    ("field", .string filter.field.name),
    ("comparison", .string filter.comparison.name),
    ("value", .string filter.value)]

/-- The record of a query. -/
def Query.record (query : Query) : Json :=
  .object [
    ("terms", .array (query.terms.map Term.record)),
    ("field_filters", .array (query.filters.map FieldFilter.record))]

/-- The record of a search: its text, its query and the tasks it found. -/
def searchRecord (sections : List Section) (text : String) (query : Query) (tasks : List Task) :
    Json :=
  .object [
    ("query", .string text),
    ("parsed", query.record),
    ("tasks", .array (tasks.map (Task.record sections)))]

end TaskQuery

/-!
## Tasks as text

Each task is a block of lines: a numbered heading, then the attributes that it has,
and always a line for the due date.  An empty line stands between two blocks, and
the whole text ends in one line feed and no other blank.
-/

namespace TaskQuery.Report

open Text

/-- The line of an attribute, or no line if it is missing. -/
def labelled {α : Type} (label : String) (value : Option α) (write : α → List Char) :
    List (List Char) :=
  value.toList.map fun found => ("   " ++ label ++ ": ").toList ++ write found

/-- The text, unless it is empty. -/
def nonempty (text : String) : Option String :=
  if text.isEmpty then none else some text

/-- The due date of a task as a day, or a dash. -/
def dueText : Option DateTime → List Char
  | none => ['-']
  | some due => due.date.plainChars

/-- The subject and sender of an email, with a dash for a missing sender. -/
def emailText (sender : Option String) (subject : String) : List Char :=
  subject.toList ++ " (".toList ++ ((sender.bind nonempty).getD "-").toList ++ [')']

/-- The line that a block starts with. -/
def heading (number : Nat) (task : Task) : List Char :=
  Nat.toDigits 10 number ++ ". [".toList ++ (if task.completed then 'x' else ' ') :: "] ".toList
    ++ task.title.toList

/-- The lines about one task. -/
def block (sections : List Section) (number : Nat) (task : Task) : List (List Char) :=
  [heading number task]
    ++ labelled "Section" (task.sectionTitle sections) String.toList
    ++ labelled "Priority" (if task.priority = .none then none else some task.priority)
      (·.displayName.toList)
    ++ labelled "Amount" task.amount (fun amount => '$' :: amount.twoPlaces)
    ++ labelled "Due" (some task.dueDate) dueText
    ++ labelled "Email" (task.emailSubject.bind nonempty) (emailText task.emailSender)
    ++ labelled "Notes" (nonempty task.description) String.toList

/-- The lines about several tasks, numbered from `number` on, with an empty line
after each block. -/
def blocks (sections : List Section) (number : Nat) : List Task → List (List Char)
  | [] => []
  | task :: tasks => block sections number task ++ [] :: blocks sections (number + 1) tasks

/-- Tasks as text. -/
def text (sections : List Section) (tasks : List Task) : List Char :=
  match tasks with
  | [] => "No matching tasks.\n".toList
  | tasks => trimEnd (['\n'].intercalate (blocks sections 1 tasks)) ++ ['\n']

end TaskQuery.Report
