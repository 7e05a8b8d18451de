import TaskQuery.Calendar.DateTime
import TaskQuery.Number.Binary64
import TaskQuery.Text.Basic
import TaskQuery.Text.Case
import TaskQuery.Value.Text

/-!
# Tasks and sections

Tasks, their priorities and the sections that they belong to.
-/

namespace TaskQuery

open Text

/-!
## Priority levels

A task has one of four levels, from none to high.  Data names a level by its
number or by its name in any letter case, and null stands for none.
-/

/-- The priority of a task. -/
inductive Priority where
  | none
  | low
  | medium
  | high
deriving DecidableEq

/-- Why a value names no priority. -/
inductive PriorityFault where
  /-- A whole number that is not the number of a level. -/
  | noLevel (number : Int)
  /-- A value, as it is shown, that is neither a number nor a name. -/
  | unknown (shown : String)
  /-- A value that names no level and is too long to be shown. -/
  | longNumber
deriving DecidableEq

/-- What is wrong, in words. -/
def PriorityFault.message : PriorityFault → String
  | .noLevel number => toString number ++ " is not a valid Priority"
  | .unknown shown => "Unknown priority: " ++ shown
  | .longNumber => Number.longNumberMessage

namespace Priority

/-- The levels in ascending order. -/
def levels : List Priority :=
  [.none, .low, .medium, .high]

/-- The number of a level. -/
def level : Priority → Nat
  | .none => 0
  | .low => 1
  | .medium => 2
  | .high => 3

/-- The name of a level as it is shown and searched for. -/
def displayName : Priority → String
  | .none => "None"
  | .low => "Low"
  | .medium => "Medium"
  | .high => "High"

/-- The name of a level in capital letters. -/
def capitalName : Priority → String
  | .none => "NONE"
  | .low => "LOW"
  | .medium => "MEDIUM"
  | .high => "HIGH"

/-- The level with a number. -/
def ofLevel? (number : Int) : Option Priority :=
  levels.find? fun priority => (priority.level : Int) == number

/-- The level with a name, in any letter case and with blanks around. -/
def ofName? (name : String) : Option Priority :=
  let capital := String.ofList (upper (trim name.toList))
  levels.find? fun priority => priority.capitalName == capital

/-- The priority that a value names; null, or no value, is no priority. -/
def ofValue : Option Value → Except PriorityFault Priority
  | Option.none => .ok .none
  | some (.scalar .null) => .ok .none
  | some (.scalar (.int number)) =>
    match ofLevel? number with
    | some priority => .ok priority
    | Option.none => .error (if Number.isLong number then .longNumber else .noLevel number)
  | some (.scalar (.string name)) =>
    match ofName? name with
    | some priority => .ok priority
    | Option.none => .error (.unknown (quoted name))
  | some value =>
    match value.shown? with
    | some shown => .error (.unknown shown)
    | Option.none => .error .longNumber

end Priority

/-!
## Tasks and sections

A task may belong to a section, which it names by identifier.  The identifier may
lead nowhere; then the task is treated as one without a section.
-/

/-- A named group of tasks. -/
structure Section where
  id : String
  title : String
  sortOrder : Int := 0
deriving DecidableEq

/-- A task.  A due date without offset is local time. -/
structure Task where
  id : String
  title : String
  description : String := ""
  emailSubject : Option String := none
  emailSender : Option String := none
  amount : Option Binary64 := none
  priority : Priority := .none
  completed : Bool := false
  dueDate : Option DateTime := none
  sectionId : Option String := none
deriving DecidableEq

/-- The first section with an identifier. -/
def findSection (sections : List Section) (id : Option String) : Option Section :=
  id.bind fun id => sections.find? (·.id == id)

/-- The section that a task belongs to, if its identifier leads to one. -/
def Task.sectionIn (task : Task) (sections : List Section) : Option Section :=
  findSection sections task.sectionId

/-- The title of the section that a task belongs to. -/
def Task.sectionTitle (task : Task) (sections : List Section) : Option String :=
  (task.sectionIn sections).map (·.title)

end TaskQuery
