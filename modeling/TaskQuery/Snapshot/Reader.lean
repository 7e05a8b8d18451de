import TaskQuery.Log
import TaskQuery.Task
import TaskQuery.Value.Basic

/-!
# Snapshots

The tasks and sections that searches run against, and how they are read from decoded
data.

A task may name a section that the snapshot does not have; such dangling references
are kept and reported in one warning.
-/

namespace TaskQuery

/-- The tasks and sections at one point in time. -/
structure Snapshot where
  tasks : List Task := []
  sections : List Section := []
deriving DecidableEq

/-- Adds a text to a strictly increasing list, unless it is there already. -/
def insertDistinct (text : String) : List String → List String
  | [] => [text]
  | other :: rest =>
    if text < other then text :: other :: rest
    else if text = other then other :: rest
    else other :: insertDistinct text rest

/-- The distinct texts of a list in increasing order. -/
def sortDistinct (texts : List String) : List String :=
  texts.foldr insertDistinct []

namespace Snapshot

/-- The section identifier of a task if it is not empty and leads nowhere. -/
def danglingId? (sections : List Section) (task : Task) : Option String :=
  task.sectionId.filter fun id => !id.isEmpty && !sections.any (·.id == id)

/-- The identifiers of the sections that tasks name and the snapshot does not have,
each once and in increasing order. -/
def danglingIds (snapshot : Snapshot) : List String :=
  sortDistinct (snapshot.tasks.filterMap (danglingId? snapshot.sections))

/-- The warning about the identifiers of a list. -/
def danglingWarning (ids : List String) : LogLine where
  level := .warning
  message := "Tasks reference unknown sections: " ++ ", ".intercalate ids

end Snapshot

/-!
## Reading a snapshot from decoded data

The data is a mapping with a list of sections and a list of tasks, each of which may
be missing.  Everything is checked, and the first fault is reported, in the order:
the root, the list of sections, each section, the list of tasks, each task, and
section identifiers that occur twice.  Within a record the fields are checked in
the order in which they are read below; the priority of a task comes first.  When
nothing is wrong, dangling references are logged.

How the texts of due dates are read is a parameter, `readMoment`.
-/

open Text

/-- Why decoded data is no snapshot. -/
inductive SnapshotFault where
  /-- A value of the wrong type. -/
  | type (fault : TypeFault)
  /-- A record without a usable identifier. -/
  | missingId (place : String)
  /-- An identifier with a number in it that is too long to be turned into text. -/
  | longNumber
  /-- A task whose priority names no level. -/
  | priority (place : String) (fault : PriorityFault)
  /-- An amount that is too large for a floating-point number. -/
  | amountTooLarge
  /-- A due date that is no ISO 8601 text. -/
  | dueDate (place text : String)
  /-- A due date after the year 9999. -/
  | dueDateOutOfRange
  /-- A section with the identifier of an earlier one. -/
  | duplicateId (index : Nat) (id : String)
deriving DecidableEq

/-- What is wrong, in words. -/
def SnapshotFault.message : SnapshotFault → String
  | .type fault => fault.message
  | .missingId place => "Missing required field: " ++ place ++ ".id"
  | .longNumber => Number.longNumberMessage
  | .priority place fault => place ++ ".priority: " ++ fault.message
  | .amountTooLarge => "int too large to convert to float"
  | .dueDate place text => place ++ " is not a valid ISO-8601 date: " ++ text
  | .dueDateOutOfRange => "date value out of range"
  | .duplicateId index id => "sections[" ++ toString index ++ "].id is duplicated: " ++ id

namespace SnapshotReader

/-- A check of the type of a value as a check of a snapshot. -/
def typed {α : Type} : Except TypeFault α → Except SnapshotFault α
  | .ok value => .ok value
  | .error fault => .error (.type fault)

/-! ### Fields -/

/-- A value turned into text, as identifiers are. -/
def idText (value : Value) : Except SnapshotFault String :=
  match value.toText? with
  | some text => .ok text
  | none => .error .longNumber

/-- The identifier of a record: any value but null and a truth value, turned into
text that is not blank. -/
def readId (entries : Entries) (place : String) : Except SnapshotFault String :=
  match entries.present? "id" with
  | none => .error (.missingId place)
  | some (.scalar (.bool _)) => .error (.missingId place)
  | some value => do
    let id ← idText value
    if (trim id.toList).isEmpty then throw (.missingId place) else pure id

/-- A title, which is empty if it is missing. -/
def readTitle (entries : Entries) (place : String) : Except SnapshotFault String :=
  typed (((entries.get? "title").getD (.string "")).expectString (Value.entryPlace place "title"))

/-- A text that may be missing or null. -/
def readText (entries : Entries) (key place : String) : Except SnapshotFault (Option String) :=
  match entries.present? key with
  | none => .ok none
  | some value => (typed (value.expectString (Value.entryPlace place key))).map some

/-- A description; a void value is an empty one. -/
def readDescription (entries : Entries) (place : String) : Except SnapshotFault String :=
  match entries.get? "description" with
  | none => .ok ""
  | some value =>
    if value.isVoid then .ok ""
    else typed (value.expectString (Value.entryPlace place "description"))

/-- The floating-point number of a whole number, if it is not too large. -/
def amountOfInt (n : Int) : Except SnapshotFault Binary64 :=
  match Binary64.ofInt n with
  | .infinite _ => .error .amountTooLarge
  | amount => .ok amount

/-- An amount, which may be missing or null. -/
def readAmount (entries : Entries) (place : String) : Except SnapshotFault (Option Binary64) :=
  match entries.present? "amount" with
  | none => .ok none
  | some (.scalar (.int n)) => (amountOfInt n).map some
  | some (.scalar (.float amount)) => .ok (some amount)
  | some _ => .error (.type ⟨Value.entryPlace place "amount", .number⟩)

/-- The priority of a task. -/
def readPriority (entries : Entries) (place : String) : Except SnapshotFault Priority :=
  match Priority.ofValue (entries.get? "priority") with
  | .ok priority => .ok priority
  | .error fault => .error (.priority place fault)

/-- The completion mark of a task, which is not set if it is missing. -/
def readCompleted (entries : Entries) (place : String) : Except SnapshotFault Bool :=
  match entries.get? "completed" with
  | none => .ok false
  | some value => typed (value.expectBool (Value.entryPlace place "completed"))

/-- A due date, which may be missing or null: a moment, the start of a day, or ISO
8601 text. -/
def readDueDate (readMoment : MomentReader) (entries : Entries) (place : String) :
    Except SnapshotFault (Option DateTime) :=
  let key := Value.entryPlace place "due_date"
  match entries.present? "due_date" with
  | none => .ok none
  | some (.scalar (.dateTime moment)) => .ok (some moment)
  | some (.scalar (.date date)) => .ok (some (.startOf date))
  | some (.scalar (.string text)) =>
    match readMoment (trim text.toList) with
    | .ok moment => .ok (some moment)
    | .error .malformed => .error (.dueDate key text)
    | .error .outOfRange => .error .dueDateOutOfRange
  | some _ => .error (.type ⟨key, .isoString⟩)

/-- The section identifier of a task, any value turned into text. -/
def readSectionId (entries : Entries) : Except SnapshotFault (Option String) :=
  match entries.present? "section_id" with
  | none => .ok none
  | some value => (idText value).map some

/-! ### Records -/

/-- Reads one section. -/
def readSection (place : String) (item : Value) : Except SnapshotFault Section := do
  let entries ← typed (item.expectObject place)
  let id ← readId entries place
  let title ← readTitle entries place
  let sortOrder ← typed (((entries.get? "sort_order").getD (.scalar (.int 0))).expectInt
    (Value.entryPlace place "sort_order"))
  pure { id, title, sortOrder }

/-- Reads one task. -/
def readTask (readMoment : MomentReader) (place : String) (item : Value) :
    Except SnapshotFault Task := do
  let entries ← typed (item.expectObject place)
  let priority ← readPriority entries place
  let id ← readId entries place
  let title ← readTitle entries place
  let description ← readDescription entries place
  let emailSubject ← readText entries "email_subject" place
  let emailSender ← readText entries "email_sender" place
  let amount ← readAmount entries place
  let completed ← readCompleted entries place
  let dueDate ← readDueDate readMoment entries place
  let sectionId ← readSectionId entries
  pure {
    id, title, description, emailSubject, emailSender, amount, priority, completed, dueDate,
    sectionId }

/-- Reads a list of records, which may be missing or null. -/
def readList {α : Type} (read : String → Value → Except SnapshotFault α) (entries : Entries)
    (key : String) : Except SnapshotFault (List α) :=
  match entries.present? key with
  | none => .ok []
  | some value => do
    let items ← typed (value.expectList key)
    Value.readItems read key 0 items

/-! ### The whole snapshot -/

/-- The first section whose identifier an earlier section has, counted from
`index`. -/
def findDuplicate (seen : List String) (index : Nat) : List Section → Option (Nat × String)
  | [] => none
  | entry :: rest =>
    if seen.contains entry.id then some (index, entry.id)
    else findDuplicate (entry.id :: seen) (index + 1) rest

end SnapshotReader

/-- Reads a snapshot from decoded data, and logs its dangling references. -/
def Snapshot.read (readMoment : MomentReader) (data : Value) : Logged SnapshotFault Snapshot := do
  match data with
  | .mapping entries =>
    let sections ← SnapshotReader.readList SnapshotReader.readSection entries "sections"
    let tasks ← SnapshotReader.readList (SnapshotReader.readTask readMoment) entries "tasks"
    match SnapshotReader.findDuplicate [] 0 sections with
    | some (index, id) => throw (.duplicateId index id)
    | none =>
      let snapshot : Snapshot := { tasks, sections }
      if !snapshot.danglingIds.isEmpty then
        Logged.say (danglingWarning snapshot.danglingIds)
      pure snapshot
  | _ => throw (.type ⟨"Snapshot root", .document⟩)

end TaskQuery
