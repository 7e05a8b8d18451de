import TaskQuery.Proofs.Calendar.IsoRoundTrip
import TaskQuery.Proofs.Outcome
import TaskQuery.Report
import TaskQuery.Snapshot.Reader

/-!
# Reading the records of tasks

A task is written as a record with the fields that a snapshot reads, and each field in a
form of its own: the priority by its name, a due date as text, a missing text as null.
This file shows that the records of the tasks of a snapshot are a snapshot with the same
tasks (`Snapshot.read_document_of_read`).  Due dates are read by any reader that keeps the laws
of `MomentReader.Lawful`.  What is written of a due date is its offset, and the zone that is
read has this offset and any tag.  So tasks are the same if they are without the tags
(`Task.untagged`).

## Strategy

The two directions meet at `Task.Storable`, what every task of a snapshot has and a task
with any fields at all need not have: an identifier that is not blank, and a due date
whose offset is a whole number of minutes.

* `exists_readTask_record`: the record of a storable task is read as that task.
* `storable_of_readTask`: only storable tasks are read, provided that the decoded moments
  among the due dates have offsets of whole minutes (`Value.DueDatesInMinutes`).  Texts
  have no other offsets, and a day has none.

What is read does not depend on what is logged on the way, so all this is about reading without
a log (`Snapshot.readQuietly`).
-/

namespace TaskQuery

open Text

/-- A task with its due date in the zone without a tag: all that can be written of the task. -/
def Task.untagged (task : Task) : Task :=
  { task with dueDate := task.dueDate.map DateTime.untagged }

/-- A task that a snapshot can have. -/
structure Task.Storable (task : Task) : Prop where
  id : (trim task.id.toList).isEmpty = false
  dueDate : ∀ moment ∈ task.dueDate, moment.InMinutes

/-- If a record has a decoded moment as its due date, its offset is a whole number of
minutes. -/
def Value.DueDateInMinutes : Value → Prop
  | .mapping entries => ∀ moment,
      Entries.get? entries "due_date" = some (.scalar (.dateTime moment)) → moment.InMinutes
  | _ => True

/-- All moments that are due dates of the tasks in decoded data have offsets of whole
minutes. -/
def Value.DueDatesInMinutes : Value → Prop
  | .mapping entries => ∀ items,
      Entries.get? entries "tasks" = some (.sequence items) →
        ∀ item ∈ items, item.DueDateInMinutes
  | _ => True

/-- The document of a list of tasks: a snapshot without sections. -/
def Task.document (sections : List Section) (tasks : List Task) : Json :=
  .object [("tasks", .array (tasks.map (Task.record sections)))]

/-! ## JSON documents as values -/

namespace Value

theorem ofItems_eq_map (items : List Json) : ofItems items = items.map ofJson := by
  induction items with
  | nil => rfl
  | cons item items ih => rw [ofItems, ih, List.map_cons]

theorem get?_ofMembers (members : List (String × Json)) (key : String) :
    Entries.get? (ofMembers members) key = (members.lookup key).map ofJson := by
  induction members with
  | nil => rfl
  | cons member members ih =>
      obtain ⟨other, value⟩ := member
      unfold Entries.get? at ih ⊢
      by_cases hkey : other = key
      · subst hkey
        simp [ofMembers]
      · have hscalar : (Scalar.string other == Scalar.string key) = false := by
          simp [hkey]
        have hlookup : (key == other) = false := by
          simp [Ne.symm hkey]
        rw [ofMembers, List.find?_cons_of_neg (by simp [hscalar]), ih, List.lookup_cons, hlookup]

end Value

namespace SnapshotReader

variable {readMoment : MomentReader} {entries : Entries} {place : String}

/-! ## Fields of a record -/

theorem present?_of_ne_null {key : String} {value : Value} (hvalue : value ≠ Value.null)
    (hget : entries.get? key = some value) : entries.present? key = some value := by
  unfold Entries.present?
  rw [hget]
  split
  · rename_i hnull
    exact absurd (Option.some.inj hnull) hvalue
  · rfl

theorem present?_of_null {key : String} (hget : entries.get? key = some .null) :
    entries.present? key = none := by
  unfold Entries.present?
  rw [hget]
  rfl

theorem present?_string {key text : String} (hget : entries.get? key = some (.string text)) :
    entries.present? key = some (.string text) := by
  refine present?_of_ne_null ?_ hget
  rintro ⟨⟩

theorem idText_string (text : String) : idText (.string text) = .ok text :=
  rfl

theorem readId_string {id : String} (hget : entries.get? "id" = some (.string id))
    (hid : (trim id.toList).isEmpty = false) : readId entries place = .ok id := by
  unfold readId
  rw [present?_string hget]
  refine bind_eq_ok_iff.mpr ⟨id, idText_string id, ?_⟩
  rw [hid, if_neg Bool.false_ne_true]
  rfl

theorem readText_ofText? {key : String} {text : Option String}
    (hget : entries.get? key = some (.ofJson (.ofText? text))) :
    readText entries key place = .ok text := by
  unfold readText
  cases text with
  | none => rw [present?_of_null hget]
  | some text =>
      rw [present?_string hget]
      rfl

theorem readSectionId_ofText? {text : Option String}
    (hget : entries.get? "section_id" = some (.ofJson (.ofText? text))) :
    readSectionId entries = .ok text := by
  unfold readSectionId
  cases text with
  | none => rw [present?_of_null hget]
  | some text =>
      rw [present?_string hget]
      rfl

theorem readTitle_string {title : String} (hget : entries.get? "title" = some (.string title)) :
    readTitle entries place = .ok title := by
  unfold readTitle
  rw [hget]
  rfl

theorem readDescription_string {description : String}
    (hget : entries.get? "description" = some (.string description)) :
    readDescription entries place = .ok description := by
  unfold readDescription
  rw [hget]
  dsimp only
  split
  · rename_i hvoid
    -- only the empty text is void, and it is what is read then
    rw [String.isEmpty_iff.mp hvoid]
  · rfl

theorem readAmount_float {amount : Option Binary64}
    (hget : entries.get? "amount" = some (.ofJson ((amount.map Json.float).getD .null))) :
    readAmount entries place = .ok amount := by
  unfold readAmount
  cases amount with
  | none => rw [present?_of_null hget]
  | some amount =>
      rw [present?_of_ne_null (by rintro ⟨⟩) hget]
      rfl

/-- Every level is named by the name under which it is shown. -/
theorem ofName?_displayName (priority : Priority) :
    Priority.ofName? priority.displayName = some priority := by
  cases priority <;> decide +kernel

theorem readPriority_displayName {priority : Priority}
    (hget : entries.get? "priority" = some (.string priority.displayName)) :
    readPriority entries place = .ok priority := by
  unfold readPriority
  rw [hget]
  simp only [Value.string, Priority.ofValue, ofName?_displayName]

theorem readCompleted_bool {completed : Bool}
    (hget : entries.get? "completed" = some (.scalar (.bool completed))) :
    readCompleted entries place = .ok completed := by
  unfold readCompleted
  rw [hget]
  rfl

theorem exists_readDueDate_isoText (hlawful : readMoment.Lawful) {dueDate : Option DateTime}
    (hget : entries.get? "due_date" = some (.ofJson (.ofText? (dueDate.map DateTime.isoText))))
    (hminutes : ∀ moment ∈ dueDate, moment.InMinutes) :
    ∃ again, readDueDate readMoment entries place = .ok again ∧
      again.map DateTime.untagged = dueDate.map DateTime.untagged := by
  unfold readDueDate
  cases dueDate with
  | none =>
      rw [present?_of_null hget]
      exact ⟨none, rfl, rfl⟩
  | some moment =>
      obtain ⟨again, hagain, hsame⟩ := hlawful.reads_isoChars moment (hminutes moment rfl)
      have hread : readMoment (trim moment.isoText.toList) = .ok again := by
        rw [DateTime.isoText, String.toList_ofList, DateTime.trim_isoChars, hagain]
      rw [present?_string hget]
      simp only [Value.string, hread]
      exact ⟨some again, rfl, congrArg some hsame⟩

/-! ## Tasks -/

/-- **The record of a task.**  It is read as the task that was written. -/
theorem exists_readTask_record (hlawful : readMoment.Lawful) {task : Task}
    (hstorable : task.Storable) (sections : List Section) (place : String) :
    ∃ again, readTask readMoment place (.ofJson (task.record sections)) = .ok again ∧
      again.untagged = task.untagged := by
  obtain ⟨members, hmembers⟩ : ∃ members, task.record sections = .object members := ⟨_, rfl⟩
  have hget : ∀ key value, (task.record sections).member? key = some value →
      Entries.get? (Value.ofMembers members) key = some (.ofJson value) := by
    intro key value hmember
    rw [hmembers] at hmember
    rw [Value.get?_ofMembers]
    exact congrArg (Option.map Value.ofJson) hmember
  obtain ⟨dueDate, hdueDate, hsame⟩ : ∃ dueDate,
      readDueDate readMoment (Value.ofMembers members) place = .ok dueDate ∧
        dueDate.map DateTime.untagged = task.dueDate.map DateTime.untagged :=
    exists_readDueDate_isoText hlawful (hget _ _ rfl) hstorable.dueDate
  refine ⟨{ task with dueDate }, ?_, congrArg (fun dueDate => { task with dueDate }) hsame⟩
  refine bind_eq_ok_iff.mpr ⟨Value.ofMembers members, ?_, ?_⟩
  · rw [hmembers, Value.ofJson]
    rfl
  refine bind_eq_ok_iff.mpr ⟨_, readPriority_displayName (hget _ (.string _) rfl), ?_⟩
  refine bind_eq_ok_iff.mpr ⟨_, readId_string (hget _ (.string _) rfl) hstorable.id, ?_⟩
  refine bind_eq_ok_iff.mpr ⟨_, readTitle_string (hget _ (.string _) rfl), ?_⟩
  refine bind_eq_ok_iff.mpr ⟨_, readDescription_string (hget _ (.string _) rfl), ?_⟩
  refine bind_eq_ok_iff.mpr ⟨_, readText_ofText? (hget _ _ rfl), ?_⟩
  refine bind_eq_ok_iff.mpr ⟨_, readText_ofText? (hget _ _ rfl), ?_⟩
  refine bind_eq_ok_iff.mpr ⟨_, readAmount_float (hget _ _ rfl), ?_⟩
  refine bind_eq_ok_iff.mpr ⟨_, readCompleted_bool (hget _ (.bool _) rfl), ?_⟩
  refine bind_eq_ok_iff.mpr ⟨_, hdueDate, ?_⟩
  refine bind_eq_ok_iff.mpr ⟨_, readSectionId_ofText? (hget _ _ rfl), ?_⟩
  rfl

theorem not_blank_of_readId {id : String} (hread : readId entries place = .ok id) :
    (trim id.toList).isEmpty = false := by
  unfold readId at hread
  split at hread
  · cases hread
  · cases hread
  · obtain ⟨found, -, hread⟩ := bind_eq_ok_iff.mp hread
    split at hread
    · cases hread
    · rename_i hblank
      cases hread
      exact Bool.eq_false_iff.mpr hblank

theorem eq_mapping_of_expectObject {item : Value}
    (hread : typed (item.expectObject place) = .ok entries) : item = .mapping entries := by
  cases item with
  | mapping found =>
      cases hread
      rfl
  | _ => cases hread

theorem eq_sequence_of_expectList {value : Value} {items : List Value}
    (hread : typed (value.expectList place) = .ok items) : value = .sequence items := by
  cases value with
  | sequence found =>
      cases hread
      rfl
  | _ => cases hread

theorem get?_of_present? {key : String} {value : Value}
    (hpresent : entries.present? key = some value) : entries.get? key = some value := by
  unfold Entries.present? at hpresent
  split at hpresent
  · cases hpresent
  · exact hpresent

theorem inMinutes_of_readDueDate (hlawful : readMoment.Lawful) {dueDate : Option DateTime}
    (hminutes : Value.DueDateInMinutes (.mapping entries))
    (hread : readDueDate readMoment entries place = .ok dueDate) :
    ∀ moment ∈ dueDate, moment.InMinutes := by
  intro moment hmoment
  obtain rfl : dueDate = some moment := hmoment
  unfold readDueDate at hread
  split at hread
  · cases hread
  · rename_i hpresent
    cases hread
    exact hminutes moment (get?_of_present? hpresent)
  · -- a day is the start of the day as local time
    cases hread
    intro offset hoffset
    cases hoffset
  · split at hread
    · rename_i hiso
      cases hread
      exact hlawful.inMinutes _ _ hiso
    · cases hread
    · cases hread
  · cases hread

/-- **Only storable tasks are read.** -/
theorem storable_of_readTask (hlawful : readMoment.Lawful) {item : Value}
    (hminutes : item.DueDateInMinutes) {task : Task}
    (hread : readTask readMoment place item = .ok task) : task.Storable := by
  obtain ⟨entries, hentries, hfields⟩ := bind_eq_ok_iff.mp hread
  obtain rfl : item = .mapping entries := eq_mapping_of_expectObject hentries
  obtain ⟨priority, -, hfields⟩ := bind_eq_ok_iff.mp hfields
  obtain ⟨id, hid, hfields⟩ := bind_eq_ok_iff.mp hfields
  obtain ⟨title, -, hfields⟩ := bind_eq_ok_iff.mp hfields
  obtain ⟨description, -, hfields⟩ := bind_eq_ok_iff.mp hfields
  obtain ⟨emailSubject, -, hfields⟩ := bind_eq_ok_iff.mp hfields
  obtain ⟨emailSender, -, hfields⟩ := bind_eq_ok_iff.mp hfields
  obtain ⟨amount, -, hfields⟩ := bind_eq_ok_iff.mp hfields
  obtain ⟨completed, -, hfields⟩ := bind_eq_ok_iff.mp hfields
  obtain ⟨dueDate, hdueDate, hfields⟩ := bind_eq_ok_iff.mp hfields
  obtain ⟨sectionId, -, hfields⟩ := bind_eq_ok_iff.mp hfields
  cases hfields
  exact ⟨not_blank_of_readId hid, inMinutes_of_readDueDate hlawful hminutes hdueDate⟩

end SnapshotReader

/-! ## Snapshots -/

namespace Snapshot

open SnapshotReader

/-- Reads a snapshot from decoded data without logging anything. -/
def readQuietly (readMoment : MomentReader) : Value → Except SnapshotFault Snapshot
  | .mapping entries => do
    let sections ← readList readSection entries "sections"
    let tasks ← readList (readTask readMoment) entries "tasks"
    match findDuplicate [] 0 sections with
    | some (index, id) => throw (.duplicateId index id)
    | none => pure { tasks, sections }
  | _ => throw (.type ⟨"Snapshot root", .document⟩)

/-- The log lines about a snapshot: one warning if there are dangling references. -/
def warnings (snapshot : Snapshot) : List LogLine :=
  if snapshot.danglingIds = [] then [] else [danglingWarning snapshot.danglingIds]

theorem result_warn (snapshot : Snapshot) :
    (do
      if !snapshot.danglingIds.isEmpty then
        Logged.say (danglingWarning snapshot.danglingIds)
      pure snapshot : Logged SnapshotFault Snapshot).result =
        (.ok snapshot, snapshot.warnings) := by
  unfold warnings
  cases snapshot.danglingIds <;> rfl

/-- The one thing that reading logs is the warning about the snapshot that was read. -/
theorem result_read (readMoment : MomentReader) (data : Value) :
    (read readMoment data).result =
      match readQuietly readMoment data with
      | .ok snapshot => (.ok snapshot, snapshot.warnings)
      | .error fault => (.error fault, []) := by
  cases data with
  | mapping entries =>
      unfold read readQuietly
      dsimp only
      -- the steps in front of the warning log nothing, so a fault in them leaves the log empty
      rw [Logged.result_lift_bind]
      cases readList readSection entries "sections" with
      | error fault => rfl
      | ok sections =>
          dsimp only
          rw [Logged.result_lift_bind]
          cases readList (readTask readMoment) entries "tasks" with
          | error fault => rfl
          | ok tasks =>
              cases hduplicate : findDuplicate [] 0 sections with
              | some found =>
                  simp only [bind, Except.bind, hduplicate]
                  rfl
              | none =>
                  simp only [bind, Except.bind, hduplicate]
                  exact result_warn _
  | _ => rfl

theorem outcome_read (readMoment : MomentReader) (data : Value) :
    (read readMoment data).outcome = readQuietly readMoment data := by
  unfold Logged.outcome
  rw [result_read]
  cases readQuietly readMoment data <;> rfl

variable {readMoment : MomentReader}

/-- Every task of a snapshot is storable. -/
theorem storable_of_readQuietly (hlawful : readMoment.Lawful) {data : Value}
    (hminutes : data.DueDatesInMinutes) {snapshot : Snapshot}
    (hread : readQuietly readMoment data = .ok snapshot) :
    ∀ task ∈ snapshot.tasks, task.Storable := by
  cases data with
  | mapping entries =>
      obtain ⟨sections, -, hread⟩ := bind_eq_ok_iff.mp hread
      obtain ⟨tasks, htasks, hread⟩ := bind_eq_ok_iff.mp hread
      have hstorable : ∀ task ∈ tasks, task.Storable := by
        unfold readList at htasks
        split at htasks
        · cases htasks
          exact List.forall_mem_nil _
        · rename_i value hpresent
          obtain ⟨items, hitems, htasks⟩ := bind_eq_ok_iff.mp htasks
          obtain rfl : value = .sequence items := eq_sequence_of_expectList hitems
          refine Value.forall_of_readItems ?_ htasks
          intro item hitem place task
          exact storable_of_readTask hlawful
            (hminutes items (get?_of_present? hpresent) item hitem)
      split at hread
      · cases hread
      · cases hread
        exact hstorable
  | _ => cases hread

/-- The document of storable tasks is a snapshot with these tasks and no sections. -/
theorem exists_readQuietly_document (hlawful : readMoment.Lawful) {tasks : List Task}
    (hstorable : ∀ task ∈ tasks, task.Storable) (sections : List Section) :
    ∃ again, readQuietly readMoment (.ofJson (Task.document sections tasks)) =
        .ok { tasks := again, sections := [] } ∧
      again.map Task.untagged = tasks.map Task.untagged := by
  have hrecords : ∀ task ∈ tasks, ∀ place, ∃ again,
      readTask readMoment place (.ofJson (task.record sections)) = .ok again ∧
        again.untagged = task.untagged :=
    fun task htask place => exists_readTask_record hlawful (hstorable task htask) sections place
  obtain ⟨again, hagain, hsame⟩ := Value.exists_readItems_map hrecords 0
  refine ⟨again, ?_, hsame⟩
  have hitems : Value.readItems (readTask readMoment) "tasks" 0
      (Value.ofItems (tasks.map (Task.record sections))) = .ok again := by
    rw [Value.ofItems_eq_map, List.map_map]
    exact hagain
  refine bind_eq_ok_iff.mpr ⟨[], rfl, bind_eq_ok_iff.mpr ⟨again, ?_, rfl⟩⟩
  exact bind_eq_ok_iff.mpr ⟨_, rfl, hitems⟩

/-- **The records of a snapshot.**  If decoded data is a snapshot, the records of its tasks,
written with any sections, are a snapshot with exactly the same tasks: as many, in the same
order, and with the same fields, of which a due date has the same clock and the same offset or
none. -/
theorem read_document_of_read (hlawful : readMoment.Lawful) {data : Value}
    (hminutes : data.DueDatesInMinutes) {snapshot : Snapshot}
    (hread : (read readMoment data).outcome = .ok snapshot) (sections : List Section) :
    ∃ again : Snapshot,
      (read readMoment (.ofJson (Task.document sections snapshot.tasks))).outcome = .ok again ∧
        again.sections = [] ∧
        again.tasks.map Task.untagged = snapshot.tasks.map Task.untagged := by
  rw [outcome_read] at hread
  obtain ⟨again, hagain, hsame⟩ := exists_readQuietly_document hlawful
    (storable_of_readQuietly hlawful hminutes hread) sections
  exact ⟨{ tasks := again }, by rw [outcome_read, hagain], rfl, hsame⟩

/-- Decoded data with numbers as identifiers, a decoded moment and a text that is not in
the form in which moments are written. -/
def mixedData : Value :=
  .mapping [
    (.string "sections", .sequence [.mapping [(.string "id", .scalar (.int 3))]]),
    (.string "tasks", .sequence [
      .mapping [
        (.string "id", .scalar (.int 7)),
        (.string "priority", .scalar (.int 2)),
        (.string "due_date", .scalar (.dateTime
          ⟨⟨2024, 2, 29, by decide⟩, ⟨23, 5, 0, 40, by decide⟩,
            some { offset := ⟨-12600, by decide⟩, tag := 1 }⟩)),
        (.string "section_id", .scalar (.int 3))],
      .mapping [
        (.string "id", .string " a"),
        (.string "email_subject", .string ""),
        (.string "amount", .scalar (.int (-1))),
        (.string "due_date", .string " 0999-W52-7 24:00:00,0+0530 ")]])]

/-- The snapshot of `mixedData`.  The second task is due on the day after the one that its
text names. -/
def mixedSnapshot : Snapshot where
  tasks := [
    { id := "7"
      title := ""
      priority := .medium
      dueDate := some
        ⟨⟨2024, 2, 29, by decide⟩, ⟨23, 5, 0, 40, by decide⟩,
          some { offset := ⟨-12600, by decide⟩, tag := 1 }⟩
      sectionId := some "3" },
    { id := " a"
      title := ""
      emailSubject := some ""
      amount := some (.finite true (2 ^ 52) 1022 (by decide))
      dueDate := some ⟨⟨999, 12, 30, by decide⟩, .midnight,
        some { offset := ⟨19800, by decide⟩ }⟩ }]
  sections := [{ id := "3", title := "" }]

theorem read_document_mixedSnapshot :
    MomentReader.Lawful DateTime.ofIso ∧ mixedData.DueDatesInMinutes ∧
      (read DateTime.ofIso mixedData).outcome = .ok mixedSnapshot ∧
      ∃ again : Snapshot,
        (read DateTime.ofIso (.ofJson
          (Task.document mixedSnapshot.sections mixedSnapshot.tasks))).outcome = .ok again ∧
        again.sections = [] ∧
        again.tasks.map Task.untagged = mixedSnapshot.tasks.map Task.untagged := by
  have hread : (read DateTime.ofIso mixedData).outcome = .ok mixedSnapshot := by decide +kernel
  have hminutes : mixedData.DueDatesInMinutes := by
    intro items hitems
    cases hitems
    refine List.forall_mem_cons.mpr ⟨?_, List.forall_mem_singleton.mpr ?_⟩
    · intro moment hmoment offset hoffset
      cases hmoment
      cases hoffset
      exact ⟨-210, rfl⟩
    · intro moment hmoment
      cases hmoment
  exact ⟨DateTime.lawful_ofIso, hminutes, hread,
    read_document_of_read DateTime.lawful_ofIso hminutes hread mixedSnapshot.sections⟩

end Snapshot

end TaskQuery
