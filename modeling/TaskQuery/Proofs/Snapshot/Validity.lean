import TaskQuery.Proofs.Snapshot.Fields

/-!
# What a snapshot is read from

Decoded data is a snapshot if it is a mapping with lists of records, every field of every
record stands for something, and no identifier of a section occurs twice.  This file says
which snapshot it is then (`Snapshot.ReadFrom`) and writes the checks down in the order in
which they are made (`Snapshot.checks`).  `Snapshot.read` is decided by both
(`Snapshot.read_validity`): what is read is what the data has, and what is reported is the
fault of the first check that does not hold.  Nothing is assumed of the reader of due dates:
the text of a due date is checked by reading it.

## Strategy

The checks of the fields are put together along the reader of a record
(`decided_readSection`, `decided_readTask`), then of a list of records (`decided_readList`),
then of a snapshot.  What comes last, that no two sections have the same identifier, is
asked of each section and the ones before it, so there it is an induction along the sections
with the identifiers seen so far (`decided_findDuplicate`).
-/

namespace TaskQuery

open Text SnapshotReader

/-! ## What data has -/

/-- A section as the entries of a record have it.  Missing titles are empty, and missing
places in the order are 0. -/
structure Section.ReadFrom (entry : Section) (entries : Entries) : Prop where
  id : StandsForId (entries.get? "id") entry.id
  title : (entries.get? "title").getD (.string "") = .string entry.title
  sortOrder : (entries.get? "sort_order").getD (.scalar (.int 0)) = .scalar (.int entry.sortOrder)

/-- A task as the entries of a record have it.  Missing titles are empty, tasks are not
completed unless they are marked, and all fields that a task need not have may be null. -/
structure Task.ReadFrom (readMoment : MomentReader) (task : Task) (entries : Entries) :
    Prop where
  priority : StandsForPriority (entries.get? "priority") task.priority
  id : StandsForId (entries.get? "id") task.id
  title : (entries.get? "title").getD (.string "") = .string task.title
  description : StandsForDescription (entries.get? "description") task.description
  emailSubject : Option.Rel (· = .string ·) (entries.present? "email_subject") task.emailSubject
  emailSender : Option.Rel (· = .string ·) (entries.present? "email_sender") task.emailSender
  amount : Option.Rel StandsForAmount (entries.present? "amount") task.amount
  completed : (entries.get? "completed").getD (.scalar (.bool false)) =
    .scalar (.bool task.completed)
  dueDate : Option.Rel (StandsForDueDate readMoment) (entries.present? "due_date") task.dueDate
  sectionId : Option.Rel StandsForText (entries.present? "section_id") task.sectionId

/-- The record is a mapping whose entries are those of a section. -/
def Section.RecordedIn (item : Value) (entry : Section) : Prop :=
  ∃ entries, item = .mapping entries ∧ entry.ReadFrom entries

/-- The record is a mapping whose entries are those of a task. -/
def Task.RecordedIn (readMoment : MomentReader) (item : Value) (task : Task) : Prop :=
  ∃ entries, item = .mapping entries ∧ task.ReadFrom readMoment entries

/-- A snapshot as decoded data has it: the sections and the tasks are those of the records,
one for each and in their order, and no two sections have the same identifier.  Lists that
are missing or null are empty. -/
def Snapshot.ReadFrom (readMoment : MomentReader) (snapshot : Snapshot) (data : Value) : Prop :=
  ∃ (entries : Entries) (sections tasks : List Value), data = .mapping entries ∧
    (entries.present? "sections").getD (.sequence []) = .sequence sections ∧
    List.Forall₂ Section.RecordedIn sections snapshot.sections ∧
    (entries.present? "tasks").getD (.sequence []) = .sequence tasks ∧
    List.Forall₂ (Task.RecordedIn readMoment) tasks snapshot.tasks ∧
    (snapshot.sections.map (·.id)).Nodup

/-! ## The checks -/

namespace SnapshotReader

/-- What is checked in the entries of a section. -/
def sectionFieldChecks (place : String) (entries : Entries) : List (Check SnapshotFault) :=
  [idCheck entries place, titleCheck entries place, sortOrderCheck entries place]

/-- What is checked in the entries of a task.  The priority comes first. -/
def taskFieldChecks (readMoment : MomentReader) (place : String) (entries : Entries) :
    List (Check SnapshotFault) :=
  [priorityCheck entries place, idCheck entries place, titleCheck entries place,
    descriptionCheck entries place, textCheck entries place "email_subject",
    textCheck entries place "email_sender", amountCheck entries place,
    completedCheck entries place, dueDateCheck entries place readMoment,
    sectionIdCheck entries place]

/-- What is checked in a record: that it is one, and then its entries. -/
def recordChecks (fieldChecks : String → Entries → List (Check SnapshotFault)) (place : String)
    (item : Value) : List (Check SnapshotFault) :=
  (Value.objectCheck place item).mapFault .type :: fieldChecks place item.entries

/-- What is checked in a list of records: that it is one, and then each record. -/
def listChecks (fieldChecks : String → Entries → List (Check SnapshotFault)) (key : String)
    (value : Value) : List (Check SnapshotFault) :=
  (Value.listCheck key value).mapFault .type ::
    Decided.itemChecks (recordChecks fieldChecks) key 0 value.items

/-- What is checked in a list of identifiers: that none is one of those before it. -/
def distinctChecks (earlier : List String) (index : ℕ) : List String → List (Check SnapshotFault)
  | [] => []
  | id :: ids =>
    ⟨Value.entryPlace (Value.itemPlace "sections" index) "id", id ∉ earlier,
      .duplicateId index id⟩ :: distinctChecks (id :: earlier) (index + 1) ids

/-- The identifier of a record as text. -/
def recordId (item : Value) : String :=
  ((item.entries.get? "id").getD .null).toText

end SnapshotReader

/-- What is checked in decoded data, in the order of the checks: the root, the sections, the
tasks, and that no identifier of a section occurs twice. -/
def Snapshot.checks (readMoment : MomentReader) (data : Value) : List (Check SnapshotFault) :=
  let sections := (data.entries.present? "sections").getD (.sequence [])
  let tasks := (data.entries.present? "tasks").getD (.sequence [])
  ⟨"Snapshot root", ∃ entries, data = .mapping entries, .type ⟨"Snapshot root", .document⟩⟩ ::
    (listChecks sectionFieldChecks "sections" sections ++
      (listChecks (taskFieldChecks readMoment) "tasks" tasks ++
        distinctChecks [] 0 (sections.items.map recordId)))

namespace SnapshotReader

/-! ## Records -/

variable (entries : Entries) (place : String)

/-- A record is decided by what its entries are decided by. -/
theorem decided_record {α : Type} {read : Entries → Except SnapshotFault α}
    {fieldChecks : String → Entries → List (Check SnapshotFault)} {Reads : Entries → α → Prop}
    (hread : ∀ entries, Decided (read entries) (fieldChecks place entries) (Reads entries))
    (item : Value) :
    Decided (typed (item.expectObject place) >>= read) (recordChecks fieldChecks place item)
      (fun value => ∃ entries, item = .mapping entries ∧ Reads entries value) := by
  refine (decided_typed (Value.decided_expectObject place item)).bind_cons fun entries hitem => ?_
  subst hitem
  exact hread entries

theorem decided_readSection (item : Value) : Decided (readSection place item)
    (recordChecks sectionFieldChecks place item) (Section.RecordedIn item) := by
  refine decided_record place (fun entries => ?_) item
  have hsteps :=
    (decided_readId entries place).bind_cons fun id _ =>
    (decided_readTitle entries place).bind_cons fun title _ =>
    (decided_typed (Value.decided_expectInt (Value.entryPlace place "sort_order")
      ((entries.get? "sort_order").getD (.scalar (.int 0))))).bind_cons fun sortOrder _ =>
    Decided.pure ({ id, title, sortOrder } : Section)
  refine hsteps.congr fun entry => ?_
  constructor
  · rintro ⟨id, hid, title, htitle, sortOrder, hsort, rfl⟩
    exact ⟨hid, htitle, hsort⟩
  · intro hentry
    exact ⟨_, hentry.id, _, hentry.title, _, hentry.sortOrder, rfl⟩

theorem decided_readTask (readMoment : MomentReader) (item : Value) :
    Decided (readTask readMoment place item)
      (recordChecks (taskFieldChecks readMoment) place item) (Task.RecordedIn readMoment item) := by
  refine decided_record place (fun entries => ?_) item
  have hsteps :=
    (decided_readPriority entries place).bind_cons fun priority _ =>
    (decided_readId entries place).bind_cons fun id _ =>
    (decided_readTitle entries place).bind_cons fun title _ =>
    (decided_readDescription entries place).bind_cons fun description _ =>
    (decided_readText entries place "email_subject").bind_cons fun emailSubject _ =>
    (decided_readText entries place "email_sender").bind_cons fun emailSender _ =>
    (decided_readAmount entries place).bind_cons fun amount _ =>
    (decided_readCompleted entries place).bind_cons fun completed _ =>
    (decided_readDueDate entries place readMoment).bind_cons fun dueDate _ =>
    (decided_readSectionId entries place).bind_cons fun sectionId _ =>
    Decided.pure (Task.mk id title description emailSubject emailSender amount priority
      completed dueDate sectionId)
  refine hsteps.congr fun task => ?_
  constructor
  · rintro ⟨priority, hpriority, id, hid, title, htitle, description, hdescription, emailSubject,
      hsubject, emailSender, hsender, amount, hamount, completed, hcompleted, dueDate, hdue,
      sectionId, hsection, rfl⟩
    exact ⟨hpriority, hid, htitle, hdescription, hsubject, hsender, hamount, hcompleted, hdue,
      hsection⟩
  · intro htask
    exact ⟨_, htask.priority, _, htask.id, _, htask.title, _, htask.description, _,
      htask.emailSubject, _, htask.emailSender, _, htask.amount, _, htask.completed, _,
      htask.dueDate, _, htask.sectionId, rfl⟩

/-! ## Lists of records -/

theorem readList_eq {α : Type} (read : String → Value → Except SnapshotFault α) (key : String) :
    readList read entries key =
      typed (((entries.present? key).getD (.sequence [])).expectList key) >>=
        Value.readItems read key 0 := by
  unfold readList
  cases entries.present? key <;> rfl

theorem decided_readList {α : Type} {read : String → Value → Except SnapshotFault α}
    {fieldChecks : String → Entries → List (Check SnapshotFault)} {Means : Value → α → Prop}
    (hread : ∀ place item, Decided (read place item) (recordChecks fieldChecks place item)
      (Means item)) (key : String) :
    Decided (readList read entries key)
      (listChecks fieldChecks key ((entries.present? key).getD (.sequence [])))
      (fun values => ∃ items, (entries.present? key).getD (.sequence []) = .sequence items ∧
        List.Forall₂ Means items values) := by
  rw [readList_eq]
  refine (decided_typed (Value.decided_expectList key _)).bind_cons fun items hitems => ?_
  rw [hitems]
  exact Decided.readItems hread key 0 items

/-! ## Identifiers of sections -/

theorem recordId_eq_of_recordedIn {item : Value} {entry : Section}
    (hentry : entry.RecordedIn item) : recordId item = entry.id := by
  obtain ⟨entries, rfl, hfields⟩ := hentry
  obtain ⟨value, hvalue, -, -, htext, -⟩ := hfields.id
  unfold recordId Value.entries
  dsimp only
  rw [hvalue, Option.getD_some]
  unfold StandsForText Value.toText? at htext
  split at htext
  · cases htext
  · exact Option.some.inj htext

theorem map_recordId_eq {items : List Value} {sections : List Section}
    (hsections : List.Forall₂ Section.RecordedIn items sections) :
    items.map recordId = sections.map (·.id) := by
  induction hsections with
  | nil => rfl
  | cons hentry _ ih => rw [List.map_cons, List.map_cons, recordId_eq_of_recordedIn hentry, ih]

/-- What comes last in reading a snapshot: the identifiers of the sections are distinct, and
none of them was seen before. -/
theorem decided_findDuplicate {α : Type} (result : α) (seen : List String) (index : ℕ)
    (sections : List Section) :
    Decided
      (match findDuplicate seen index sections with
        | some (index, id) => .error (.duplicateId index id)
        | none => .ok result)
      (distinctChecks seen index (sections.map (·.id)))
      (fun found => (∀ entry ∈ sections, entry.id ∉ seen) ∧ (sections.map (·.id)).Nodup ∧
        found = result) := by
  induction sections generalizing seen index with
  | nil =>
      refine (Decided.pure result).congr fun found => ?_
      simp
  | cons entry sections ih =>
      rw [List.map_cons, distinctChecks, findDuplicate]
      by_cases hseen : entry.id ∈ seen
      · rw [if_pos (List.contains_iff_mem.mpr hseen)]
        refine Decided.cons_of_not_holds rfl (not_not_intro hseen) ?_
        rintro found ⟨hnew, -⟩
        exact hnew entry List.mem_cons_self hseen
      · rw [if_neg (by simpa using hseen)]
        have hrest := ih (entry.id :: seen) (index + 1)
        refine Decided.cons_of_holds hseen (hrest.congr fun found => ?_)
        -- an identifier of the rest is distinct from the first one and from those before it
        constructor
        · rintro ⟨hnew, hdistinct, hfound⟩
          refine ⟨List.forall_mem_cons.mpr ⟨hseen, fun other hother hmem => ?_⟩,
            List.nodup_cons.mpr ⟨fun hmem => ?_, hdistinct⟩, hfound⟩
          · exact hnew other hother (List.mem_cons_of_mem _ hmem)
          · obtain ⟨other, hother, hid⟩ := List.mem_map.mp hmem
            exact hnew other hother (List.mem_cons.mpr (Or.inl hid))
        · rintro ⟨hnew, hdistinct, hfound⟩
          obtain ⟨-, hnew⟩ := List.forall_mem_cons.mp hnew
          obtain ⟨hfirst, hdistinct⟩ := List.nodup_cons.mp hdistinct
          refine ⟨fun other hother hmem => ?_, hdistinct, hfound⟩
          rcases List.mem_cons.mp hmem with hid | hmem
          · exact hfirst (List.mem_map.mpr ⟨other, hother, hid⟩)
          · exact hnew other hother hmem

/-! ## Places in messages -/

theorem located_sectionFieldChecks : ∀ check ∈ sectionFieldChecks place entries, Located check := by
  refine List.forall_mem_cons.mpr ⟨located_id place _, ?_⟩
  refine List.forall_mem_cons.mpr ⟨located_of_type, ?_⟩
  exact List.forall_mem_singleton.mpr located_of_type

theorem located_taskFieldChecks (readMoment : MomentReader) :
    ∀ check ∈ taskFieldChecks readMoment place entries, Located check := by
  refine List.forall_mem_cons.mpr ⟨located_priority place _, ?_⟩
  refine List.forall_mem_cons.mpr ⟨located_id place _, ?_⟩
  refine List.forall_mem_cons.mpr ⟨located_of_type, ?_⟩
  refine List.forall_mem_cons.mpr ⟨located_of_type, ?_⟩
  refine List.forall_mem_cons.mpr ⟨located_of_type, ?_⟩
  refine List.forall_mem_cons.mpr ⟨located_of_type, ?_⟩
  refine List.forall_mem_cons.mpr ⟨located_amount place _, ?_⟩
  refine List.forall_mem_cons.mpr ⟨located_of_type, ?_⟩
  refine List.forall_mem_cons.mpr ⟨located_dueDate place readMoment _, ?_⟩
  exact List.forall_mem_singleton.mpr (Or.inl (Or.inl rfl))

theorem located_listChecks {fieldChecks : String → Entries → List (Check SnapshotFault)}
    (hfields : ∀ place entries, ∀ check ∈ fieldChecks place entries, Located check) (key : String)
    (value : Value) : ∀ check ∈ listChecks fieldChecks key value, Located check := by
  refine List.forall_mem_cons.mpr ⟨located_of_type, fun check hcheck => ?_⟩
  obtain ⟨item, -, hcheck⟩ := List.mem_flatMap.mp hcheck
  rcases List.mem_cons.mp hcheck with rfl | hcheck
  · exact located_of_type
  · exact hfields _ _ check hcheck

theorem located_distinctChecks (earlier : List String) (index : ℕ) (ids : List String) :
    ∀ check ∈ distinctChecks earlier index ids, Located check := by
  induction ids generalizing earlier index with
  | nil => exact List.forall_mem_nil _
  | cons id ids ih =>
      refine List.forall_mem_cons.mpr ⟨Or.inr ⟨"", " is duplicated: " ++ id, ?_⟩, ih _ _⟩
      have hopening : "sections[" = "sections" ++ "[" := by decide
      have hclosing : "].id is duplicated: " = "]" ++ ("." ++ ("id" ++ " is duplicated: ")) := by
        decide
      show "sections[" ++ toString index ++ "].id is duplicated: " ++ id =
        "" ++ ("sections" ++ "[" ++ toString index ++ "]" ++ "." ++ "id") ++
          (" is duplicated: " ++ id)
      simp only [hopening, hclosing, String.append_assoc, String.empty_append]

/-- The fault of every check names the place that is checked, except for numbers that cannot be
converted and a due date after the last day. -/
theorem located_checks (readMoment : MomentReader) (data : Value) :
    ∀ check ∈ Snapshot.checks readMoment data, Located check := by
  refine List.forall_mem_cons.mpr ⟨located_of_type, List.forall_mem_append.mpr
    ⟨?_, List.forall_mem_append.mpr ⟨?_, located_distinctChecks _ _ _⟩⟩⟩
  · exact located_listChecks (fun place entries => located_sectionFieldChecks entries place) _ _
  · exact located_listChecks
      (fun place entries => located_taskFieldChecks entries place readMoment) _ _

end SnapshotReader

namespace Snapshot

section Read

variable {entries : Entries} (readMoment : MomentReader)

/-- What follows the sections: the tasks are read, and the identifiers of the sections are
distinct. -/
theorem decided_afterSections {sections : List Section}
    (hsections : ∃ items, (entries.present? "sections").getD (.sequence []) = .sequence items ∧
      List.Forall₂ Section.RecordedIn items sections) :
    Decided
      (readList (readTask readMoment) entries "tasks" >>= fun tasks =>
        match findDuplicate [] 0 sections with
        | some (index, id) => .error (.duplicateId index id)
        | none => .ok { tasks, sections })
      (listChecks (taskFieldChecks readMoment) "tasks"
          ((entries.present? "tasks").getD (.sequence [])) ++
        distinctChecks [] 0
          (((entries.present? "sections").getD (.sequence [])).items.map recordId))
      (fun snapshot : Snapshot => ∃ tasks,
        (∃ items, (entries.present? "tasks").getD (.sequence []) = .sequence items ∧
          List.Forall₂ (Task.RecordedIn readMoment) items tasks) ∧
        (∀ entry ∈ sections, entry.id ∉ []) ∧ (sections.map (·.id)).Nodup ∧
        snapshot = { tasks, sections }) := by
  obtain ⟨items, hitems, hsections⟩ := hsections
  rw [hitems, Value.items, map_recordId_eq hsections]
  have htask := fun place => decided_readTask place readMoment
  exact (decided_readList entries htask "tasks").bind fun tasks _ =>
    decided_findDuplicate _ [] 0 sections

theorem decided_readQuietly (data : Value) : Decided (readQuietly readMoment data)
    (checks readMoment data) (fun snapshot => snapshot.ReadFrom readMoment data) := by
  cases data with
  | mapping entries =>
      refine Decided.cons_of_holds ⟨entries, rfl⟩ ?_
      have hsteps := (decided_readList entries decided_readSection "sections").bind
        fun sections => decided_afterSections readMoment
      refine hsteps.congr fun snapshot => ?_
      constructor
      · rintro ⟨sections, ⟨sectionItems, hsectionItems, hsections⟩, tasks,
          ⟨taskItems, htaskItems, htasks⟩, -, hdistinct, rfl⟩
        exact ⟨entries, sectionItems, taskItems, rfl, hsectionItems, hsections, htaskItems, htasks,
          hdistinct⟩
      · rintro ⟨found, sectionItems, taskItems, hfound, hsectionItems, hsections, htaskItems,
          htasks, hdistinct⟩
        cases hfound
        exact ⟨snapshot.sections, ⟨sectionItems, hsectionItems, hsections⟩, snapshot.tasks,
          ⟨taskItems, htaskItems, htasks⟩, by simp, hdistinct, rfl⟩
  | _ =>
      refine Decided.cons_of_not_holds rfl (by rintro ⟨entries, ⟨⟩⟩) ?_
      rintro snapshot ⟨entries, sections, tasks, ⟨⟩, -⟩

theorem decided_read (data : Value) : Decided (read readMoment data).outcome
    (checks readMoment data) (fun snapshot => snapshot.ReadFrom readMoment data) := by
  rw [outcome_read]
  exact decided_readQuietly readMoment data

end Read

/-- **Validity of snapshots.**  Data is read as exactly the snapshots that it has, it is read at
all if and only if all checks hold, and else the fault is that of the first check that does
not.  The message about a fault names its place, unless it comes from a conversion. -/
theorem read_validity (readMoment : MomentReader) (data : Value) :
    (∀ snapshot, (read readMoment data).outcome = .ok snapshot ↔
        snapshot.ReadFrom readMoment data) ∧
      ((∃ snapshot, (read readMoment data).outcome = .ok snapshot) ↔
        ∀ check ∈ checks readMoment data, check.Holds) ∧
      (∀ fault, (read readMoment data).outcome = .error fault ↔
        FirstBroken (checks readMoment data) fault) ∧
      ∀ check ∈ checks readMoment data, Located check := by
  have hread := decided_read readMoment data
  exact ⟨hread.ok_iff, hread.exists_ok_iff, hread.error_iff, located_checks readMoment data⟩

/-- One task without sections, with a value as the identifier of its section. -/
def withSectionId (value : Value) : Value :=
  .mapping [(.string "tasks", .sequence [.mapping [
    (.string "id", .string "a"), (.string "section_id", value)]])]

theorem holds_checks_withSectionId (readMoment : MomentReader) (value : Value) :
    ∀ check ∈ checks readMoment (withSectionId value),
      check.place ≠ "tasks[0].section_id" → check.Holds := by
  refine List.forall_mem_cons.mpr ⟨fun _ => ⟨_, rfl⟩, List.forall_mem_append.mpr
    ⟨?sections, List.forall_mem_append.mpr ⟨?tasks, List.forall_mem_nil _⟩⟩⟩
  case sections =>
    exact List.forall_mem_cons.mpr ⟨fun _ => ⟨[], rfl⟩, List.forall_mem_nil _⟩
  case tasks =>
    refine List.forall_mem_cons.mpr ⟨fun _ => ⟨_, rfl⟩, ?_⟩
    refine List.forall_mem_cons.mpr ⟨fun _ => ⟨_, rfl⟩, ?_⟩
    have hid : StandsForId (some (.string "a")) "a" :=
      ⟨_, rfl, by rintro ⟨⟩, fun _ => by rintro ⟨⟩, rfl, rfl⟩
    refine List.forall_mem_cons.mpr ⟨fun _ => ⟨_, .missing⟩, ?_⟩
    refine List.forall_mem_cons.mpr ⟨fun _ => ⟨_, hid⟩, ?_⟩
    refine List.forall_mem_cons.mpr ⟨fun _ => ⟨_, rfl⟩, ?_⟩
    refine List.forall_mem_cons.mpr ⟨fun _ => ⟨_, .missing⟩, ?_⟩
    refine List.forall_mem_cons.mpr ⟨fun _ => ⟨_, .none⟩, ?_⟩
    refine List.forall_mem_cons.mpr ⟨fun _ => ⟨_, .none⟩, ?_⟩
    refine List.forall_mem_cons.mpr ⟨fun _ => ⟨_, .none⟩, ?_⟩
    refine List.forall_mem_cons.mpr ⟨fun _ => ⟨_, rfl⟩, ?_⟩
    refine List.forall_mem_cons.mpr ⟨fun _ => ⟨_, .none⟩, ?_⟩
    have hplace : Value.entryPlace (Value.itemPlace "tasks" 0) "section_id" =
        "tasks[0].section_id" := by decide
    exact List.forall_mem_cons.mpr ⟨fun hother => absurd hplace hother, List.forall_mem_nil _⟩

/-- A section identifier with one digit too many is at fault although all else is right. -/
theorem read_withSectionId_long :
    (∀ check ∈ checks DateTime.ofIso (withSectionId (.scalar (.int (Nat.pow 10 4300)))),
        check.place ≠ "tasks[0].section_id" → check.Holds) ∧
      (read DateTime.ofIso (withSectionId (.scalar (.int (Nat.pow 10 4300))))).outcome =
        .error .longNumber := by
  refine ⟨holds_checks_withSectionId _ _, ?_⟩
  decide +kernel

end Snapshot

end TaskQuery
