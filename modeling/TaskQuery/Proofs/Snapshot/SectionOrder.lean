import Mathlib.Data.List.Nodup
import TaskQuery.Proofs.Search.Memory
import TaskQuery.Proofs.Snapshot.Validity
import TaskQuery.Report

/-!
# The order of sections does not count

An identifier leads to the first section that has it, so the order of sections counts in
general.  In a snapshot that was read no two sections have the same identifier, and then it
does not: whatever is asked of the snapshot, the sections may stand in any order
(`Snapshot.read_sectionOrder`).

## Strategy

Where identifiers are distinct, an identifier leads to a section if and only if the section is
in the list and has it (`findSection_eq_some_iff`), and of this the order is no part.  So two
orders of the sections lead every identifier to the same section (`SameLookup`).  All else sees
the sections through this look-up only: texts, filters and reports through the title of the
section of one task (`SameLookup.sectionTitle_eq`), a search task by task
(`collect_withSections`), and a run of calls call by call (`run_withSections`).
-/

namespace TaskQuery

/-! ## Where an identifier leads -/

/-- Two lists of sections in which every identifier leads to the same section, or nowhere in
both. -/
def SameLookup (first second : List Section) : Prop :=
  ∀ id, findSection first id = findSection second id

section Lookup

variable {sections reordered : List Section}

/-- Where identifiers are distinct, the section that an identifier leads to is the one that has
it. -/
theorem findSection_eq_some_iff (hdistinct : (sections.map (·.id)).Nodup) {id : String}
    {entry : Section} :
    findSection sections (some id) = some entry ↔ entry ∈ sections ∧ entry.id = id := by
  show sections.find? (·.id == id) = some entry ↔ _
  constructor
  · intro hentry
    have hid := List.find?_some hentry
    exact ⟨List.mem_of_find?_eq_some hentry, eq_of_beq hid⟩
  · rintro ⟨hmem, rfl⟩
    cases hfound : sections.find? (·.id == entry.id) with
    | none =>
        have hnot := List.find?_eq_none.mp hfound entry hmem
        exact absurd (beq_self_eq_true _) hnot
    | some other =>
        have hid := List.find?_some hfound
        rw [List.inj_on_of_nodup_map hdistinct (List.mem_of_find?_eq_some hfound) hmem
          (eq_of_beq hid)]

theorem sameLookup_of_perm (hperm : reordered.Perm sections)
    (hdistinct : (sections.map (·.id)).Nodup) : SameLookup reordered sections := by
  intro id
  cases id with
  | none => rfl
  | some id =>
      have hreordered : (reordered.map (·.id)).Nodup := (hperm.map _).nodup_iff.mpr hdistinct
      refine Option.ext fun entry => ?_
      rw [findSection_eq_some_iff hreordered, findSection_eq_some_iff hdistinct, hperm.mem_iff]

end Lookup

namespace SameLookup

variable {first second : List Section}

/-! ## One task -/

theorem sectionTitle_eq (hsame : SameLookup first second) (task : Task) :
    task.sectionTitle first = task.sectionTitle second := by
  unfold Task.sectionTitle Task.sectionIn
  rw [hsame]

theorem searchText_eq (hsame : SameLookup first second) (task : Task) :
    task.searchText first = task.searchText second := by
  unfold Task.searchText
  rw [hsame.sectionTitle_eq]

theorem record_eq (hsame : SameLookup first second) : Task.record first = Task.record second := by
  funext task
  unfold Task.record
  rw [hsame.sectionTitle_eq]

theorem passes_eq (hsame : SameLookup first second) (filter : FieldFilter) (task : Task)
    (now : DateTime) : filter.passes task first now = filter.passes task second now := by
  unfold FieldFilter.passes
  rw [hsame.sectionTitle_eq]

theorem passesFilters_eq (hsame : SameLookup first second) (filters : List FieldFilter)
    (task : Task) (now : DateTime) :
    passesFilters task first now filters = passesFilters task second now filters := by
  induction filters with
  | nil => rfl
  | cons filter filters ih => rw [passesFilters, passesFilters, hsame.passes_eq, ih]

theorem matches_eq (hsame : SameLookup first second) (query : Query) (task : Task)
    (now : DateTime) : query.matches task first now = query.matches task second now := by
  unfold Query.matches
  rw [hsame.searchText_eq, hsame.passesFilters_eq]

/-! ## Reports -/

theorem block_eq (hsame : SameLookup first second) (number : ℕ) (task : Task) :
    Report.block first number task = Report.block second number task := by
  unfold Report.block
  rw [hsame.sectionTitle_eq]

theorem blocks_eq (hsame : SameLookup first second) (number : ℕ) (tasks : List Task) :
    Report.blocks first number tasks = Report.blocks second number tasks := by
  induction tasks generalizing number with
  | nil => rfl
  | cons task tasks ih => rw [Report.blocks, Report.blocks, hsame.block_eq, ih]

theorem text_eq (hsame : SameLookup first second) (tasks : List Task) :
    Report.text first tasks = Report.text second tasks := by
  cases tasks with
  | nil => rfl
  | cons task tasks =>
      unfold Report.text
      dsimp only
      rw [hsame.blocks_eq]

end SameLookup

/-! ## Searches -/

namespace SearchService

/-- The service with these sections instead of its own. -/
def withSections (service : SearchService) (sections : List Section) : SearchService :=
  { service with snapshot := { service.snapshot with sections } }

variable {service : SearchService} {sections : List Section}

theorem collect_withSections (hsame : SameLookup sections service.snapshot.sections)
    (query : Query) (now : DateTime) (found : ℕ) (tasks : List Task) :
    (service.withSections sections).collect query now found tasks =
      service.collect query now found tasks := by
  have hmatches : ∀ task, query.matches task (service.withSections sections).snapshot.sections now
      = query.matches task service.snapshot.sections now := fun task => hsame.matches_eq query task now
  induction tasks generalizing found with
  | nil => rfl
  | cons task tasks ih =>
      unfold collect
      rw [hmatches]
      simp only [ih]
      rfl

theorem parse_withSections (service : SearchService) (sections : List Section) (text : String) :
    (service.withSections sections).parse text =
      ((service.parse text).1, (service.parse text).2.withSections sections) := by
  obtain ⟨snapshot, includeCompleted, limit, cached⟩ := service
  unfold parse withSections
  cases cached with
  | none => rfl
  | some remembered =>
      dsimp only
      split <;> rfl

theorem snapshot_parse (service : SearchService) (text : String) :
    (service.parse text).2.snapshot = service.snapshot := by
  unfold parse
  split
  · split <;> rfl
  · rfl

theorem snapshot_step (service : SearchService) (call : Call) :
    (service.step call).2.snapshot = service.snapshot := by
  cases call with
  | parse text => exact service.snapshot_parse text
  | search text now => exact service.snapshot_parse text
  | sectionTitle task => rfl

/-- A call is answered as with the other sections, and leaves the same memory. -/
theorem step_withSections (hsame : SameLookup sections service.snapshot.sections) (call : Call) :
    (service.withSections sections).step call =
      ((service.step call).1, (service.step call).2.withSections sections) := by
  cases call with
  | parse text =>
      unfold step
      simp only [parse_withSections]
  | search text now =>
      have hparsed : SameLookup sections (service.parse text).2.snapshot.sections := by
        rw [service.snapshot_parse]
        exact hsame
      unfold step search
      simp only [parse_withSections]
      rw [collect_withSections hparsed]
      rfl
  | sectionTitle task =>
      exact congrArg (fun title => (Answer.title title, service.withSections sections))
        (hsame.sectionTitle_eq task)

theorem run_withSections (hsame : SameLookup sections service.snapshot.sections)
    (calls : List Call) :
    (service.withSections sections).run calls =
      ((service.run calls).1, (service.run calls).2.withSections sections) := by
  induction calls generalizing service with
  | nil => rfl
  | cons call calls ih =>
      have hnext : SameLookup sections (service.step call).2.snapshot.sections := by
        rw [service.snapshot_step]
        exact hsame
      unfold run
      simp only [step_withSections hsame, ih hnext]

end SearchService

/-! ## Snapshots -/

namespace Snapshot

variable {readMoment : MomentReader} {data : Value} {snapshot : Snapshot}
  {sections : List Section}

/-- No two sections of a snapshot that was read have the same identifier. -/
theorem nodup_ids_of_read (hread : (read readMoment data).outcome = .ok snapshot) :
    (snapshot.sections.map (·.id)).Nodup := by
  obtain ⟨_, _, _, _, _, _, _, _, hdistinct⟩ :=
    ((decided_read readMoment data).ok_iff snapshot).mp hread
  exact hdistinct

/-- **The order of sections does not count.**  If a snapshot was read from decoded data, its
sections may be put in any order: every identifier leads to the same section, every task has the
same texts to search and matches the same queries, every service over the snapshot answers every
search and every run of calls as before, and every report and every record is the same. -/
theorem read_sectionOrder (hread : (read readMoment data).outcome = .ok snapshot)
    (hperm : sections.Perm snapshot.sections) :
    (∀ id, findSection sections id = findSection snapshot.sections id) ∧
      (∀ task : Task, task.searchText sections = task.searchText snapshot.sections) ∧
      (∀ (query : Query) (task : Task) (now : DateTime),
        query.matches task sections now = query.matches task snapshot.sections now) ∧
      (∀ (service : SearchService), service.snapshot = snapshot →
        (∀ text now, ((service.withSections sections).search text now).1 =
            (service.search text now).1) ∧
          (∀ task, (service.withSections sections).sectionTitle task = service.sectionTitle task) ∧
          ∀ calls, ((service.withSections sections).run calls).1 = (service.run calls).1) ∧
      (∀ tasks : List Task, tasks.map (Task.record sections) =
        tasks.map (Task.record snapshot.sections)) ∧
      ∀ tasks, Report.text sections tasks = Report.text snapshot.sections tasks := by
  have hsame := sameLookup_of_perm hperm (nodup_ids_of_read hread)
  refine ⟨hsame, hsame.searchText_eq, hsame.matches_eq, ?services, ?records, hsame.text_eq⟩
  case services =>
    rintro service rfl
    refine ⟨fun text now => ?_, hsame.sectionTitle_eq, fun calls => ?_⟩
    · have hanswer := congrArg Prod.fst (SearchService.step_withSections hsame (.search text now))
      exact SearchService.Answer.tasks.inj hanswer
    · rw [SearchService.run_withSections hsame]
  case records =>
    intro tasks
    rw [hsame.record_eq]

/-- Two sections, one with a number as its identifier, in both orders.  The task names the
other by a number that is the same text. -/
theorem exists_read_sectionOrder :
    ∃ (data : Value) (snapshot : Snapshot) (sections : List Section) (service : SearchService)
      (now : DateTime),
      (read DateTime.ofIso data).outcome = .ok snapshot ∧ sections.Perm snapshot.sections ∧
        sections ≠ snapshot.sections ∧ service.snapshot = snapshot ∧
        findSection sections (some "2") = some { id := "2", title := "Home" } ∧
        ((service.withSections sections).search "section:HOME" now).1 = .ok snapshot.tasks ∧
        snapshot.tasks ≠ [] := by
  let finance : Section := { id := "1", title := "Finance" }
  let home : Section := { id := "2", title := "Home" }
  let data : Value := .mapping [
    (.string "sections", .sequence [
      .mapping [(.string "id", .scalar (.int 1)), (.string "title", .string "Finance")],
      .mapping [(.string "id", .string "2"), (.string "title", .string "Home")]]),
    (.string "tasks", .sequence [
      .mapping [(.string "id", .string "a"), (.string "section_id", .scalar (.int 2))]])]
  let snapshot : Snapshot :=
    { tasks := [{ id := "a", title := "", sectionId := some "2" }], sections := [finance, home] }
  let service : SearchService := { snapshot }
  let now : DateTime := .startOf ⟨2026, 1, 31, by decide⟩
  have hread : (read DateTime.ofIso data).outcome = .ok snapshot := by decide +kernel
  have hperm : [home, finance].Perm snapshot.sections := .swap finance home []
  have hsearch : (service.search "section:HOME" now).1 = .ok snapshot.tasks := by decide +kernel
  obtain ⟨hfind, -, -, hservices, -⟩ := read_sectionOrder hread hperm
  obtain ⟨hsearches, -⟩ := hservices service rfl
  refine ⟨data, snapshot, [home, finance], service, now, hread, hperm, by decide, rfl, ?_, ?_,
    by decide⟩
  · rw [hfind]
    decide
  · rw [hsearches, hsearch]

end Snapshot

end TaskQuery
