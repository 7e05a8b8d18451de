import Mathlib.Data.List.Sort
import Mathlib.Data.String.Basic
import TaskQuery.Proofs.Snapshot.Validity

/-!
# Dangling references

A task may name a section that is not there.  Reading a snapshot keeps the reference and
reports it in a warning, all of them in one.  This file says what the warning says and on what
it depends (`Snapshot.read_reportsDangling`).

## Strategy

The list in the warning is sorted and has every text once (`pairwise_sortDistinct`), and its
members are the identifiers that dangle (`Snapshot.mem_danglingIds`), which are told from the
sections by the same look-up that searches and reports use.  There is only one such list, so the
warning depends on two sets, the identifiers of the sections and those that tasks name
(`Snapshot.warnings_congr`).  Records of tasks are read one by one, whatever stands beside them;
their order and how often they occur bear on neither set (`Snapshot.exists_read_of_sameRecords`).

What a run of the reader logs is taken from `Snapshot.result_read`, which follows the reader
through its steps: the warning is given after the last check, so a reader that stops at a check
has logged nothing (`Snapshot.log_read_of_error`).
-/

namespace TaskQuery

open SnapshotReader

/-! ## Sorted lists of distinct texts -/

section SortDistinct

theorem mem_insertDistinct {text other : String} {texts : List String} :
    other ∈ insertDistinct text texts ↔ other = text ∨ other ∈ texts := by
  induction texts with
  | nil => simp [insertDistinct]
  | cons first rest ih =>
      unfold insertDistinct
      split_ifs with hless hsame
      · exact List.mem_cons
      · rw [hsame, List.mem_cons, ← or_assoc, or_self]
      · rw [List.mem_cons, ih, List.mem_cons, or_left_comm]

theorem pairwise_insertDistinct (text : String) {texts : List String}
    (hsorted : texts.Pairwise (· < ·)) : (insertDistinct text texts).Pairwise (· < ·) := by
  induction texts with
  | nil => exact List.pairwise_singleton _ text
  | cons first rest ih =>
      obtain ⟨hfirst, hrest⟩ := List.pairwise_cons.mp hsorted
      unfold insertDistinct
      split_ifs with hless hsame
      · refine List.pairwise_cons.mpr ⟨List.forall_mem_cons.mpr ⟨hless, ?_⟩, hsorted⟩
        exact fun other hother => hless.trans (hfirst other hother)
      · exact hsorted
      · have hgreater : first < text := lt_of_le_of_ne (not_lt.mp hless) (Ne.symm hsame)
        refine List.pairwise_cons.mpr ⟨fun other hother => ?_, ih hrest⟩
        rcases mem_insertDistinct.mp hother with rfl | hother
        · exact hgreater
        · exact hfirst other hother

variable {texts : List String}

theorem mem_sortDistinct {text : String} : text ∈ sortDistinct texts ↔ text ∈ texts := by
  induction texts with
  | nil => rfl
  | cons first rest ih =>
      show text ∈ insertDistinct first (sortDistinct rest) ↔ _
      rw [mem_insertDistinct, ih, List.mem_cons]

theorem pairwise_sortDistinct (texts : List String) : (sortDistinct texts).Pairwise (· < ·) := by
  induction texts with
  | nil => exact List.Pairwise.nil
  | cons first rest ih => exact pairwise_insertDistinct first ih

/-- The numbers of the characters of a text. -/
def codePoints (text : String) : List ℕ :=
  text.toList.map Char.toNat

theorem codePoints_lt_codePoints {text other : String} (hless : text < other) :
    codePoints text < codePoints other :=
  List.map_lt (fun _ _ hchar => hchar) (String.lt_iff.mp hless)

end SortDistinct

namespace Snapshot

/-! ## Identifiers that dangle -/

/-- An identifier that some task names and that leads to no section.  The empty one does not
count. -/
def Dangles (snapshot : Snapshot) (id : String) : Prop :=
  ∃ task ∈ snapshot.tasks, task.sectionId = some id ∧ id ≠ "" ∧
    findSection snapshot.sections (some id) = none

theorem findSection_eq_none_iff {sections : List Section} {id : String} :
    findSection sections (some id) = none ↔ id ∉ sections.map (·.id) := by
  show sections.find? (·.id == id) = none ↔ _
  rw [List.find?_eq_none, List.mem_map]
  simp

theorem danglingId?_eq_some_iff {sections : List Section} {task : Task} {id : String} :
    danglingId? sections task = some id ↔
      task.sectionId = some id ∧ id ≠ "" ∧ findSection sections (some id) = none := by
  rw [findSection_eq_none_iff, danglingId?, Option.filter_eq_some_iff]
  simp

variable {snapshot other : Snapshot}

theorem mem_danglingIds {id : String} : id ∈ snapshot.danglingIds ↔ snapshot.Dangles id := by
  rw [danglingIds, mem_sortDistinct, List.mem_filterMap]
  simp only [danglingId?_eq_some_iff]
  rfl

theorem warnings_eq_nil_iff : snapshot.warnings = [] ↔ ∀ id, ¬ snapshot.Dangles id := by
  unfold warnings
  simp only [← mem_danglingIds, ← List.eq_nil_iff_forall_not_mem]
  split_ifs with hnone
  · exact iff_of_true rfl hnone
  · exact iff_of_false (by simp) hnone

theorem length_warnings_le (snapshot : Snapshot) : snapshot.warnings.length ≤ 1 := by
  unfold warnings
  split_ifs <;> simp

/-- A warning lists the identifiers that dangle, in the order of their code points. -/
theorem exists_ids_of_mem_warnings {line : LogLine} (hline : line ∈ snapshot.warnings) :
    ∃ ids, line = danglingWarning ids ∧ (ids.map codePoints).Pairwise (· < ·) ∧
      ∀ id, id ∈ ids ↔ snapshot.Dangles id := by
  unfold warnings at hline
  split_ifs at hline with hnone
  · cases hline
  · refine ⟨snapshot.danglingIds, List.mem_singleton.mp hline, ?_, fun id => mem_danglingIds⟩
    exact List.pairwise_map.mpr ((pairwise_sortDistinct _).imp codePoints_lt_codePoints)

theorem dangles_iff {id : String} :
    snapshot.Dangles id ↔ some id ∈ snapshot.tasks.map (·.sectionId) ∧ id ≠ "" ∧
      id ∉ snapshot.sections.map (·.id) := by
  unfold Dangles
  rw [findSection_eq_none_iff]
  simp only [← and_assoc, exists_and_right, List.mem_map]

/-- The warnings depend on two sets: the identifiers of the sections and those that tasks name,
of which the empty one does not count. -/
theorem warnings_congr
    (hsections : ∀ id, id ∈ snapshot.sections.map (·.id) ↔ id ∈ other.sections.map (·.id))
    (htasks : ∀ id ≠ "", some id ∈ snapshot.tasks.map (·.sectionId) ↔
      some id ∈ other.tasks.map (·.sectionId)) :
    snapshot.warnings = other.warnings := by
  have hdangles : ∀ id, snapshot.Dangles id ↔ other.Dangles id := by
    intro id
    rw [dangles_iff, dangles_iff, hsections, and_left_comm, and_left_comm (b := id ≠ "")]
    refine and_congr_right fun hne => ?_
    rw [htasks id hne]
  have hids : snapshot.danglingIds = other.danglingIds :=
    (pairwise_sortDistinct _).eq_of_mem_iff (pairwise_sortDistinct _) fun id =>
      mem_danglingIds.trans ((hdangles id).trans mem_danglingIds.symm)
  unfold warnings
  rw [hids]

/-! ## The records of the tasks -/

variable {readMoment : MomentReader}

/-- What a record stands for is one task only. -/
theorem eq_of_recordedIn {item : Value} {task twin : Task}
    (htask : task.RecordedIn readMoment item) (htwin : twin.RecordedIn readMoment item) :
    task = twin := by
  have hread := decided_readTask "" readMoment item
  exact Except.ok.inj (((hread.ok_iff task).mpr htask).symm.trans ((hread.ok_iff twin).mpr htwin))

/-- Data with the same sections and the same records of tasks, which may stand in another order
and occur more or less often. -/
structure SameRecords (first second : Entries) (items others : List Value) : Prop where
  sections : first.present? "sections" = second.present? "sections"
  first : (first.present? "tasks").getD (.sequence []) = .sequence items
  second : (second.present? "tasks").getD (.sequence []) = .sequence others
  mem_iff : ∀ item, item ∈ items ↔ item ∈ others

theorem SameRecords.symm {first second : Entries} {items others : List Value}
    (hsame : SameRecords first second items others) : SameRecords second first others items :=
  ⟨hsame.sections.symm, hsame.second, hsame.first, fun item => (hsame.mem_iff item).symm⟩

theorem exists_forall₂_recordedIn_iff {items : List Value} :
    (∃ tasks, List.Forall₂ (Task.RecordedIn readMoment) items tasks) ↔
      ∀ item ∈ items, ∃ task : Task, task.RecordedIn readMoment item := by
  induction items with
  | nil => simp
  | cons item items ih =>
      rw [List.forall_mem_cons, ← ih]
      constructor
      · rintro ⟨_, _ | ⟨htask, htasks⟩⟩
        exact ⟨⟨_, htask⟩, _, htasks⟩
      · rintro ⟨⟨task, htask⟩, tasks, htasks⟩
        exact ⟨task :: tasks, .cons htask htasks⟩

/-- The tasks of a list are those that its records stand for. -/
theorem mem_iff_recordedIn {items : List Value} {tasks : List Task}
    (htasks : List.Forall₂ (Task.RecordedIn readMoment) items tasks) {task : Task} :
    task ∈ tasks ↔ ∃ item ∈ items, task.RecordedIn readMoment item := by
  induction htasks with
  | nil => simp
  | cons hhead _ ih =>
      rw [List.mem_cons, ih, List.exists_mem_cons_iff]
      exact or_congr_left ⟨fun heq => heq ▸ hhead, fun htask => eq_of_recordedIn htask hhead⟩

/-- The same records are read as the same tasks, over the same sections. -/
theorem exists_read_of_sameRecords {first second : Entries} {items others : List Value}
    (hsame : SameRecords first second items others)
    (hread : (read readMoment (.mapping first)).outcome = .ok snapshot) :
    ∃ other, (read readMoment (.mapping second)).outcome = .ok other ∧
      other.sections = snapshot.sections ∧ ∀ task, task ∈ other.tasks ↔ task ∈ snapshot.tasks := by
  obtain ⟨entries, sectionItems, taskItems, hentries, hsectionItems, hsections, htaskItems, htasks,
    hdistinct⟩ := ((decided_read readMoment _).ok_iff snapshot).mp hread
  cases hentries
  obtain rfl : taskItems = items := Value.sequence.inj (htaskItems.symm.trans hsame.first)
  have hrecorded := exists_forall₂_recordedIn_iff.mp ⟨_, htasks⟩
  obtain ⟨tasks, hothers⟩ := exists_forall₂_recordedIn_iff.mpr fun item hitem =>
    hrecorded item ((hsame.mem_iff item).mpr hitem)
  refine ⟨{ tasks, sections := snapshot.sections }, ?_, rfl, fun task => ?_⟩
  · refine ((decided_read readMoment _).ok_iff _).mpr ⟨second, sectionItems, others, rfl, ?_,
      hsections, hsame.second, hothers, hdistinct⟩
    rw [← hsame.sections]
    exact hsectionItems
  · rw [mem_iff_recordedIn hothers, mem_iff_recordedIn htasks]
    simp only [hsame.mem_iff]

/-! ## The report -/

variable {data : Value}

theorem log_read_of_ok (hread : (read readMoment data).outcome = .ok snapshot) :
    (read readMoment data).log = snapshot.warnings := by
  rw [outcome_read] at hread
  unfold Logged.log
  rw [result_read, hread]

theorem log_read_of_error {fault : SnapshotFault}
    (hread : (read readMoment data).outcome = .error fault) : (read readMoment data).log = [] := by
  rw [outcome_read] at hread
  unfold Logged.log
  rw [result_read, hread]

theorem log_read_of_sameRecords {first second : Entries} {items others : List Value}
    (hsame : SameRecords first second items others)
    (hread : (read readMoment (.mapping first)).outcome = .ok snapshot) :
    (read readMoment (.mapping first)).log = (read readMoment (.mapping second)).log := by
  obtain ⟨other, hother, hsections, htasks⟩ := exists_read_of_sameRecords hsame hread
  rw [log_read_of_ok hread, log_read_of_ok hother]
  refine warnings_congr (fun id => by rw [hsections]) fun id _ => ?_
  simp only [List.mem_map, htasks]

end Snapshot

end TaskQuery
