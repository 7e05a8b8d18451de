import TaskQuery.Proofs.Match.RelativeDay
import TaskQuery.Proofs.Match.Strength
import TaskQuery.Report

/-!
# Tasks pass the filters with what their records show

A record shows the attributes of a task as text, and a filter compares an attribute with a
text.  Both have rules of their own for the section that a task belongs to, the name of a
priority and the day of a due date.  This file shows that the rules fit together: what a
record shows under a key is found by the filter on that field (`Task.passes_recorded`).

## Strategy

A filter on a text compares it with the very text that the record has
(`Task.member?_of_comparedText?`), and case is folded on both sides.  A moment is written with
its day in front, as its own clock shows it and with ten characters in every year
(`DateTime.take_isoText`), and a filter reads these characters as that day and compares it
with the day of the same clock (`Task.passes_writtenDay`); the offset plays no part.
-/

namespace TaskQuery

open Text

/-- The day of a moment stands in front of the time and takes ten characters. -/
theorem DateTime.take_isoText (moment : DateTime) :
    moment.isoText.toList.take 10 = moment.date.isoChars := by
  rw [isoText, String.toList_ofList, isoChars, List.append_assoc]
  exact List.take_left' moment.date.length_isoChars

/-- Of its own day a due date is neither earlier nor, counted by days, later. -/
theorem Comparison.holdsDueDate_ownDay {comparison : Comparison}
    (hgreater : comparison ≠ .greaterThan) (hless : comparison ≠ .lessThan) (due : DateTime) :
    comparison.holdsDueDate due due.date = true := by
  rw [holdsDueDate_iff]
  cases comparison with
  | equals | contains => rfl
  | greaterOrEqual | lessOrEqual => exact le_rfl
  | greaterThan => exact absurd rfl hgreater
  | lessThan => exact absurd rfl hless

namespace Task

variable {task : Task} {sections : List Section} {now : DateTime}

/-! ## Texts -/

/-- What a filter on a text compares its value with is what the record has under the name of
the field. -/
theorem member?_of_comparedText? {field : Field} {text : String}
    (htext : task.comparedText? sections field = some text) :
    (task.record sections).member? field.name = some (.string text) := by
  cases field with
  | title | description | priority =>
      obtain rfl := Option.some.inj htext
      rfl
  | sectionTitle =>
      have hsection : task.sectionTitle sections = some text := htext
      show some (Json.ofText? (task.sectionTitle sections)) = _
      rw [hsection]
      rfl
  | amount | status | dueDate => cases htext

theorem passes_comparedText {field : Field} {text : String}
    (htext : task.comparedText? sections field = some text) (comparison : Comparison) :
    FieldFilter.passes ⟨field, comparison, text⟩ task sections now = .ok true := by
  rw [passes_of_comparedText? htext, Comparison.holdsText_self]

theorem passes_unsectioned (hsection : task.sectionTitle sections = none)
    (comparison : Comparison) :
    FieldFilter.passes ⟨.sectionTitle, comparison, "none"⟩ task sections now = .ok true := by
  have hvalue : unsectionedValues.contains (folded "none") = true := by decide
  unfold FieldFilter.passes
  dsimp only
  rw [hsection]
  exact congrArg Except.ok hvalue

/-! ## Due dates -/

/-- The filter with the day of the due date, as it is written. -/
theorem passes_writtenDay {due : DateTime} (hdue : task.dueDate = some due)
    {comparison : Comparison} (hgreater : comparison ≠ .greaterThan)
    (hless : comparison ≠ .lessThan) :
    FieldFilter.passes ⟨.dueDate, comparison, String.ofList (due.isoText.toList.take 10)⟩ task
      sections now = .ok true := by
  have hday := resolveDay_isoChars due.date due.zone now
  rw [DateTime.take_isoText, FieldFilter.passes_dueDate hdue hday,
    Comparison.holdsDueDate_ownDay hgreater hless]

/-! ## The whole record -/

/-- **What a record shows is found.**  The record of a task has a title, a description and a
priority, and the task passes the filters with these values under every comparison.  So it does
with the title of its section, or with `none` where the record shows no section.  If the record
shows a due date, the task passes the filter with its first ten characters under every
comparison but the two strict ones, whatever the clock shows. -/
theorem passes_recorded (task : Task) (sections : List Section) (now : DateTime) :
    (∀ entry ∈ [("title", Field.title), ("description", .description), ("priority", .priority)],
        ∃ text, (task.record sections).member? entry.1 = some (.string text) ∧
          ∀ comparison,
            FieldFilter.passes ⟨entry.2, comparison, text⟩ task sections now = .ok true) ∧
      ((∃ text, (task.record sections).member? "section" = some (.string text) ∧
          ∀ comparison,
            FieldFilter.passes ⟨.sectionTitle, comparison, text⟩ task sections now = .ok true) ∨
        (task.record sections).member? "section" = some .null ∧
          ∀ comparison,
            FieldFilter.passes ⟨.sectionTitle, comparison, "none"⟩ task sections now =
              .ok true) ∧
      ((∃ text, (task.record sections).member? "due_date" = some (.string text) ∧
          ∀ comparison, comparison ≠ .greaterThan → comparison ≠ .lessThan →
            FieldFilter.passes ⟨.dueDate, comparison, String.ofList (text.toList.take 10)⟩ task
              sections now = .ok true) ∨
        (task.record sections).member? "due_date" = some .null ∧ task.dueDate = none) := by
  refine ⟨?texts, ?ofSection, ?dueDate⟩
  case texts =>
    have hfound : ∀ field text, task.comparedText? sections field = some text →
        ∃ text, (task.record sections).member? field.name = some (.string text) ∧
          ∀ comparison, FieldFilter.passes ⟨field, comparison, text⟩ task sections now =
            .ok true :=
      fun field text htext => ⟨text, member?_of_comparedText? htext, passes_comparedText htext⟩
    refine List.forall_mem_cons.mpr ⟨hfound .title task.title rfl, ?_⟩
    refine List.forall_mem_cons.mpr ⟨hfound .description task.description rfl, ?_⟩
    exact List.forall_mem_singleton.mpr (hfound .priority task.priority.displayName rfl)
  case ofSection =>
    cases hsection : task.sectionTitle sections with
    | some title =>
        have hcompared : task.comparedText? sections .sectionTitle = some title := hsection
        exact Or.inl ⟨title, member?_of_comparedText? hcompared, passes_comparedText hcompared⟩
    | none =>
        refine Or.inr ⟨?_, passes_unsectioned hsection⟩
        show some (Json.ofText? (task.sectionTitle sections)) = _
        rw [hsection]
        rfl
  case dueDate =>
    have hmember : (task.record sections).member? "due_date" =
        some (Json.ofText? (task.dueDate.map DateTime.isoText)) := rfl
    rw [hmember]
    cases hdue : task.dueDate with
    | some due =>
        refine Or.inl ⟨due.isoText, rfl, fun comparison hgreater hless => ?_⟩
        exact passes_writtenDay hdue hgreater hless
    | none => exact Or.inr ⟨rfl, rfl⟩

/-- A due date of three digits in the evening of its own day, when it is the next day already by
universal time, and a section whose identifier a second one has too. -/
theorem exists_passes_recorded :
    ∃ (task : Task) (sections : List Section) (now : DateTime),
      (task.record sections).member? "section" = some (.string "STRASSE") ∧
        FieldFilter.passes ⟨.sectionTitle, .equals, "STRASSE"⟩ task sections now = .ok true ∧
        (task.record sections).member? "due_date" = some (.string "0999-12-31T23:30:00-05:00") ∧
        FieldFilter.passes ⟨.dueDate, .equals, "0999-12-31"⟩ task sections now = .ok true ∧
        (task.record []).member? "section" = some .null ∧
        FieldFilter.passes ⟨.sectionTitle, .contains, "none"⟩ task [] now = .ok true := by
  let due : DateTime :=
    { date := ⟨999, 12, 31, by decide⟩, time := ⟨23, 30, 0, 0, by decide⟩
      zone := some { offset := ⟨-18000, by decide⟩ } }
  let task : Task := { id := "1", title := "Pay rent", dueDate := some due, sectionId := some "s" }
  let sections : List Section :=
    [{ id := "s", title := "STRASSE" }, { id := "s", title := "Straße" }]
  let now : DateTime := .startOf ⟨2026, 1, 31, by decide⟩
  have hsection : (task.record sections).member? "section" = some (.string "STRASSE") := rfl
  have hdue : (task.record sections).member? "due_date" =
      some (.string "0999-12-31T23:30:00-05:00") := by
    show some (Json.string due.isoText) = _
    have htext : due.isoText = "0999-12-31T23:30:00-05:00" := by decide +kernel
    rw [htext]
  obtain ⟨-, hfound, hday⟩ := passes_recorded task sections now
  obtain ⟨-, hnone, -⟩ := passes_recorded task [] now
  refine ⟨task, sections, now, hsection, ?_, hdue, ?_, rfl, ?_⟩
  · rcases hfound with ⟨text, htext, hpasses⟩ | ⟨hnull, -⟩
    · obtain rfl : text = "STRASSE" :=
        Json.string.inj (Option.some.inj (htext.symm.trans hsection))
      exact hpasses .equals
    · cases hnull
  · rcases hday with ⟨text, htext, hpasses⟩ | ⟨-, hmissing⟩
    · obtain rfl : text = "0999-12-31T23:30:00-05:00" :=
        Json.string.inj (Option.some.inj (htext.symm.trans hdue))
      exact hpasses .equals (by decide) (by decide)
    · cases hmissing
  · rcases hnone with ⟨text, htext, -⟩ | ⟨-, hpasses⟩
    · cases htext
    · exact hpasses .contains

end Task

end TaskQuery
