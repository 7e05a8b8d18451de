import TaskQuery.Match
import TaskQuery.Proofs.Query.Recased

/-!
# The case of letters does not matter

Whether a task matches a search text is the same for all spellings of the text, the task
and the titles of the sections that differ in the case of ASCII letters.

Two such spellings have the same form in small letters, so it is enough to compare a
spelling with its small form.  The texts of a task are only ever looked at in their
case-folded form, the one that small letters already have, and so are the texts of terms
and the values of filters; identifiers, which are compared as they stand, are not touched.
-/

namespace TaskQuery

open Text

/-! ## Tasks and sections in small letters -/

/-- A task with all ASCII letters of its texts small. -/
def Task.caseless (task : Task) : Task :=
  { task with
    title := Text.caseless task.title
    description := Text.caseless task.description
    emailSubject := task.emailSubject.map Text.caseless
    emailSender := task.emailSender.map Text.caseless }

/-- A section with all ASCII letters of its title small. -/
def Section.caseless (group : Section) : Section :=
  { group with title := Text.caseless group.title }

theorem Task.sectionTitle_caseless (task : Task) (sections : List Section) :
    task.caseless.sectionTitle (sections.map Section.caseless) =
      (task.sectionTitle sections).map Text.caseless := by
  have hid : task.caseless.sectionId = task.sectionId := rfl
  unfold sectionTitle sectionIn findSection
  rw [hid]
  cases task.sectionId with
  | none => rfl
  | some id =>
      rw [Option.bind_some, Option.bind_some, List.find?_map, Option.map_map, Option.map_map]
      rfl

theorem Task.foldedEntry_map_caseless (text : Option String) :
    foldedEntry (text.map Text.caseless) = foldedEntry text := by
  cases text with
  | none => rfl
  | some text => exact congrArg ([·]) (folded_caseless text)

theorem Task.searchText_caseless (task : Task) (sections : List Section) :
    task.caseless.searchText (sections.map Section.caseless) = task.searchText sections := by
  unfold searchText
  rw [sectionTitle_caseless, foldedEntry_map_caseless]
  simp only [caseless, folded_caseless, foldedEntry_map_caseless]
  rfl

/-! ## Terms and filters -/

theorem Term.hits_caseless (term : Term) (entries : List (List Char)) :
    term.caseless.hits entries = term.hits entries := by
  unfold hits
  dsimp only [caseless]
  rw [folded_caseless]
  rfl

theorem satisfiesTerms_map_caseless (terms : List Term) (entries : List (List Char)) :
    satisfiesTerms (terms.map Term.caseless) entries = satisfiesTerms terms entries := by
  unfold satisfiesTerms
  simp only [List.foldl_map, Term.hits_caseless]
  rfl

theorem FieldFilter.passes_caseless (filter : FieldFilter) (task : Task) (sections : List Section)
    (now : DateTime) :
    filter.caseless.passes task.caseless (sections.map Section.caseless) now =
      filter.passes task sections now := by
  have hvalue : folded filter.caseless.value = folded filter.value := folded_caseless _
  have htitle : folded task.caseless.title = folded task.title := folded_caseless _
  have hdescription : folded task.caseless.description = folded task.description :=
    folded_caseless _
  have hfield : filter.caseless.field = filter.field := rfl
  unfold passes
  rw [hvalue, htitle, hdescription, Task.sectionTitle_caseless, hfield]
  -- all that is left of the case of letters is the title of a section
  cases filter.field with
  | sectionTitle =>
      cases task.sectionTitle sections with
      | none => rfl
      | some title =>
          dsimp only [Option.map_some]
          rw [folded_caseless]
          rfl
  | _ => rfl

theorem passesFilters_map_caseless (filters : List FieldFilter) (task : Task)
    (sections : List Section) (now : DateTime) :
    passesFilters task.caseless (sections.map Section.caseless) now
        (filters.map FieldFilter.caseless) =
      passesFilters task sections now filters := by
  induction filters with
  | nil => rfl
  | cons filter filters ih =>
      rw [List.map_cons, passesFilters, passesFilters, filter.passes_caseless, ih]

namespace Query

theorem matches_caseless (query : Query) (task : Task) (sections : List Section)
    (now : DateTime) :
    query.caseless.matches task.caseless (sections.map Section.caseless) now =
      query.matches task sections now := by
  unfold «matches» caseless
  rw [satisfiesTerms_map_caseless, Task.searchText_caseless, passesFilters_map_caseless]

end Query

/-! ## Other spellings -/

/-- A task that differs from another in the case of ASCII letters of its texts, if at all. -/
structure Task.Recased (task other : Task) : Prop where
  title : Text.Recased task.title other.title
  description : Text.Recased task.description other.description
  emailSubject : Option.Rel Text.Recased task.emailSubject other.emailSubject
  emailSender : Option.Rel Text.Recased task.emailSender other.emailSender
  same : other = { task with
    title := other.title
    description := other.description
    emailSubject := other.emailSubject
    emailSender := other.emailSender }

/-- A section that differs from another in the case of ASCII letters of its title, if at
all. -/
structure Section.Recased (group other : Section) : Prop where
  title : Text.Recased group.title other.title
  same : other = { group with title := other.title }

theorem Task.Recased.caseless_eq {task other : Task} (hother : task.Recased other) :
    other.caseless = task.caseless := by
  have hentry {text recased : Option String} (hrecased : Option.Rel Text.Recased text recased) :
      recased.map Text.caseless = text.map Text.caseless := by
    cases hrecased with
    | none => rfl
    | some hsome => exact congrArg some hsome.caseless_eq
  rw [hother.same, caseless, caseless]
  simp only [hother.title.caseless_eq, hother.description.caseless_eq,
    hentry hother.emailSubject, hentry hother.emailSender]

theorem Section.Recased.caseless_eq {group other : Section} (hother : group.Recased other) :
    other.caseless = group.caseless := by
  rw [hother.same, caseless, caseless]
  simp only [hother.title.caseless_eq]

/-- **The case of letters does not matter.**  A search text, a task and the titles of the
sections may be spelled with capital or small letters of ASCII in any places: the task
matches in one spelling if it does in the other, and whether it does cannot be said in one
spelling if it cannot in the other. -/
theorem Query.matches_of_recased {text other : String} {task otherTask : Task}
    {sections otherSections : List Section} (htext : Recased text other)
    (htask : task.Recased otherTask)
    (hsections : List.Forall₂ Section.Recased sections otherSections) (now : DateTime) :
    (parse other).matches otherTask otherSections now =
      (parse text).matches task sections now := by
  have htitles : otherSections.map Section.caseless = sections.map Section.caseless := by
    induction hsections with
    | nil => rfl
    | cons hgroup _ ih => rw [List.map_cons, List.map_cons, hgroup.caseless_eq, ih]
  calc (parse other).matches otherTask otherSections now
      = (parse other).caseless.matches otherTask.caseless
          (otherSections.map Section.caseless) now := (matches_caseless ..).symm
    _ = (parse text).caseless.matches task.caseless (sections.map Section.caseless) now := by
        rw [← parse_caseless, ← parse_caseless, htext.caseless_eq, htask.caseless_eq, htitles]
    _ = (parse text).matches task sections now := matches_caseless ..

/-- A text with alternatives, a day named relative to the clock and the title of a section,
spelled in two ways for two spellings of one task. -/
theorem Query.exists_matches_recased :
    ∃ (task otherTask : Task) (group otherGroup : Section) (now : DateTime),
      Recased "milk OR tea due:Tomorrow section:=Küche" "Milk or TEA DUE:tomorrow SECTION:=küChe" ∧
        task.Recased otherTask ∧ List.Forall₂ Section.Recased [group] [otherGroup] ∧
        task ≠ otherTask ∧ group ≠ otherGroup ∧
        (parse "milk OR tea due:Tomorrow section:=Küche").matches task [group] now = .ok true ∧
        (parse "Milk or TEA DUE:tomorrow SECTION:=küChe").matches otherTask [otherGroup] now =
          .ok true := by
  let task : Task := {
    id := "1", title := "Green tea", emailSender := some "Ann"
    dueDate := some (.startOf ⟨2026, 2, 1, by decide⟩), sectionId := some "k" }
  let otherTask : Task := { task with title := "Green TEA", emailSender := some "ANN" }
  let group : Section := { id := "k", title := "KÜche" }
  let otherGroup : Section := { id := "k", title := "kÜCHE" }
  let now : DateTime := .startOf ⟨2026, 1, 31, by decide⟩
  have htext : Recased "milk OR tea due:Tomorrow section:=Küche"
      "Milk or TEA DUE:tomorrow SECTION:=küChe" := by
    decide +kernel
  have htask : task.Recased otherTask :=
    ⟨by decide +kernel, by decide +kernel, .none, .some (by decide +kernel), rfl⟩
  have hgroups : List.Forall₂ Section.Recased [group] [otherGroup] :=
    .cons ⟨by decide +kernel, rfl⟩ .nil
  have hmatches : (parse "milk OR tea due:Tomorrow section:=Küche").matches task [group] now =
      .ok true := by
    decide +kernel
  refine ⟨task, otherTask, group, otherGroup, now, htext, htask, hgroups, by decide, by decide,
    hmatches, ?_⟩
  rw [matches_of_recased htext htask hgroups, hmatches]

end TaskQuery
