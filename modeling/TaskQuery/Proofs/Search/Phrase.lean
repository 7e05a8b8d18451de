import TaskQuery.Proofs.Match.Containment
import TaskQuery.Proofs.Query.Writable
import TaskQuery.Proofs.Search.Algebra

/-!
# Searching for a phrase

A search for a text between quotes finds the tasks that contain it, no matter what the text
looks like (`SearchService.results_phrase`).  Nothing between the quotes is understood as a
keyword, a filter or a mark, and no blank is lost: the phrase is a token that stands alone, and
its query is one term (`Query.parse_phrase`).
-/

namespace TaskQuery

open Text

/-- A text between quotes is read as one phrase, whatever stands in it. -/
theorem Query.parse_phrase {phrase : String} (hphrase : '"' ∉ phrase.toList) :
    Query.parse ("\"" ++ phrase ++ "\"") =
      { terms := [{ text := phrase, exactPhrase := true }] } := by
  have halone : (Token.phrase phrase.toList true).StandsAlone := ⟨hphrase, id⟩
  have htext : "\"" ++ phrase ++ "\"" =
      String.ofList (Token.phrase phrase.toList true).lexeme := by
    refine String.toList_injective ?_
    simp only [String.toList_append, String.toList_ofList]
    rfl
  calc Query.parse ("\"" ++ phrase ++ "\"")
      = ofTokens .and (tokens ("\"" ++ phrase ++ "\"")) := parse_eq_ofTokens _
    _ = ofTokens .and [.phrase phrase.toList true] := by rw [htext, tokens_lexeme halone]
    _ = { terms := [{ text := phrase, exactPhrase := true }] } := by
        rw [ofTokens, String.ofList_toList]
        rfl

namespace SearchService

variable {service : SearchService}

/-- A service that looks at completed tasks too keeps every task. -/
theorem select_of_includeCompleted (hall : service.includeCompleted = true) (holds : Task → Bool)
    (tasks : List Task) : service.select holds tasks = tasks.filter holds := by
  unfold select keeps
  simp only [hall, Bool.true_or, Bool.true_and]

/-- **A phrase finds what contains it.**  Between quotes any text without a quote finds exactly
the tasks that have its folded form in one of their folded texts.  A task is among them
whenever the text is a part of its title, its description, the subject or sender of its email
or the title of its section, as it was written. -/
theorem results_phrase (hlimit : service.limit = -1) (hall : service.includeCompleted = true)
    {last : Option String} (hlast : service.Remembers last) {phrase : String}
    (hphrase : '"' ∉ phrase.toList) (now : DateTime) :
    ∃ found, service.results ("\"" ++ phrase ++ "\"") now = .ok found ∧
      found = service.snapshot.tasks.filter (fun task =>
        ∃ entry ∈ task.searchText service.snapshot.sections, folded phrase <:+: entry) ∧
      ∀ task ∈ service.snapshot.tasks,
        (∃ text ∈ task.writtenTexts service.snapshot.sections, phrase.toList <:+: text.toList) →
          task ∈ found := by
  let term : Term := { text := phrase, exactPhrase := true }
  have hjudges : service.Judges now (Query.parse ("\"" ++ phrase ++ "\""))
      fun task => term.hits (task.searchText service.snapshot.sections) := by
    intro task _ _
    rw [Query.parse_phrase hphrase]
    exact Query.matches_singleton rfl
  have hholds (task : Task) : term.hits (task.searchText service.snapshot.sections) =
      decide (∃ entry ∈ task.searchText service.snapshot.sections, folded phrase <:+: entry) := by
    rw [Bool.eq_iff_iff, decide_eq_true_iff]
    exact Term.hits_anywhere_iff rfl
  refine ⟨_, (results_eq_ok_iff hlimit hlast).mpr ⟨_, ?_, hjudges⟩, rfl, ?_⟩
  · rw [select_of_includeCompleted hall]
    exact List.filter_congr fun task _ => (hholds task).symm
  · rintro task htask ⟨text, htext, hpart⟩
    refine List.mem_filter.mpr ⟨htask, decide_eq_true ?_⟩
    exact ⟨folded text, Task.folded_mem_searchText htext, infix_folded hpart⟩

/-- Blanks at both ends, a keyword, a filter, dashes and a star, none of which is understood as
such; and a letter that is folded into two. -/
theorem exists_results_phrase :
    ∃ (service : SearchService) (now : DateTime) (first second : Task) (found : List Task),
      service.limit = -1 ∧ service.includeCompleted = true ∧ service.Remembers none ∧
        '"' ∉ " OR  -due:STRASSE* ".toList ∧
        service.results "\" OR  -due:STRASSE* \"" now = .ok found ∧ found = [first, second] ∧
        first.emailSubject = some "Re: or  -due:Straße* ?" ∧ second.completed = true ∧
        " OR  -due:STRASSE* ".toList <:+: second.description.toList ∧ second ∈ found := by
  let first : Task := { id := "1", title := "Reply", emailSubject := some "Re: or  -due:Straße* ?" }
  let second : Task := {
    id := "3", title := "Note", description := "x OR  -due:STRASSE* y", completed := true }
  let service : SearchService :=
    { snapshot := { tasks := [first, { id := "2", title := "OR -due:strasse" }, second] } }
  let now : DateTime := .startOf ⟨2026, 1, 31, by decide⟩
  have hlimit : service.limit = -1 := rfl
  have hlast : service.Remembers none := rfl
  have hquote : '"' ∉ " OR  -due:STRASSE* ".toList := by decide
  have hpart : " OR  -due:STRASSE* ".toList <:+: second.description.toList :=
    ⟨['x'], ['y'], by decide⟩
  obtain ⟨found, hfound, htasks, hmem⟩ := results_phrase hlimit rfl hlast hquote now
  have hboth : found = [first, second] := htasks.trans (by decide +kernel)
  have hsecond : second ∈ found :=
    hmem second (by decide +kernel) ⟨second.description, by decide +kernel, hpart⟩
  exact ⟨service, now, first, second, found, hlimit, rfl, hlast, hquote, hfound, hboth, rfl, rfl,
    hpart, hsecond⟩

end SearchService

end TaskQuery
