import TaskQuery.Search.Service

/-!
# The memory of a service does not show

A service remembers the text and the query of its last parse.  This file makes any
sequence of calls on one service and compares it with a service that is built anew for
every call.

## Strategy

The invariant is `SearchService.Remembers`: the memory is empty, or it is the last text
that was parsed together with the query of this very text.  It holds of a new service.
Under it a parse gives the query of its text whether it is remembered or not
(`Remembers.parse_eq`), so one call answers as on a new service and leaves the invariant
for its own text (`Remembers.step_eq`).  A run is then an induction on the calls.  That a
search may end without an answer plays no part, since the memory is written before any
task is looked at.
-/

namespace TaskQuery.SearchService

/-! ## Calls -/

/-- A call of a service. -/
inductive Call where
  | parse (text : String)
  | search (text : String) (now : DateTime)
  | sectionTitle (task : Task)
deriving DecidableEq

/-- The text that a call has parsed. -/
def Call.text? : Call → Option String
  | parse text => some text
  | search text _ => some text
  | sectionTitle _ => none

/-- What a call returns; a search may return a fault. -/
inductive Answer where
  | query (query : Query)
  | tasks (found : Except MatchFault (List Task))
  | title (title : Option String)

/-- Makes one call: its answer, and the service after it. -/
def step (service : SearchService) : Call → Answer × SearchService
  | .parse text =>
    let (query, after) := service.parse text
    (.query query, after)
  | .search text now =>
    let (found, after) := service.search text now
    (.tasks found, after)
  | .sectionTitle task => (.title (service.sectionTitle task), service)

/-- Makes calls one after the other: their answers, and the service after the last. -/
def run (service : SearchService) : List Call → List Answer × SearchService
  | [] => ([], service)
  | call :: calls =>
    let (answer, after) := service.step call
    let (answers, final) := after.run calls
    (answer :: answers, final)

/-- The text of the last call that has one parsed. -/
def lastText (calls : List Call) : Option String :=
  calls.reverse.findSome? Call.text?

theorem lastText_cons (call : Call) (calls : List Call) :
    lastText (call :: calls) = (lastText calls).or call.text? := by
  rw [lastText, List.reverse_cons, List.findSome?_append]
  cases h : call.text? <;> simp [lastText, h]

/-- The last text is that of a call behind which no call has a text parsed. -/
theorem lastText_eq_some_iff {calls : List Call} {text : String} :
    lastText calls = some text ↔ ∃ before call after, calls = before ++ call :: after ∧
      call.text? = some text ∧ ∀ later ∈ after, later.text? = none := by
  rw [lastText, List.findSome?_eq_some_iff]
  constructor
  · rintro ⟨after, call, before, hsplit, hcall, hafter⟩
    refine ⟨before.reverse, call, after.reverse, ?_, hcall, ?_⟩
    · rw [← List.reverse_reverse calls, hsplit]
      simp
    · simpa using hafter
  · rintro ⟨before, call, after, rfl, hcall, hafter⟩
    exact ⟨after.reverse, call, before.reverse, by simp, hcall, by simpa using hafter⟩

theorem lastText_eq_none_iff {calls : List Call} :
    lastText calls = none ↔ ∀ call ∈ calls, call.text? = none := by
  rw [lastText, List.findSome?_eq_none_iff]
  simp

/-! ## What is remembered -/

/-- The service with this memory instead of its own. -/
def remembering (service : SearchService) (last : Option String) : SearchService :=
  { service with cached := last.map fun text => (text, Query.parse text) }

/-- The memory of a service is the given text with its query; without a text it is
empty. -/
def Remembers (service : SearchService) (last : Option String) : Prop :=
  service.remembering last = service

variable {service : SearchService} {last : Option String}

theorem remembers_remembering (service : SearchService) (last : Option String) :
    (service.remembering last).Remembers last :=
  rfl

/-- A parse returns the query of its text and leaves it in the memory. -/
theorem Remembers.parse_eq (hlast : service.Remembers last) (text : String) :
    service.parse text = (Query.parse text, service.remembering (some text)) := by
  rw [← hlast]
  cases last with
  | none => rfl
  | some remembered =>
      by_cases hsame : remembered = text
      · subst hsame
        exact if_pos rfl
      · exact if_neg hsame

/-- A search looks at its tasks with the query of its text. -/
theorem Remembers.search_eq (hlast : service.Remembers last) (text : String) (now : DateTime) :
    service.search text now =
      ((service.remembering (some text)).collect (Query.parse text) now 0 service.snapshot.tasks,
        service.remembering (some text)) := by
  unfold search
  rw [hlast.parse_eq]
  rfl

/-! ## One call -/

/-- A call answers as if nothing were remembered, and then its text is remembered, or what
was remembered before if it has none. -/
theorem Remembers.step_eq (hlast : service.Remembers last) (call : Call) :
    service.step call =
      (((service.remembering none).step call).1, service.remembering (call.text?.or last)) := by
  have hnew := remembers_remembering service none
  cases call with
  | parse text =>
      unfold step
      simp only [hlast.parse_eq, hnew.parse_eq]
      rfl
  | search text now =>
      unfold step
      simp only [hlast.search_eq, hnew.search_eq]
      rfl
  | sectionTitle task =>
      show (Answer.title (service.sectionTitle task), service) = _
      exact congrArg (Prod.mk _) hlast.symm

/-! ## A run -/

theorem Remembers.run_eq (hlast : service.Remembers last) (calls : List Call) :
    service.run calls =
      (calls.map fun call => ((service.remembering none).step call).1,
        service.remembering ((lastText calls).or last)) := by
  induction calls generalizing service last with
  | nil => exact congrArg (Prod.mk []) hlast.symm
  | cons call calls ih =>
      have hnext := remembers_remembering service (call.text?.or last)
      unfold run
      simp only [hlast.step_eq, ih hnext, lastText_cons, Option.or_assoc]
      rfl

/-- **The memory of a service does not show.**  Every call of a run is answered as by a
service that is built anew over the same snapshot with the same settings.  After the run
the settings are what they were, and the memory is empty if no call had a text parsed, and
otherwise the text of the last such call with its query, whether that call found tasks or
not. -/
theorem run_memory (snapshot : Snapshot) (includeCompleted : Bool) (limit : Int)
    (calls : List Call) :
    let new : SearchService := { snapshot, includeCompleted, limit }
    (new.run calls).1 = calls.map (fun call => (new.step call).1) ∧
      (((new.run calls).2.cached = none ∧ ∀ call ∈ calls, call.text? = none) ∨
        ∃ before call after text, calls = before ++ call :: after ∧ call.text? = some text ∧
          (∀ later ∈ after, later.text? = none) ∧
          (new.run calls).2.cached = some (text, Query.parse text)) ∧
      (new.run calls).2.snapshot = snapshot ∧
      (new.run calls).2.includeCompleted = includeCompleted ∧
      (new.run calls).2.limit = limit := by
  intro new
  have hnew : new.Remembers none := rfl
  rw [hnew.run_eq, Option.or_none]
  refine ⟨rfl, ?_, rfl, rfl, rfl⟩
  cases hlast : lastText calls with
  | none => exact Or.inl ⟨rfl, lastText_eq_none_iff.mp hlast⟩
  | some text =>
      obtain ⟨before, call, after, hcalls, hcall, hafter⟩ := lastText_eq_some_iff.mp hlast
      exact Or.inr ⟨before, call, after, text, hcalls, hcall, hafter, rfl⟩

end TaskQuery.SearchService
