import TaskQuery.Match
import TaskQuery.Query.Parser
import TaskQuery.Settings.Reader
import TaskQuery.Snapshot.Reader

/-!
# Searching a snapshot

A service answers searches over one snapshot.  It remembers the text and the query
of its last parse, so that an unchanged text is not parsed again.
-/

namespace TaskQuery

/-- What a service searches, and how. -/
structure SearchService where
  snapshot : Snapshot
  includeCompleted : Bool := true
  /-- The greatest number of results; -1 stands for no limit. -/
  limit : Int := -1
  /-- The last text that was parsed, and its query. -/
  cached : Option (String × Query) := none

namespace SearchService

/-- A service with the given settings that has parsed nothing yet. -/
def ofSettings (settings : SearchSettings) (snapshot : Snapshot) : SearchService where
  snapshot := snapshot
  includeCompleted := settings.includeCompleted
  limit := settings.limit

/-- The query of a text, and the service that remembers it. -/
def parse (service : SearchService) (text : String) : Query × SearchService :=
  match service.cached with
  | some (last, query) =>
    if last = text then (query, service)
    else
      let query := Query.parse text
      (query, { service with cached := some (text, query) })
  | none =>
    let query := Query.parse text
    (query, { service with cached := some (text, query) })

/-- Whether so many results are enough. -/
def isEnough (service : SearchService) (count : Nat) : Bool :=
  service.limit != -1 && decide (service.limit ≤ count)

/-- The tasks of a list that match a query, in order, where `found` results came
before them.  Nothing is looked at after the last result that the limit allows. -/
def collect (service : SearchService) (query : Query) (now : DateTime) (found : Nat) :
    List Task → Except MatchFault (List Task)
  | [] => .ok []
  | task :: tasks =>
    if !service.includeCompleted && task.completed then collect service query now found tasks
    else do
      if ← query.matches task service.snapshot.sections now then
        if service.isEnough (found + 1) then pure [task]
        else
          let others ← collect service query now (found + 1) tasks
          pure (task :: others)
      else collect service query now found tasks

/-- The tasks that a search text finds at the moment `now`, and the service that
remembers the text. -/
def search (service : SearchService) (text : String) (now : DateTime) :
    Except MatchFault (List Task) × SearchService :=
  let (query, service) := service.parse text
  (service.collect query now 0 service.snapshot.tasks, service)

/-- The title of the section of a task. -/
def sectionTitle (service : SearchService) (task : Task) : Option String :=
  task.sectionTitle service.snapshot.sections

end SearchService

end TaskQuery
