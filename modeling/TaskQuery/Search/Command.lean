import TaskQuery.Files.Host
import TaskQuery.Json.Document
import TaskQuery.Log
import TaskQuery.Query.Basic
import TaskQuery.Report
import TaskQuery.Search.Service
import TaskQuery.Text.Basic

/-!
# Commands

The search command runs batches of search texts.  Results go to the log, to a file
of records, or to both; the file is written once, when all batches are done.  The
explain command tells how search texts are understood.
-/

namespace TaskQuery

open Text Files

/-! ## Outputs -/

/-- Where results go. -/
structure Outputs where
  /-- Whether results are shown in the log. -/
  console : Bool
  /-- The folder of the file of records, if there is to be one. -/
  recordFolder : Option Path
deriving DecidableEq

/-- The outputs of the given formats, if any of them is known. -/
def Outputs.ofFormats? (formats : List String) (baseFolder : String) : Option Outputs :=
  let console := formats.contains "console"
  let json := formats.contains "json"
  if !console && !json then none
  else
    some {
      console
      recordFolder := if json then some ((Path.ofText baseFolder).child "json") else none }

/-- What is wrong if no format is known, in words. -/
def Outputs.noneMessage : String :=
  "No output writers configured"

/-- A file that is to be written. -/
structure OutputFile where
  folder : Path
  name : String
  text : String
deriving DecidableEq

/-- The message about a search and the number of its results. -/
def matchesMessage (text : String) (count : Nat) : String :=
  "query=" ++ quoted text ++ " matches=" ++ toString count

/-- The log lines that show the results of a search. -/
def consoleLog (sections : List Section) (text : String) (tasks : List Task) : List LogLine :=
  .info (matchesMessage text tasks.length)
    :: (lines (Report.text sections tasks)).map fun line => .info (String.ofList line)

/-! ## The search command -/

/-- A search command on its way: its service, the records so far and the log so
far. -/
structure SearchCommand where
  service : SearchService
  outputs : Outputs
  now : DateTime
  records : List Json := []
  log : List LogLine := []

namespace SearchCommand

/-- The command with more lines in its log. -/
def say (command : SearchCommand) (entries : List LogLine) : SearchCommand :=
  { command with log := command.log ++ entries }

/-- Hands the results of a search to the outputs. -/
def write (command : SearchCommand) (text : String) (query : Query) (tasks : List Task) :
    SearchCommand :=
  let sections := command.service.snapshot.sections
  let shown := if command.outputs.console then command.say (consoleLog sections text tasks)
    else command
  if command.outputs.recordFolder.isSome then
    { shown with records := shown.records ++ [searchRecord sections text query tasks] }
  else shown

/-- The line in front of a search that is one of several. -/
def batchHeading (index total : Nat) : LogLine :=
  .info ("=== Search " ++ toString index ++ "/" ++ toString total ++ " ===")

/-- Runs search texts, of which the first has the number `index` out of `total`, and
counts their results.  The first search without an answer ends the batch. -/
def runFrom (total index : Nat) (command : SearchCommand) :
    List String → Except MatchFault Nat × SearchCommand
  | [] => (.ok 0, command)
  | text :: texts =>
    let announced := if 1 < total then command.say [batchHeading index total] else command
    let (query, parsed) := announced.service.parse text
    let (result, service) := parsed.search text command.now
    let searched := { announced with service }
    match result with
    | .error fault => (.error fault, searched)
    | .ok tasks =>
      let (others, finished) :=
        runFrom total (index + 1) (searched.write text query tasks) texts
      (others.map (tasks.length + ·), finished)

/-- Runs one batch of search texts and counts their results. -/
def run (command : SearchCommand) (texts : List String) :
    Except MatchFault Nat × SearchCommand :=
  runFrom texts.length 1 command texts

/-- Runs several batches, one after the other, whether they have an answer or
not. -/
def runAll (command : SearchCommand) :
    List (List String) → List (Except MatchFault Nat) × SearchCommand
  | [] => ([], command)
  | texts :: batches =>
    let (total, next) := command.run texts
    let (totals, finished) := next.runAll batches
    (total :: totals, finished)

/-- The file of all records so far, named for an action and a time. -/
def recordFile (command : SearchCommand) (action stamp : String) : Option OutputFile :=
  command.outputs.recordFolder.map fun folder => {
    folder
    name := action ++ "_" ++ stamp ++ ".json"
    text := (Json.array command.records).toText }

/-- The log line about a file of records. -/
def savedLine (file : OutputFile) : LogLine :=
  .info ("JSON saved to " ++ (file.folder.child file.name).toText)

/-- Ends the command: the file to write, and the log with a line about it. -/
def finish (command : SearchCommand) (action stamp : String) :
    Option OutputFile × List LogLine :=
  match command.recordFile action stamp with
  | none => (none, command.log)
  | some file => (some file, command.log ++ [savedLine file])

end SearchCommand

/-! ## The explain command -/

/-- The log lines that explain one search text. -/
def explainText (text : String) : List LogLine :=
  .info ("query=" ++ quoted text)
    :: (lines (Query.parse text).explain.toList).map fun line => .info ("  " ++ String.ofList line)

/-- The log lines that explain search texts. -/
def explainTexts (texts : List String) : List LogLine :=
  texts.flatMap explainText

end TaskQuery
