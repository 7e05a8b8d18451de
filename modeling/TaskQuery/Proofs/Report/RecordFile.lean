import TaskQuery.Proofs.Json.FileText
import TaskQuery.Search.Command

/-!
# The file of records decodes to the results

The search command collects a record of every search whose results it hands to its outputs,
and writes all records to one file at the end.  This file shows that the text of that file is
read as the list of exactly these records (`SearchCommand.read_recordFile`), whatever was
searched and found: nothing is assumed of the texts, the queries, the tasks and their amounts.

It takes two steps.  Records are documents that can be read, since they have no whole numbers
and their keys are distinct (`faithful_searchRecord`).  And every hand-over adds its record
behind those before it and leaves the outputs as they are
(`SearchCommand.writeResults_spec`), so that the file holds one record for each of them, in
order.
-/

namespace TaskQuery

open Json Files Text

/-! ## Records can be read -/

theorem Json.faithful_ofText? (text : Option String) : Faithful (.ofText? text) := by
  cases text with
  | none => exact .null
  | some value => exact .string value

theorem Task.faithful_record (sections : List Section) (task : Task) :
    Faithful (task.record sections) := by
  have hamount : Faithful ((task.amount.map Json.float).getD .null) := by
    cases task.amount with
    | none => exact .null
    | some amount => exact .float amount
  refine .object (by simp) ?_
  simp only [List.forall_mem_cons]
  exact ⟨.string _, .string _, .string _, faithful_ofText? _, faithful_ofText? _, hamount,
    .string _, .bool _, faithful_ofText? _, faithful_ofText? _, faithful_ofText? _,
    List.forall_mem_nil _⟩

theorem Term.faithful_record (term : Term) : Faithful term.record := by
  refine .object (by simp) ?_
  simp only [List.forall_mem_cons]
  exact ⟨.string _, .string _, .bool _, .bool _, List.forall_mem_nil _⟩

theorem FieldFilter.faithful_record (filter : FieldFilter) : Faithful filter.record := by
  refine .object (by simp) ?_
  simp only [List.forall_mem_cons]
  exact ⟨.string _, .string _, .string _, List.forall_mem_nil _⟩

theorem Json.faithful_array_map {α : Type} {record : α → Json}
    (hrecord : ∀ value, Faithful (record value)) (values : List α) :
    Faithful (.array (values.map record)) :=
  .array (List.forall_mem_map.mpr fun value _ => hrecord value)

theorem Query.faithful_record (query : Query) : Faithful query.record := by
  refine .object (by simp) ?_
  simp only [List.forall_mem_cons]
  exact ⟨faithful_array_map Term.faithful_record _,
    faithful_array_map FieldFilter.faithful_record _, List.forall_mem_nil _⟩

theorem faithful_searchRecord (sections : List Section) (text : String) (query : Query)
    (tasks : List Task) : Faithful (searchRecord sections text query tasks) := by
  refine .object (by simp) ?_
  simp only [List.forall_mem_cons]
  exact ⟨.string _, query.faithful_record,
    faithful_array_map (Task.faithful_record sections) _, List.forall_mem_nil _⟩

/-! ## Records are collected -/

/-- What is handed to the outputs after a search: the text, the query, the tasks that were
found, and the sections to name them by. -/
structure SearchResults where
  sections : List Section
  text : String
  query : Query
  tasks : List Task

/-- The record of what is handed to the outputs. -/
def SearchResults.record (results : SearchResults) : Json :=
  searchRecord results.sections results.text results.query results.tasks

namespace SearchCommand

/-- Hands the results of a search in some sections to the outputs. -/
def writeResults (command : SearchCommand) (results : SearchResults) : SearchCommand :=
  { command with service.snapshot.sections := results.sections }.write
    results.text results.query results.tasks

/-- Hands the results of several searches to the outputs, one after the other. -/
def writeAll (command : SearchCommand) : List SearchResults → SearchCommand
  | [] => command
  | results :: more => (command.writeResults results).writeAll more

variable {command : SearchCommand} {folder : Path}

theorem writeResults_spec (hfolder : command.outputs.recordFolder = some folder)
    (results : SearchResults) :
    (command.writeResults results).outputs = command.outputs ∧
      (command.writeResults results).records = command.records ++ [results.record] := by
  unfold writeResults write
  dsimp only
  rw [hfolder, Option.isSome_some, if_pos rfl]
  split_ifs <;> exact ⟨rfl, rfl⟩

theorem writeAll_spec (hfolder : command.outputs.recordFolder = some folder)
    (all : List SearchResults) :
    (command.writeAll all).outputs = command.outputs ∧
      (command.writeAll all).records = command.records ++ all.map SearchResults.record := by
  induction all generalizing command with
  | nil => exact ⟨rfl, (List.append_nil _).symm⟩
  | cons results more ih =>
      obtain ⟨houtputs, hrecords⟩ := writeResults_spec hfolder results
      obtain ⟨hlater, hmore⟩ := ih (houtputs ▸ hfolder)
      refine ⟨hlater.trans houtputs, hmore.trans ?_⟩
      rw [hrecords, List.append_assoc]
      rfl

/-- The text of the file of records is that of the list of the records. -/
theorem recordFile_writeAll (hfolder : command.outputs.recordFolder = some folder)
    (all : List SearchResults) (action stamp : String) :
    (command.writeAll all).recordFile action stamp = some {
      folder
      name := action ++ "_" ++ stamp ++ ".json"
      text := (Json.array (command.records ++ all.map SearchResults.record)).toText } := by
  obtain ⟨houtputs, hrecords⟩ := writeAll_spec hfolder all
  rw [recordFile, houtputs, hfolder, hrecords]
  rfl

/-- The file of records decodes to the results: whatever is handed to the outputs, there is a
file, reading it from the disk does not change its text, and the text is read as the list of
the records, in order. -/
theorem read_recordFile (service : SearchService) (console : Bool) (folder : Path)
    (now : DateTime) (log : List LogLine) (all : List SearchResults) (action stamp : String) :
    ∃ file : OutputFile,
      (writeAll { service, outputs := { console, recordFolder := some folder }, now, log }
        all).recordFile action stamp = some file ∧
      unifyLineEnds file.text.toList = file.text.toList ∧
      Json.read file.text.toList = .ok (.array (all.map SearchResults.record)) := by
  have hfaithful : Faithful (.array (all.map SearchResults.record)) :=
    faithful_array_map (fun results => faithful_searchRecord _ _ _ _) all
  exact ⟨_, recordFile_writeAll rfl all action stamp, unifyLineEnds_toText hfaithful,
    read_toText hfaithful⟩

end SearchCommand

end TaskQuery
