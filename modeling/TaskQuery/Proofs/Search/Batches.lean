import Mathlib.Algebra.GroupWithZero.Nat
import TaskQuery.Proofs.Search.Algebra
import TaskQuery.Search.Command

/-!
# Batches of searches

A search command goes through its batches with one service, one list of records and one
log, all of which it carries from text to text.  This file says what comes out of that text
by text (`SearchCommand.runAll_finish`): a batch counts for its texts in front of the first
that has no answer, each text is answered as by a service that has parsed nothing yet, and
what a batch adds to the records and to the log depends on this batch alone.

## Strategy

Everything that a batch adds is written down from the answers to its texts, without a
command (`Batch`).  A command changes in three places only, its service's memory, the end of
its records and the end of its log (`SearchCommand.extend`), and none of them bears on the
answers.  `runFrom_cons` says what one text does and `extend_write` what becomes of its
results; a batch (`runFrom_eq`) is then an induction on its texts and a list of batches
(`runAll_eq`) one on the batches.
-/

namespace TaskQuery

open Text Files

/-! ## What a batch adds -/

namespace Batch

variable (answer : String → Except MatchFault (List Task))

/-- The fault of a text that has no answer. -/
def fault? (text : String) : Option MatchFault :=
  match answer text with
  | .ok _ => none
  | .error fault => some fault

/-- The tasks that a text with an answer finds. -/
def found (text : String) : List Task :=
  (answer text).toOption.getD []

/-- The texts in front of the first that has no answer. -/
def kept (texts : List String) : List String :=
  texts.takeWhile fun text => (fault? answer text).isNone

/-- The number of all results, or the first fault if there is one. -/
def total (texts : List String) : Except MatchFault ℕ :=
  match texts.findSome? (fault? answer) with
  | some fault => .error fault
  | none => .ok ((kept answer texts).map fun text => (found answer text).length).sum

/-- The record of a text: the text, its query and the tasks that it finds. -/
def record (sections : List Section) (text : String) : Json :=
  .object [
    ("query", .string text),
    ("parsed", (Query.parse text).record),
    ("tasks", .array ((found answer text).map (Task.record sections)))]

/-- The records of a batch. -/
def records (sections : List Section) (texts : List String) : List Json :=
  (kept answer texts).map (record answer sections)

/-- The line in front of a text that is one of several. -/
def heading (count index : ℕ) : List LogLine :=
  if 1 < count then [.info ("=== Search " ++ toString index ++ "/" ++ toString count ++ " ===")]
  else []

/-- The lines about the answer to a text: how many tasks it finds, and these tasks. -/
def answerLog (console : Bool) (sections : List Section) (text : String) : List LogLine :=
  if console && (fault? answer text).isNone then
    .info ("query=" ++ quoted text ++ " matches=" ++ toString (found answer text).length)
      :: (lines (Report.text sections (found answer text))).map (.info <| String.ofList ·)
  else []

/-- The lines about the texts from the one with the number `index` on, up to and including
the first without an answer, where the batch has `count` texts. -/
def logFrom (console : Bool) (sections : List Section) (count index : ℕ) (texts : List String) :
    List LogLine :=
  ((texts.take ((kept answer texts).length + 1)).zipIdx index).flatMap fun (text, number) =>
    heading count number ++ answerLog answer console sections text

/-- The lines about a batch. -/
def log (console : Bool) (sections : List Section) (texts : List String) : List LogLine :=
  logFrom answer console sections texts.length 1 texts

/-! ### One text after the other -/

section Cons

variable {answer} {text : String}

theorem fault?_of_fault {fault : MatchFault} (hfault : answer text = .error fault) :
    fault? answer text = some fault := by
  rw [fault?, hfault]

theorem fault?_of_answer {tasks : List Task} (hanswer : answer text = .ok tasks) :
    fault? answer text = none := by
  rw [fault?, hanswer]

theorem found_of_answer {tasks : List Task} (hanswer : answer text = .ok tasks) :
    found answer text = tasks := by
  rw [found, hanswer]
  rfl

@[simp]
theorem kept_nil : kept answer [] = [] :=
  rfl

theorem kept_cons_of_fault {fault : MatchFault} (hfault : answer text = .error fault)
    (texts : List String) : kept answer (text :: texts) = [] :=
  List.takeWhile_cons_of_neg (by simp [fault?_of_fault hfault])

theorem kept_cons_of_answer {tasks : List Task} (hanswer : answer text = .ok tasks)
    (texts : List String) : kept answer (text :: texts) = text :: kept answer texts :=
  List.takeWhile_cons_of_pos (by simp [fault?_of_answer hanswer])

theorem total_cons_of_fault {fault : MatchFault} (hfault : answer text = .error fault)
    (texts : List String) : total answer (text :: texts) = .error fault := by
  rw [total, List.findSome?_cons, fault?_of_fault hfault]

theorem total_cons_of_answer {tasks : List Task} (hanswer : answer text = .ok tasks)
    (texts : List String) :
    total answer (text :: texts) = (total answer texts).map (tasks.length + ·) := by
  rw [total, total, List.findSome?_cons, fault?_of_answer hanswer]
  cases texts.findSome? (fault? answer) with
  | some fault => rfl
  | none =>
      rw [kept_cons_of_answer hanswer, List.map_cons, List.sum_cons, found_of_answer hanswer]
      rfl

theorem logFrom_cons_of_fault {fault : MatchFault} (hfault : answer text = .error fault)
    (console : Bool) (sections : List Section) (count index : ℕ) (texts : List String) :
    logFrom answer console sections count index (text :: texts) = heading count index := by
  have hnone : answerLog answer console sections text = [] := by
    simp [answerLog, fault?_of_fault hfault]
  simp [logFrom, kept_cons_of_fault hfault, hnone]

theorem logFrom_cons_of_answer {tasks : List Task} (hanswer : answer text = .ok tasks)
    (console : Bool) (sections : List Section) (count index : ℕ) (texts : List String) :
    logFrom answer console sections count index (text :: texts) =
      heading count index ++ answerLog answer console sections text ++
        logFrom answer console sections count (index + 1) texts := by
  simp [logFrom, kept_cons_of_answer hanswer]

end Cons

end Batch

/-! ## What a command does -/

/-- The tasks that a text finds, or why it finds none, where nothing has been parsed yet. -/
def SearchService.answer (service : SearchService) (now : DateTime) (text : String) :
    Except MatchFault (List Task) :=
  (service.remembering none).results text now

/-- A text that has just been parsed is answered as one that has not. -/
theorem SearchService.search_remembering (service : SearchService) (text : String)
    (now : DateTime) :
    (service.remembering (some text)).search text now =
      (service.answer now text, service.remembering (some text)) := by
  have hparsed := remembers_remembering service (some text)
  have hnew := remembers_remembering service none
  rw [answer, results, hparsed.search_eq, hnew.search_eq]
  rfl

namespace SearchCommand

/-- What the service of a command answers to a text. -/
def answer (command : SearchCommand) (text : String) : Except MatchFault (List Task) :=
  command.service.answer command.now text

/-- The sections of the snapshot that is searched. -/
def sections (command : SearchCommand) : List Section :=
  command.service.snapshot.sections

/-- The command with another text remembered, and more records and lines at the end. -/
def extend (command : SearchCommand) (last : Option String) (records : List Json)
    (log : List LogLine) : SearchCommand :=
  { command with
    service := command.service.remembering last
    records := command.records ++ records
    log := command.log ++ log }

/-- What a batch adds to the records, if they are asked for. -/
def newRecords (command : SearchCommand) (texts : List String) : List Json :=
  if command.outputs.recordFolder.isSome then
    Batch.records command.answer command.sections texts
  else []

/-- What texts of a batch add to the log. -/
def newLog (command : SearchCommand) (count index : ℕ) (texts : List String) : List LogLine :=
  Batch.logFrom command.answer command.outputs.console command.sections count index texts

variable {command : SearchCommand} {last : Option String}

theorem remembers_extend (command : SearchCommand) (last : Option String) (records : List Json)
    (log : List LogLine) : (command.extend last records log).service.Remembers last :=
  rfl

theorem outputs_extend (command : SearchCommand) (last : Option String) (records : List Json)
    (log : List LogLine) : (command.extend last records log).outputs = command.outputs :=
  rfl

theorem extend_nothing (hlast : command.service.Remembers last) :
    command.extend last [] [] = command := by
  simp only [extend, List.append_nil]
  rw [hlast]

theorem extend_extend (command : SearchCommand) (first second : Option String)
    (records moreRecords : List Json) (log moreLog : List LogLine) :
    (command.extend first records log).extend second moreRecords moreLog =
      command.extend second (records ++ moreRecords) (log ++ moreLog) := by
  simp only [extend, List.append_assoc]
  rfl

theorem newRecords_nil : command.newRecords [] = [] :=
  ite_self _

theorem newRecords_cons_of_fault {text : String} {fault : MatchFault}
    (hfault : command.answer text = .error fault) (texts : List String) :
    command.newRecords (text :: texts) = [] := by
  rw [newRecords, Batch.records, Batch.kept_cons_of_fault hfault]
  exact ite_self _

theorem newRecords_cons_of_answer {text : String} {tasks : List Task}
    (hanswer : command.answer text = .ok tasks) (texts : List String) :
    command.newRecords (text :: texts) =
      command.newRecords [text] ++ command.newRecords texts := by
  unfold newRecords
  split
  · simp [Batch.records, Batch.kept_cons_of_answer hanswer]
  · rfl

theorem write_eq (command : SearchCommand) (text : String) (query : Query) (tasks : List Task) :
    command.write text query tasks =
      { command with
        records := command.records ++
          if command.outputs.recordFolder.isSome then
            [searchRecord command.sections text query tasks]
          else []
        log := command.log ++
          if command.outputs.console then consoleLog command.sections text tasks else [] } := by
  unfold write
  cases command.outputs.console <;> cases command.outputs.recordFolder.isSome <;>
    simp [say, sections]

/-- The results of a text become its record and its lines. -/
theorem extend_write {text : String} {tasks : List Task}
    (hanswer : command.answer text = .ok tasks) (log : List LogLine) :
    (command.extend last [] log).write text (Query.parse text) tasks =
      command.extend last (command.newRecords [text])
        (log ++ Batch.answerLog command.answer command.outputs.console command.sections text) := by
  have hfound : Batch.found command.answer text = tasks := Batch.found_of_answer hanswer
  have hrecords : command.newRecords [text] =
      if command.outputs.recordFolder.isSome then
        [searchRecord command.sections text (Query.parse text) tasks]
      else [] := by
    simp [newRecords, Batch.records, Batch.kept_cons_of_answer hanswer, Batch.record, hfound,
      searchRecord]
  have hlines : Batch.answerLog command.answer command.outputs.console command.sections text =
      if command.outputs.console then consoleLog command.sections text tasks else [] := by
    simp [Batch.answerLog, Batch.fault?_of_answer hanswer, hfound, consoleLog, matchesMessage]
  rw [write_eq, hrecords, hlines]
  simp only [extend, List.append_nil, List.append_assoc]
  rfl

theorem announced_eq (command : SearchCommand) (count index : ℕ) :
    (if 1 < count then command.say [batchHeading index count] else command) =
      { command with log := command.log ++ Batch.heading count index } := by
  unfold Batch.heading
  split
  · rfl
  · rw [List.append_nil]

/-- What a command does with a text: the heading, the search, and if the search has an
answer, the outputs and the other texts. -/
theorem runFrom_cons (hlast : command.service.Remembers last) (count index : ℕ) (text : String)
    (texts : List String) :
    command.runFrom count index (text :: texts) =
      match command.answer text with
      | .error fault =>
        (.error fault, command.extend (some text) [] (Batch.heading count index))
      | .ok tasks =>
        let next := (command.extend (some text) [] (Batch.heading count index)).write text
          (Query.parse text) tasks
        let (others, finished) := next.runFrom count (index + 1) texts
        (others.map (tasks.length + ·), finished) := by
  rw [runFrom, announced_eq]
  dsimp only
  rw [hlast.parse_eq]
  dsimp only
  rw [SearchService.search_remembering, ← answer]
  -- both sides now branch on the same answer
  cases command.answer text with
  | error fault => simp only [extend, List.append_nil]
  | ok tasks => simp only [extend, List.append_nil]

/-- From the text with the number `index` on, a batch counts, records and logs what its
answers say. -/
theorem runFrom_eq (hlast : command.service.Remembers last) (count index : ℕ)
    (texts : List String) :
    ∃ after, command.runFrom count index texts =
      (Batch.total command.answer texts,
        command.extend after (command.newRecords texts) (command.newLog count index texts)) := by
  induction texts generalizing command last index with
  | nil =>
      refine ⟨last, ?_⟩
      rw [newRecords_nil]
      exact congrArg (Prod.mk _) (extend_nothing hlast).symm
  | cons text texts ih =>
      rw [runFrom_cons hlast]
      cases hanswer : command.answer text with
      | error fault =>
          -- the batch ends here, and only the heading of this text is left in the log
          have hlog : command.newLog count index (text :: texts) = Batch.heading count index :=
            Batch.logFrom_cons_of_fault hanswer ..
          refine ⟨some text, ?_⟩
          rw [Batch.total_cons_of_fault hanswer, newRecords_cons_of_fault hanswer, hlog]
      | ok tasks =>
          let entries := Batch.heading count index ++
            Batch.answerLog command.answer command.outputs.console command.sections text
          have hlog : command.newLog count index (text :: texts) =
              entries ++ command.newLog count (index + 1) texts :=
            Batch.logFrom_cons_of_answer hanswer ..
          -- what was written does not bear on the answers to the other texts
          have hnext := command.remembers_extend (some text) (command.newRecords [text]) entries
          obtain ⟨after, hothers⟩ := ih hnext (index + 1)
          refine ⟨after, ?_⟩
          rw [Batch.total_cons_of_answer hanswer, newRecords_cons_of_answer hanswer, hlog,
            ← extend_extend _ (some text)]
          dsimp only
          rw [extend_write hanswer, hothers]
          rfl

/-- Batch after batch, a command counts, records and logs what its answers say. -/
theorem runAll_eq (hlast : command.service.Remembers last) (batches : List (List String)) :
    ∃ after, command.runAll batches =
      (batches.map (Batch.total command.answer),
        command.extend after (batches.flatMap command.newRecords)
          (batches.flatMap fun texts => command.newLog texts.length 1 texts)) := by
  induction batches generalizing command last with
  | nil => exact ⟨last, congrArg (Prod.mk _) (extend_nothing hlast).symm⟩
  | cons texts batches ih =>
      obtain ⟨between, hbatch⟩ := runFrom_eq hlast texts.length 1 texts
      have hnext := command.remembers_extend between (command.newRecords texts)
        (command.newLog texts.length 1 texts)
      obtain ⟨after, hothers⟩ := ih hnext
      refine ⟨after, ?_⟩
      rw [runAll, run, hbatch]
      dsimp only
      rw [hothers, extend_extend]
      rfl

/-! ## Whole runs -/

theorem exists_outputs {formats : List String}
    (hformats : "console" ∈ formats ∨ "json" ∈ formats) (baseFolder : String) :
    ∃ outputs, Outputs.ofFormats? formats baseFolder = some outputs ∧
      outputs.console = decide ("console" ∈ formats) ∧
      outputs.recordFolder =
        if "json" ∈ formats then some ((Path.ofText baseFolder).child "json") else none := by
  have hknown : ¬ (!formats.contains "console" && !formats.contains "json") = true := by
    simpa [← or_iff_not_imp_left] using hformats
  refine ⟨_, if_neg hknown, List.contains_eq_mem .., ?_⟩
  simp only [List.contains_eq_mem, decide_eq_true_eq]

/-- **Batches of searches.**  A command with a known output runs batches of search texts one
after the other and then ends.  Whatever its service remembers, the total of a batch is the
number of all its results, or the fault of its first text without an answer.  There is one
record for every text in front of such a text, over all batches in order, if records are
asked for; the file of them is what the command leaves behind.  The log has the lines about
one batch after those about the other, and at its end a line about the file.  What a batch
adds depends on its own texts only, so no fault bears on a later batch. -/
theorem runAll_finish (service : SearchService) (last : Option String) (now : DateTime)
    (formats : List String) (hformats : "console" ∈ formats ∨ "json" ∈ formats)
    (baseFolder : String) (batches : List (List String)) (action stamp : String) :
    ∃ outputs, Outputs.ofFormats? formats baseFolder = some outputs ∧
      ∃ finished,
        runAll { service := service.remembering last, outputs, now } batches =
            (batches.map (Batch.total (service.answer now)), finished) ∧
          finished.records =
            (if "json" ∈ formats then
              batches.flatMap (Batch.records (service.answer now) service.snapshot.sections)
            else []) ∧
          finished.log =
            batches.flatMap (Batch.log (service.answer now) (decide ("console" ∈ formats))
              service.snapshot.sections) ∧
          finished.finish action stamp =
            if "json" ∈ formats then
              let folder := (Path.ofText baseFolder).child "json"
              let name := action ++ "_" ++ stamp ++ ".json"
              (some { folder, name, text := (Json.array finished.records).toText },
                finished.log ++ [.info ("JSON saved to " ++ (folder.child name).toText)])
            else (none, finished.log) := by
  obtain ⟨outputs, houtputs, hconsole, hfolder⟩ := exists_outputs hformats baseFolder
  let command : SearchCommand := { service := service.remembering last, outputs, now }
  have hlast : command.service.Remembers last :=
    SearchService.remembers_remembering service last
  obtain ⟨after, hrun⟩ := runAll_eq hlast batches
  have hrecords : ∀ texts, command.newRecords texts =
      if "json" ∈ formats then
        Batch.records (service.answer now) service.snapshot.sections texts
      else [] := by
    intro texts
    rw [newRecords, hfolder]
    by_cases hjson : "json" ∈ formats
    · rw [if_pos hjson, if_pos hjson]
      rfl
    · rw [if_neg hjson, if_neg hjson]
      rfl
  have hlog : ∀ texts, command.newLog texts.length 1 texts =
      Batch.log (service.answer now) (decide ("console" ∈ formats)) service.snapshot.sections
        texts := by
    intro texts
    rw [← hconsole]
    rfl
  refine ⟨outputs, houtputs, _, hrun, ?_, List.flatMap_congr fun texts _ => hlog texts, ?_⟩
  · show batches.flatMap command.newRecords = _
    rw [List.flatMap_congr fun texts _ => hrecords texts]
    split_ifs
    · rfl
    · exact List.flatMap_eq_nil_iff.mpr fun _ _ => rfl
  · have houtputs : command.outputs.recordFolder = _ := hfolder
    rw [finish, recordFile, outputs_extend, houtputs]
    split_ifs <;> rfl

/-- Late on the last day of all, a due date further east cannot be compared with today.  The
first batch stops there, and the second goes on as if it were the first. -/
theorem exists_runAll_fault :
    ∃ (outputs : Outputs) (service : SearchService) (now : DateTime) (finished : SearchCommand),
      Outputs.ofFormats? ["json", "console"] "out" = some outputs ∧
        runAll { service, outputs, now } [["rent", "due:today", "tea"], ["tea"]] =
          ([.error .dateOutOfRange, .ok 1], finished) ∧
        finished.records = ["rent", "tea"].map (Batch.record (service.answer now) []) ∧
        finished.log.map LogLine.message = [
          "=== Search 1/3 ===",
          "query='rent' matches=1", "1. [ ] Pay rent", "   Due: -",
          "=== Search 2/3 ===",
          "query='tea' matches=1", "1. [ ] Buy tea", "   Due: 9999-12-31"] ∧
        (finished.finish "search" "20260131_120000").2 =
          finished.log ++ [.info "JSON saved to out/json/search_20260131_120000.json"] := by
  let lastDay : Date := ⟨9999, 12, 31, by decide⟩
  let east : Zone := { offset := ⟨3600, by decide⟩ }
  let service : SearchService := { snapshot := { tasks := [
    { id := "1", title := "Pay rent" },
    { id := "2", title := "Buy tea",
      dueDate := some { DateTime.startOf lastDay with zone := east } }] } }
  let now : DateTime :=
    { date := lastDay, time := ⟨23, 30, 0, 0, by decide⟩, zone := some { offset := .zero } }
  obtain ⟨outputs, houtputs, finished, hrun, hrecords, hlog, hfinish⟩ :=
    runAll_finish service none now ["json", "console"] (Or.inl (by decide)) "out"
      [["rent", "due:today", "tea"], ["tea"]] "search" "20260131_120000"
  have htotals : [["rent", "due:today", "tea"], ["tea"]].map (Batch.total (service.answer now)) =
      [.error .dateOutOfRange, .ok 1] := by
    decide +kernel
  have hkept : [["rent", "due:today", "tea"], ["tea"]].flatMap (Batch.kept (service.answer now)) =
      ["rent", "tea"] := by
    decide +kernel
  have hpath : (((Path.ofText "out").child "json").child
      ("search" ++ "_" ++ "20260131_120000" ++ ".json")).toText =
      "out/json/search_20260131_120000.json" := by
    decide +kernel
  rw [htotals] at hrun
  refine ⟨outputs, service, now, finished, houtputs, hrun, ?_, ?_, ?_⟩
  · rw [hrecords, if_pos (by decide), ← hkept, List.map_flatMap]
    rfl
  · rw [hlog]
    decide +kernel
  · rw [hfinish, if_pos (by decide)]
    dsimp only
    rw [hpath]
    rfl

end SearchCommand

end TaskQuery
