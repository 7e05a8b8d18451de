import TaskQuery.Calendar.IsoReader
import TaskQuery.CommandLine.Arguments
import TaskQuery.Search.Command
import TaskQuery.Settings.Loader
import TaskQuery.Snapshot.Loader
import TaskQuery.Yaml.Reader

/-!
# Runs of the program

A run reads its arguments, loads the settings and carries out one command.  Faults
in the arguments end it first, faults in the settings next; a search that fails is
reported in the log and aborted.

A run is given the host that it runs on and the readers that it decodes files with;
`builtIn` are the readers of this program.
-/

namespace TaskQuery.CommandLine

open Files

/-- The moment of a run, for relative days and for the names of files. -/
structure Moment where
  now : DateTime
  /-- The time in the names of files of records. -/
  recordStamp : String
  /-- The time in the names of log files. -/
  logStamp : String
  /-- What stands in front of every log line. -/
  linePrefix : String

/-- How a run ends. -/
inductive Ending where
  /-- The arguments lead to no command. -/
  | halted (halt : Halt)
  /-- The files hold no settings. -/
  | misconfigured (fault : SettingsLoadFault)
  /-- The folder for log files cannot be made. -/
  | unlogged (fault : FileFault)
  /-- The command was carried out, or aborted. -/
  | done (aborted : Bool)
deriving DecidableEq

/-- The code with which a run that ends so exits. -/
def Ending.exitCode : Ending → Nat
  | .halted .usage => 2
  | .halted .help => 0
  | .misconfigured _ => 1
  | .unlogged _ => 1
  | .done true => 1
  | .done false => 0

/-- The end of a run and the text that it shows. -/
structure Outcome where
  ending : Ending
  shown : String := ""

/-! ## Log lines -/

/-- A log line as text. -/
def lineText (moment : Moment) (line : LogLine) : String :=
  moment.linePrefix ++ "[" ++ line.level.tag ++ "] " ++ line.message ++ "\n"

/-- Log lines as text. -/
def logText (moment : Moment) (log : List LogLine) : String :=
  String.join (log.map (lineText moment))

/-- The log lines that settings let through. -/
def shownLines (settings : LogSettings) (log : List LogLine) : List LogLine :=
  let threshold := (logLevels.lookup settings.level).getD 20
  log.filter fun line => decide (threshold ≤ line.level.rank)

/-- The text that a run with a log shows. -/
def shownText (moment : Moment) (settings : LogSettings) (aborted : Bool) (log : List LogLine) :
    String :=
  logText moment (shownLines settings log) ++ (if aborted then "Aborted!\n" else "")

/-! ## Commands -/

/-- The log line about a search that failed. -/
def failedLine (reason : String) : LogLine :=
  ⟨.error, "Search failed: " ++ reason⟩

/-- Writes the file of records of a search. -/
def writeRecords {m : Type → Type} [Monad m] (host : Host m) (file : OutputFile) :
    m (Except FileFault Unit) := do
  match ← host.makeFolder file.folder with
  | .error fault => pure (.error fault)
  | .ok _ => host.writeText (file.folder.child file.name) file.text

/-- Runs search texts against a snapshot: whether the search was aborted, and its
log. -/
def searchSnapshot {m : Type → Type} [Monad m] (host : Host m) (moment : Moment)
    (settings : Settings) (snapshot : Snapshot) (texts : List String) :
    m (Bool × List LogLine) := do
  match Outputs.ofFormats? settings.output.formats settings.output.baseFolder with
  | none => pure (true, [failedLine Outputs.noneMessage])
  | some outputs =>
    let service := SearchService.ofSettings settings.search snapshot
    let command : SearchCommand := { service, outputs, now := moment.now }
    match command.run texts with
    | (.error fault, finished) => pure (true, finished.log ++ [failedLine fault.message])
    | (.ok _, finished) =>
      match finished.finish Command.search.name moment.recordStamp with
      | (none, log) => pure (false, log)
      | (some file, log) =>
        match ← writeRecords host file with
        | .ok _ => pure (false, log)
        | .error fault => pure (true, finished.log ++ [failedLine fault.words])

/-- Runs the search command. -/
def runSearch {m : Type → Type} [Monad m] (readers : Readers) (host : Host m) (moment : Moment)
    (settings : Settings) (environment : Environment) (texts : List String) :
    m (Bool × List LogLine) := do
  let path := Path.ofText (settings.store.resolvedPath environment)
  let (loaded, reading) ← Snapshot.load readers host path
  let loading := LogLine.info ("Loading tasks from " ++ path.toText) :: reading
  match loaded with
  | .error fault => pure (true, loading ++ [failedLine fault.message])
  | .ok snapshot =>
    let (aborted, log) ← searchSnapshot host moment settings snapshot texts
    pure (aborted, loading ++ log)

/-- Runs a command with its settings: whether it was aborted, and its log. -/
def runCommand {m : Type → Type} [Monad m] (readers : Readers) (host : Host m) (moment : Moment)
    (settings : Settings) (environment : Environment) (command : Command) (texts : List String) :
    m (Bool × List LogLine) :=
  match command with
  | .search => runSearch readers host moment settings environment texts
  | .explain => pure (false, explainTexts texts)

/-! ## Log files -/

/-- The folder of the log files of a command. -/
def logFolder (settings : LogSettings) (command : Command) : Path :=
  (Path.ofText settings.folder).child command.name

/-- The log file of a run. -/
def logFile (moment : Moment) (settings : LogSettings) (command : Command) : Path :=
  (logFolder settings command).child (command.name ++ "_" ++ moment.logStamp ++ ".log")

/-- Prepares the log file, if there is to be one. -/
def openLog {m : Type → Type} [Monad m] (host : Host m) (moment : Moment)
    (settings : LogSettings) (command : Command) : m (Except FileFault Unit) := do
  if settings.toFile then
    match ← host.makeFolder (logFolder settings command) with
    | .error fault => pure (.error fault)
    | .ok _ => host.writeText (logFile moment settings command) ""
  else pure (.ok ())

/-- Writes the log file, if there is to be one. -/
def writeLog {m : Type → Type} [Monad m] (host : Host m) (moment : Moment)
    (settings : LogSettings) (command : Command) (log : List LogLine) : m Unit := do
  if settings.toFile then
    let _ ← host.writeText (logFile moment settings command) (logText moment log)

/-! ## The whole run -/

/-- The file of settings that is used if no other is named. -/
def defaultPath : String :=
  "config/default.yml"

/-- Runs a command with its arguments once the settings are loaded. -/
def runWith {m : Type → Type} [Monad m] (readers : Readers) (host : Host m) (moment : Moment)
    (settings : Settings) (environment : Environment) (command : Command)
    (arguments : List String) : m Outcome := do
  match textsOf arguments with
  | .error halt => pure { ending := .halted halt }
  | .ok texts =>
    match ← openLog host moment settings.log command with
    | .error fault => pure { ending := .unlogged fault }
    | .ok _ =>
      let (aborted, log) ← runCommand readers host moment settings environment command texts
      writeLog host moment settings.log command log
      pure { ending := .done aborted, shown := shownText moment settings.log aborted log }

/-- Whether the path of an option leads to a folder; an empty path leads nowhere. -/
def leadsToFolder {m : Type → Type} [Monad m] (host : Host m) (path : String) : m Bool :=
  if path.isEmpty then pure false else host.isFolder (Path.ofText path)

/-- Runs the program with its arguments. -/
def run {m : Type → Type} [Monad m] (readers : Readers) (host : Host m) (moment : Moment)
    (arguments : List String) : m Outcome := do
  match readOptions {} arguments with
  | .error halt => pure { ending := .halted halt }
  | .ok (options, rest) =>
    if options.help then pure { ending := .halted .help }
    else
      let override := options.config.getD defaultPath
      let defaults := options.defaults.getD defaultPath
      let overrideIsFolder ← leadsToFolder host override
      let defaultsIsFolder ← leadsToFolder host defaults
      if overrideIsFolder || defaultsIsFolder then pure { ending := .halted .usage }
      else
        match commandOf rest with
        | .error halt => pure { ending := .halted halt }
        | .ok (command, arguments) =>
          match ← Settings.load readers.yaml host (Path.ofText override) (Path.ofText defaults) with
          | .error fault => pure { ending := .misconfigured fault }
          | .ok (settings, environment) =>
            runWith readers host moment settings environment command arguments

/-- The readers of this program. -/
def builtIn : Readers where
  yaml := Yaml.read
  moment := DateTime.ofIso

end TaskQuery.CommandLine
