import TaskQuery.Snapshot.Reader
import TaskQuery.Text.Basic
import TaskQuery.Text.Case
import TaskQuery.Value.Basic
import TaskQuery.Value.Text

/-!
# Settings

The settings say what is logged and where, which snapshot is searched, how it is
searched, and where the results go.
-/

namespace TaskQuery

open Text

/-- The values of environment variables. -/
abbrev Environment := String → Option String

/-- What is logged. -/
structure LogSettings where
  /-- The name of the least important level that is shown, in capital letters. -/
  level : String
  toFile : Bool := false
  folder : String := "log"
deriving DecidableEq

/-- Which snapshot is searched. -/
structure StoreSettings where
  path : String
  /-- The environment variable that takes precedence over the path; empty for none. -/
  variableName : String := ""
deriving DecidableEq

/-- How the snapshot is searched. -/
structure SearchSettings where
  includeCompleted : Bool := true
  /-- The greatest number of results; -1 stands for no limit. -/
  limit : Int := -1
deriving DecidableEq

/-- Where results go. -/
structure OutputSettings where
  baseFolder : String
  formats : List String
deriving DecidableEq

/-- The settings of a run. -/
structure Settings where
  log : LogSettings
  store : StoreSettings
  search : SearchSettings
  output : OutputSettings
deriving DecidableEq

/-- The path of the snapshot: the value of the environment variable if it is not
blank, else the path of the settings. -/
def StoreSettings.resolvedPath (store : StoreSettings) (environment : Environment) : String :=
  if store.variableName.isEmpty then store.path
  else
    let value := trimmed ((environment store.variableName).getD "")
    if value.isEmpty then store.path else value

/-!
## Reading settings from decoded data

Settings are read section by section, `log`, `store`, `search` and `output`, and then
checked in the same order.  The first fault is reported; a missing key or a value
of the wrong type anywhere comes before any value that is not allowed.
-/

/-- Why decoded data is no settings. -/
inductive SettingsFault where
  /-- A value of the wrong type. -/
  | type (fault : TypeFault)
  | missing (key : String)
  | unknownLevel
  | blankLogFolder
  | blankStorePath
  | limitOutOfRange
  | noFormats
  /-- Formats that are not known, each once and in increasing order. -/
  | unknownFormats (formats : List String)
  | blankBaseFolder
deriving DecidableEq

/-- The names of the levels that can be shown, in alphabetical order, and their
places in the order of importance. -/
def logLevels : List (String × Nat) :=
  [("CRITICAL", 50), ("DEBUG", 10), ("ERROR", 40), ("INFO", 20), ("WARNING", 30)]

/-- The formats that results can take. -/
def knownFormats : List String :=
  ["console", "json"]

/-- A list of names as it is shown. -/
def shownNames (names : List String) : String :=
  enclosed "[" (names.map quoted) "]"

/-- What is wrong, in words. -/
def SettingsFault.message : SettingsFault → String
  | .type fault => fault.message
  | .missing key => "Missing required config: " ++ key
  | .unknownLevel => "log.level must be one of " ++ shownNames (logLevels.map (·.1))
  | .blankLogFolder => "log.dir must not be empty"
  | .blankStorePath => "store.path must not be empty"
  | .limitOutOfRange => "search.limit must be -1 or positive"
  | .noFormats => "output.formats must include at least one format"
  | .unknownFormats formats => "output.formats has unknown formats: " ++ shownNames formats
  | .blankBaseFolder => "output.base_dir must not be empty when json output is enabled"

namespace SettingsReader

/-- A check of the type of a value as a check of settings. -/
def typed {α : Type} : Except TypeFault α → Except SettingsFault α
  | .ok value => .ok value
  | .error fault => .error (.type fault)

/-! ### Sections and keys -/

/-- A section that has to be there. -/
def requiredSection (entries : Entries) (key : String) : Except SettingsFault Entries :=
  match entries.present? key with
  | none => .error (.missing key)
  | some value => typed (value.expectObject key)

/-- A section that is empty if it is missing. -/
def optionalSection (entries : Entries) (key : String) : Except SettingsFault Entries :=
  match entries.present? key with
  | none => .ok []
  | some value => typed (value.expectObject key)

/-- A value that has to be there. -/
def required {α : Type} (expect : String → Value → Except TypeFault α) (entries : Entries)
    (name key : String) : Except SettingsFault α :=
  let place := Value.entryPlace name key
  match entries.get? key with
  | none => .error (.missing place)
  | some value => typed (expect place value)

/-- A value that has a default. -/
def optional {α : Type} (expect : String → Value → Except TypeFault α) (entries : Entries)
    (name key : String) (default : α) : Except SettingsFault α :=
  match entries.get? key with
  | none => .ok default
  | some value => typed (expect (Value.entryPlace name key) value)

/-- The list of strings that a value is. -/
def expectStrings (place : String) (value : Value) : Except TypeFault (List String) := do
  let items ← value.expectList place
  Value.readItems Value.expectString place 0 items

/-! ### The four sections -/

/-- Reads what is logged. -/
def readLog (entries : Entries) : Except SettingsFault LogSettings := do
  let entries ← requiredSection entries "log"
  let level ← required Value.expectString entries "log" "level"
  let toFile ← optional Value.expectBool entries "log" "to_file" false
  let folder ← optional Value.expectString entries "log" "dir" "log"
  pure { level := uppercase level, toFile, folder }

/-- Reads which snapshot is searched. -/
def readStore (entries : Entries) : Except SettingsFault StoreSettings := do
  let entries ← requiredSection entries "store"
  let path ← required Value.expectString entries "store" "path"
  let variableName ← optional Value.expectString entries "store" "path_env" ""
  pure { path, variableName := trimmed variableName }

/-- Reads how the snapshot is searched. -/
def readSearch (entries : Entries) : Except SettingsFault SearchSettings := do
  let entries ← optionalSection entries "search"
  let includeCompleted ← optional Value.expectBool entries "search" "include_completed" true
  let limit ← optional Value.expectInt entries "search" "limit" (-1)
  pure { includeCompleted, limit }

/-- Reads where the results go. -/
def readOutput (entries : Entries) : Except SettingsFault OutputSettings := do
  let entries ← requiredSection entries "output"
  let formats ← required expectStrings entries "output" "formats"
  let baseFolder ← required Value.expectString entries "output" "base_dir"
  pure { baseFolder, formats := formats.map fun format => lowercase (trimmed format) }

/-! ### Allowed values -/

/-- Whether a text is blank. -/
def isBlankText (text : String) : Bool :=
  text.toList.all isBlank

/-- Checks what is logged. -/
def checkLog (log : LogSettings) : Except SettingsFault Unit :=
  if (logLevels.lookup log.level).isNone then .error .unknownLevel
  else if isBlankText log.folder then .error .blankLogFolder
  else .ok ()

/-- Checks which snapshot is searched. -/
def checkStore (environment : Environment) (store : StoreSettings) : Except SettingsFault Unit :=
  if isBlankText (store.resolvedPath environment) then .error .blankStorePath else .ok ()

/-- Checks how the snapshot is searched. -/
def checkSearch (search : SearchSettings) : Except SettingsFault Unit :=
  if search.limit = 0 ∨ search.limit < -1 then .error .limitOutOfRange else .ok ()

/-- Checks where the results go. -/
def checkOutput (output : OutputSettings) : Except SettingsFault Unit :=
  if output.formats.isEmpty then .error .noFormats
  else
    match sortDistinct (output.formats.filter fun format => !knownFormats.contains format) with
    | [] =>
      if output.formats.contains "json" && isBlankText output.baseFolder then
        .error .blankBaseFolder
      else .ok ()
    | unknown => .error (.unknownFormats unknown)

end SettingsReader

open SettingsReader

/-- Reads settings from the entries of decoded data. -/
def Settings.read (environment : Environment) (entries : Entries) :
    Except SettingsFault Settings := do
  let log ← readLog entries
  let store ← readStore entries
  let search ← readSearch entries
  let output ← readOutput entries
  checkLog log
  checkStore environment store
  checkSearch search
  checkOutput output
  pure { log, store, search, output }

end TaskQuery
