import TaskQuery.Proofs.Value.Field
import TaskQuery.Settings.Reader

/-!
# What the sections of settings are read from

The first pass of reading settings goes through four sections, in which keys may be missing
and values may be of the wrong type.  This file says which settings the entries of a mapping
have (`Settings.ReadFrom`), in their normal form and with their defaults, and writes the
checks down in their order (`Settings.typeChecks`).  The first pass, `Settings.readSections`,
is decided by both (`Settings.decided_readSections`).

There are two kinds of keys and two kinds of sections, those that have to be there and those
that need not.  Each has one lemma (`decided_required` to `decided_optionalSection`), and the
four sections are put together from these.
-/

namespace TaskQuery

open Text SettingsReader

/-! ## What entries have -/

/-- What is logged, as the entries of a section have it. -/
structure LogSettings.ReadFrom (log : LogSettings) (entries : Entries) : Prop where
  level : ∃ level, entries.get? "level" = some (.string level) ∧ log.level = uppercase level
  toFile : (entries.get? "to_file").getD (.scalar (.bool false)) = .scalar (.bool log.toFile)
  folder : (entries.get? "dir").getD (.string "log") = .string log.folder

/-- Which snapshot is searched, as the entries of a section have it. -/
structure StoreSettings.ReadFrom (store : StoreSettings) (entries : Entries) : Prop where
  path : entries.get? "path" = some (.string store.path)
  variableName : ∃ name, (entries.get? "path_env").getD (.string "") = .string name ∧
    store.variableName = trimmed name

/-- How the snapshot is searched, as the entries of a section have it. -/
structure SearchSettings.ReadFrom (search : SearchSettings) (entries : Entries) : Prop where
  includeCompleted : (entries.get? "include_completed").getD (.scalar (.bool true)) =
    .scalar (.bool search.includeCompleted)
  limit : (entries.get? "limit").getD (.scalar (.int (-1))) = .scalar (.int search.limit)

/-- Where results go, as the entries of a section have it. -/
structure OutputSettings.ReadFrom (output : OutputSettings) (entries : Entries) : Prop where
  formats : ∃ formats : List String,
    entries.get? "formats" = some (.sequence (formats.map Value.string)) ∧
      output.formats = formats.map fun format => lowercase (trimmed format)
  baseFolder : entries.get? "base_dir" = some (.string output.baseFolder)

/-- Settings as the entries of a mapping have them.  All sections have to be there except how
to search, which may be missing or null. -/
def Settings.ReadFrom (settings : Settings) (entries : Entries) : Prop :=
  ∃ log store search output : Entries,
    entries.present? "log" = some (.mapping log) ∧ settings.log.ReadFrom log ∧
    entries.present? "store" = some (.mapping store) ∧ settings.store.ReadFrom store ∧
    (entries.present? "search").getD (.mapping []) = .mapping search ∧
      settings.search.ReadFrom search ∧
    entries.present? "output" = some (.mapping output) ∧ settings.output.ReadFrom output

/-! ## The checks -/

namespace SettingsReader

/-- A section that has to be there is there, and is a mapping. -/
def requiredSectionCheck (entries : Entries) (key : String) : Check SettingsFault :=
  ⟨key, ∃ found, entries.present? key = some (.mapping found),
    if entries.present? key = none then .missing key else .type ⟨key, .object⟩⟩

/-- A section is a mapping, if it is there. -/
def optionalSectionCheck (entries : Entries) (key : String) : Check SettingsFault :=
  (Value.objectCheck key ((entries.present? key).getD (.mapping []))).mapFault .type

/-- The entries of a section; none if it is missing. -/
def sectionAt (entries : Entries) (key : String) : Entries :=
  ((entries.present? key).getD (.mapping [])).entries

/-- What is checked in a section that has to be there. -/
def requiredSectionChecks (keyChecks : Entries → List (Check SettingsFault)) (entries : Entries)
    (key : String) : List (Check SettingsFault) :=
  requiredSectionCheck entries key :: keyChecks (sectionAt entries key)

/-- What is checked in a section that may be missing or null. -/
def optionalSectionChecks (keyChecks : Entries → List (Check SettingsFault)) (entries : Entries)
    (key : String) : List (Check SettingsFault) :=
  optionalSectionCheck entries key :: keyChecks (sectionAt entries key)

/-- A value that has to be there is there and is what is expected. -/
def requiredChecks (checks : String → Value → List (Check TypeFault)) (entries : Entries)
    (name key : String) : List (Check SettingsFault) :=
  let place := Value.entryPlace name key
  ⟨place, ∃ value, entries.get? key = some value, .missing place⟩ ::
    (checks place ((entries.get? key).getD .null)).map (.mapFault .type)

/-- A value is what is expected, if it is there. -/
def optionalCheck (check : String → Value → Check TypeFault) (entries : Entries)
    (name key : String) (default : Value) : Check SettingsFault :=
  (check (Value.entryPlace name key) ((entries.get? key).getD default)).mapFault .type

/-- A value is a list of strings. -/
def stringsChecks (place : String) (value : Value) : List (Check TypeFault) :=
  Value.listCheck place value ::
    Decided.itemChecks (fun place item => [Value.stringCheck place item]) place 0 value.items

/-- A value is a string. -/
def stringChecks (place : String) (value : Value) : List (Check TypeFault) :=
  [Value.stringCheck place value]

/-- What is checked in the section of what is logged. -/
def logTypeChecks (entries : Entries) : List (Check SettingsFault) :=
  requiredChecks stringChecks entries "log" "level" ++
    [optionalCheck Value.boolCheck entries "log" "to_file" (.scalar (.bool false)),
      optionalCheck Value.stringCheck entries "log" "dir" (.string "log")]

/-- What is checked in the section of which snapshot is searched. -/
def storeTypeChecks (entries : Entries) : List (Check SettingsFault) :=
  requiredChecks stringChecks entries "store" "path" ++
    [optionalCheck Value.stringCheck entries "store" "path_env" (.string "")]

/-- What is checked in the section of how the snapshot is searched. -/
def searchTypeChecks (entries : Entries) : List (Check SettingsFault) :=
  [optionalCheck Value.boolCheck entries "search" "include_completed" (.scalar (.bool true)),
    optionalCheck Value.intCheck entries "search" "limit" (.scalar (.int (-1)))]

/-- What is checked in the section of where results go. -/
def outputTypeChecks (entries : Entries) : List (Check SettingsFault) :=
  requiredChecks stringsChecks entries "output" "formats" ++
    requiredChecks stringChecks entries "output" "base_dir"

end SettingsReader

/-- What is checked in the entries of a mapping: that sections and keys are there, and that
their values are of the expected types. -/
def Settings.typeChecks (entries : Entries) : List (Check SettingsFault) :=
  requiredSectionChecks logTypeChecks entries "log" ++
    (requiredSectionChecks storeTypeChecks entries "store" ++
      (optionalSectionChecks searchTypeChecks entries "search" ++
        requiredSectionChecks outputTypeChecks entries "output"))

/-! ## The first pass -/

namespace SettingsReader

theorem typed_eq_mapError {α : Type} (outcome : Except TypeFault α) :
    typed outcome = outcome.mapError SettingsFault.type := by
  cases outcome <;> rfl

/-- Checks of a type decide the same as checks of settings. -/
theorem decided_typed {α : Type} {outcome : Except TypeFault α} {checks : List (Check TypeFault)}
    {Result : α → Prop} (hdecided : Decided outcome checks Result) :
    Decided (typed outcome) (checks.map (.mapFault .type)) Result := by
  rw [typed_eq_mapError]
  exact hdecided.mapError SettingsFault.type

section Keys

variable {α : Type} {expect : String → Value → Except TypeFault α}

theorem decided_required {checks : String → Value → List (Check TypeFault)}
    {Means : Value → α → Prop}
    (hexpect : ∀ place value, Decided (expect place value) (checks place value) (Means value))
    (entries : Entries) (name key : String) :
    Decided (required expect entries name key) (requiredChecks checks entries name key)
      (fun content => ∃ value, entries.get? key = some value ∧ Means value content) := by
  unfold required requiredChecks
  cases hget : entries.get? key with
  | none =>
      refine Decided.cons_of_not_holds rfl ?_ ?_
      · rintro ⟨value, ⟨⟩⟩
      · rintro content ⟨value, ⟨⟩, -⟩
  | some value =>
      refine Decided.cons_of_holds ⟨value, rfl⟩ ?_
      refine (decided_typed (hexpect _ value)).congr fun content => ?_
      simp

theorem decided_optional {make : α → Value} {check : String → Value → Check TypeFault}
    (hexpect : ∀ place value, Decided (expect place value) [check place value] (value = make ·))
    (entries : Entries) (name key : String) (default : α) :
    Decided (optional expect entries name key default)
      [optionalCheck check entries name key (make default)]
      (fun content => (entries.get? key).getD (make default) = make content) := by
  have hread : optional expect entries name key default =
      typed (expect (Value.entryPlace name key) ((entries.get? key).getD (make default))) := by
    unfold optional
    cases entries.get? key with
    | none => rw [Option.getD_none, ((hexpect _ (make default)).ok_iff default).mpr rfl, typed]
    | some value => rfl
  rw [hread]
  exact decided_typed (hexpect _ _)

theorem forall₂_string_iff {items : List Value} {texts : List String} :
    List.Forall₂ (· = .string ·) items texts ↔ items = texts.map Value.string := by
  rw [← List.forall₂_map_right_iff, List.forall₂_eq_eq_eq]

theorem decided_expectStrings (place : String) (value : Value) :
    Decided (expectStrings place value) (stringsChecks place value)
      (fun texts => value = .sequence (texts.map Value.string)) := by
  have hitems : ∀ items, value = .sequence items →
      Decided (Value.readItems Value.expectString place 0 items)
        (Decided.itemChecks (fun place item => [Value.stringCheck place item]) place 0 value.items)
        (fun texts => items = texts.map Value.string) := by
    rintro items rfl
    exact (Decided.readItems Value.decided_expectString place 0 items).congr
      fun texts => forall₂_string_iff
  refine ((Value.decided_expectList place value).bind_cons hitems).congr fun texts => ?_
  simp

end Keys

section Sections

variable {α : Type} {read : Entries → Except SettingsFault α}
  {keyChecks : Entries → List (Check SettingsFault)} {Reads : Entries → α → Prop}

theorem decided_requiredSection
    (hread : ∀ found, Decided (read found) (keyChecks found) (Reads found)) (entries : Entries)
    (key : String) :
    Decided (requiredSection entries key >>= read) (requiredSectionChecks keyChecks entries key)
      (fun content => ∃ found, entries.present? key = some (.mapping found) ∧
        Reads found content) := by
  have hsection : Decided (requiredSection entries key) [requiredSectionCheck entries key]
      (fun found => entries.present? key = some (.mapping found)) := by
    unfold requiredSection requiredSectionCheck
    cases entries.present? key with
    | none => exact .ofError rfl (by simp)
    | some value =>
        cases value with
        | mapping found => exact .ofOk fun other => by simp [eq_comm]
        | scalar | sequence | collection | again => exact .ofError rfl (by simp)
  refine hsection.bind_cons fun found hfound => ?_
  unfold sectionAt
  rw [hfound]
  exact hread found

theorem decided_optionalSection
    (hread : ∀ found, Decided (read found) (keyChecks found) (Reads found)) (entries : Entries)
    (key : String) :
    Decided (optionalSection entries key >>= read) (optionalSectionChecks keyChecks entries key)
      (fun content => ∃ found, (entries.present? key).getD (.mapping []) = .mapping found ∧
        Reads found content) := by
  have hsection : optionalSection entries key =
      typed (((entries.present? key).getD (.mapping [])).expectObject key) := by
    unfold optionalSection
    cases entries.present? key <;> rfl
  rw [hsection]
  refine (decided_typed (Value.decided_expectObject key _)).bind_cons fun found hfound => ?_
  unfold sectionAt
  rw [hfound]
  exact hread found

end Sections

variable (entries : Entries)

theorem decided_readLog : Decided (readLog entries)
    (requiredSectionChecks logTypeChecks entries "log")
    (fun log => ∃ found, entries.present? "log" = some (.mapping found) ∧
      log.ReadFrom found) := by
  refine decided_requiredSection (fun found => ?_) entries "log"
  have hsteps :=
    (decided_required Value.decided_expectString found "log" "level").bind fun level _ =>
    (decided_optional Value.decided_expectBool found "log" "to_file" false).bind_cons
      fun toFile _ =>
    (decided_optional Value.decided_expectString found "log" "dir" "log").bind_cons fun folder _ =>
    Decided.pure (LogSettings.mk (uppercase level) toFile folder)
  refine hsteps.congr fun log => ?_
  constructor
  · rintro ⟨level, ⟨value, hvalue, rfl⟩, toFile, htoFile, folder, hfolder, rfl⟩
    exact ⟨⟨level, hvalue, rfl⟩, htoFile, hfolder⟩
  · rintro ⟨⟨level, hlevel, hupper⟩, htoFile, hfolder⟩
    refine ⟨level, ⟨_, hlevel, rfl⟩, _, htoFile, _, hfolder, ?_⟩
    rw [← hupper]

theorem decided_readStore : Decided (readStore entries)
    (requiredSectionChecks storeTypeChecks entries "store")
    (fun store => ∃ found, entries.present? "store" = some (.mapping found) ∧
      store.ReadFrom found) := by
  refine decided_requiredSection (fun found => ?_) entries "store"
  have hsteps :=
    (decided_required Value.decided_expectString found "store" "path").bind fun path _ =>
    (decided_optional Value.decided_expectString found "store" "path_env" "").bind_cons
      fun name _ =>
    Decided.pure (StoreSettings.mk path (trimmed name))
  refine hsteps.congr fun store => ?_
  constructor
  · rintro ⟨path, ⟨value, hvalue, rfl⟩, name, hname, rfl⟩
    exact ⟨hvalue, ⟨name, hname, rfl⟩⟩
  · rintro ⟨hpath, name, hname, htrimmed⟩
    refine ⟨_, ⟨_, hpath, rfl⟩, name, hname, ?_⟩
    rw [← htrimmed]

theorem decided_readSearch : Decided (readSearch entries)
    (optionalSectionChecks searchTypeChecks entries "search")
    (fun search => ∃ found, (entries.present? "search").getD (.mapping []) = .mapping found ∧
      search.ReadFrom found) := by
  refine decided_optionalSection (fun found => ?_) entries "search"
  have hsteps :=
    (decided_optional Value.decided_expectBool found "search" "include_completed" true).bind_cons
      fun includeCompleted _ =>
    (decided_optional Value.decided_expectInt found "search" "limit" (-1)).bind_cons fun limit _ =>
    Decided.pure (SearchSettings.mk includeCompleted limit)
  refine hsteps.congr fun search => ?_
  constructor
  · rintro ⟨includeCompleted, hcompleted, limit, hlimit, rfl⟩
    exact ⟨hcompleted, hlimit⟩
  · rintro ⟨hcompleted, hlimit⟩
    exact ⟨_, hcompleted, _, hlimit, rfl⟩

theorem decided_readOutput : Decided (readOutput entries)
    (requiredSectionChecks outputTypeChecks entries "output")
    (fun output => ∃ found, entries.present? "output" = some (.mapping found) ∧
      output.ReadFrom found) := by
  refine decided_requiredSection (fun found => ?_) entries "output"
  have hsteps :=
    (decided_required decided_expectStrings found "output" "formats").bind fun formats _ =>
    (decided_required Value.decided_expectString found "output" "base_dir").bind
      fun baseFolder _ =>
    Decided.pure (OutputSettings.mk baseFolder
      (formats.map fun format => lowercase (trimmed format)))
  rw [List.append_nil] at hsteps
  refine hsteps.congr fun output => ?_
  constructor
  · rintro ⟨formats, ⟨value, hvalue, rfl⟩, baseFolder, ⟨base, hbase, rfl⟩, rfl⟩
    exact ⟨⟨formats, hvalue, rfl⟩, hbase⟩
  · rintro ⟨⟨formats, hvalue, hformats⟩, hbase⟩
    refine ⟨formats, ⟨_, hvalue, rfl⟩, _, ⟨_, hbase, rfl⟩, ?_⟩
    rw [← hformats]

end SettingsReader

namespace Settings

/-- Reads the four sections. -/
def readSections (entries : Entries) : Except SettingsFault Settings := do
  let log ← readLog entries
  let store ← readStore entries
  let search ← readSearch entries
  let output ← readOutput entries
  pure { log, store, search, output }

theorem decided_readSections (entries : Entries) :
    Decided (readSections entries) (typeChecks entries) (fun settings => settings.ReadFrom entries) := by
  have hsteps :=
    (decided_readLog entries).bind fun log _ =>
    (decided_readStore entries).bind fun store _ =>
    (decided_readSearch entries).bind fun search _ =>
    (decided_readOutput entries).bind fun output _ =>
    Decided.pure (Settings.mk log store search output)
  rw [List.append_nil] at hsteps
  refine hsteps.congr fun settings => ?_
  constructor
  · rintro ⟨log, ⟨logEntries, hlogEntries, hlog⟩, store, ⟨storeEntries, hstoreEntries, hstore⟩,
      search, ⟨searchEntries, hsearchEntries, hsearch⟩, output,
      ⟨outputEntries, houtputEntries, houtput⟩, rfl⟩
    exact ⟨logEntries, storeEntries, searchEntries, outputEntries, hlogEntries, hlog,
      hstoreEntries, hstore, hsearchEntries, hsearch, houtputEntries, houtput⟩
  · rintro ⟨logEntries, storeEntries, searchEntries, outputEntries, hlogEntries, hlog,
      hstoreEntries, hstore, hsearchEntries, hsearch, houtputEntries, houtput⟩
    exact ⟨_, ⟨_, hlogEntries, hlog⟩, _, ⟨_, hstoreEntries, hstore⟩, _,
      ⟨_, hsearchEntries, hsearch⟩, _, ⟨_, houtputEntries, houtput⟩, rfl⟩

end Settings

/-! ## Places in messages -/

namespace SettingsReader

/-- The message about the fault of the check has the place of the check in it. -/
def Located (check : Check SettingsFault) : Prop :=
  Mentions check.fault.message check.place

variable {Holds : Prop} {place : String}

theorem located_type (expected : Expected) :
    Located ⟨place, Holds, .type ⟨place, expected⟩⟩ :=
  TypeFault.mentions_place ⟨place, expected⟩

theorem located_missing : Located ⟨place, Holds, .missing place⟩ :=
  ⟨"Missing required config: ", "", String.append_empty.symm⟩

theorem located_requiredSectionCheck (entries : Entries) (key : String) :
    Located (requiredSectionCheck entries key) := by
  unfold requiredSectionCheck
  split
  · exact located_missing
  · exact located_type .object

theorem located_stringChecks (place : String) (value : Value) :
    ∀ check ∈ stringChecks place value, Located (check.mapFault .type) :=
  List.forall_mem_singleton.mpr (located_type .string)

theorem located_stringsChecks (place : String) (value : Value) :
    ∀ check ∈ stringsChecks place value, Located (check.mapFault .type) := by
  refine List.forall_mem_cons.mpr ⟨located_type .list, fun check hcheck => ?_⟩
  obtain ⟨item, -, hcheck⟩ := List.mem_flatMap.mp hcheck
  obtain rfl := List.mem_singleton.mp hcheck
  exact located_type .string

theorem located_requiredChecks {checks : String → Value → List (Check TypeFault)}
    (hchecks : ∀ place value, ∀ check ∈ checks place value, Located (check.mapFault .type))
    (entries : Entries) (name key : String) :
    ∀ check ∈ requiredChecks checks entries name key, Located check := by
  refine List.forall_mem_cons.mpr ⟨located_missing, fun check hcheck => ?_⟩
  obtain ⟨inner, hinner, rfl⟩ := List.mem_map.mp hcheck
  exact hchecks _ _ inner hinner

theorem located_logTypeChecks (entries : Entries) :
    ∀ check ∈ logTypeChecks entries, Located check := by
  refine List.forall_mem_append.mpr ⟨located_requiredChecks located_stringChecks _ _ _, ?_⟩
  exact List.forall_mem_cons.mpr ⟨located_type .boolean,
    List.forall_mem_singleton.mpr (located_type .string)⟩

theorem located_storeTypeChecks (entries : Entries) :
    ∀ check ∈ storeTypeChecks entries, Located check :=
  List.forall_mem_append.mpr ⟨located_requiredChecks located_stringChecks _ _ _,
    List.forall_mem_singleton.mpr (located_type .string)⟩

theorem located_searchTypeChecks (entries : Entries) :
    ∀ check ∈ searchTypeChecks entries, Located check :=
  List.forall_mem_cons.mpr ⟨located_type .boolean,
    List.forall_mem_singleton.mpr (located_type .integer)⟩

theorem located_outputTypeChecks (entries : Entries) :
    ∀ check ∈ outputTypeChecks entries, Located check :=
  List.forall_mem_append.mpr ⟨located_requiredChecks located_stringsChecks _ _ _,
    located_requiredChecks located_stringChecks _ _ _⟩

theorem located_typeChecks (entries : Entries) :
    ∀ check ∈ Settings.typeChecks entries, Located check := by
  refine List.forall_mem_append.mpr ⟨?log, List.forall_mem_append.mpr ⟨?store,
    List.forall_mem_append.mpr ⟨?search, ?output⟩⟩⟩
  case log =>
    exact List.forall_mem_cons.mpr ⟨located_requiredSectionCheck _ _, located_logTypeChecks _⟩
  case store =>
    exact List.forall_mem_cons.mpr ⟨located_requiredSectionCheck _ _, located_storeTypeChecks _⟩
  case search =>
    exact List.forall_mem_cons.mpr ⟨located_type .object, located_searchTypeChecks _⟩
  case output =>
    exact List.forall_mem_cons.mpr ⟨located_requiredSectionCheck _ _, located_outputTypeChecks _⟩

end SettingsReader

end TaskQuery
