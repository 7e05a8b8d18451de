import TaskQuery.Proofs.Settings.Sections

/-!
# Which settings are accepted

Settings are read in two passes: the first one reads the four sections
(`Settings.readSections`), and the second one checks the values that were read
(`Settings.allow`).  This file writes the checks of the second pass down in their order
(`Settings.valueChecks`) and puts the passes together (`Settings.read_acceptance`).

The checks of the second pass are about the settings and not about the entries, so what is
reported is said for each pass, and the first one comes first.  All of them are conditions
on a value, one before the other (`Decided.guard`).
-/

namespace TaskQuery

open Text SettingsReader

/-- The path of the snapshot that is searched: the trimmed value of the environment variable
if it has a name and a value that is not blank, and else the path of the settings. -/
inductive StoreSettings.ResolvesTo (store : StoreSettings) (environment : Environment) :
    String → Prop
  | fromVariable (value : String) (hname : store.variableName ≠ "")
      (hvalue : environment store.variableName = some value) (hblank : trimmed value ≠ "") :
      ResolvesTo store environment (trimmed value)
  | fromSettings (hpath : ∀ value, store.variableName ≠ "" →
        environment store.variableName = some value → trimmed value = "") :
      ResolvesTo store environment store.path

/-! ## The checks -/

namespace SettingsReader

/-- The values of what is logged that are allowed. -/
def logValueChecks (log : LogSettings) : List (Check SettingsFault) := [
  ⟨"log.level", log.level ∈ logLevels.map (·.1), .unknownLevel⟩,
  ⟨"log.dir", isBlankText log.folder = false, .blankLogFolder⟩]

/-- The values of which snapshot is searched that are allowed. -/
def storeValueChecks (environment : Environment) (store : StoreSettings) :
    List (Check SettingsFault) := [
  ⟨"store.path", ∃ path, store.ResolvesTo environment path ∧ isBlankText path = false,
    .blankStorePath⟩]

/-- The values of how the snapshot is searched that are allowed. -/
def searchValueChecks (search : SearchSettings) : List (Check SettingsFault) := [
  ⟨"search.limit", search.limit = -1 ∨ 1 ≤ search.limit, .limitOutOfRange⟩]

/-- The values of where results go that are allowed. -/
def outputValueChecks (output : OutputSettings) : List (Check SettingsFault) := [
  ⟨"output.formats", output.formats ≠ [], .noFormats⟩,
  ⟨"output.formats", ∀ format ∈ output.formats, format ∈ knownFormats,
    .unknownFormats (sortDistinct (output.formats.filter (!knownFormats.contains ·)))⟩,
  ⟨"output.base_dir", "json" ∈ output.formats → isBlankText output.baseFolder = false,
    .blankBaseFolder⟩]

end SettingsReader

/-- What is checked in the settings that were read: that their values are allowed. -/
def Settings.valueChecks (environment : Environment) (settings : Settings) :
    List (Check SettingsFault) :=
  logValueChecks settings.log ++
    (storeValueChecks environment settings.store ++
      (searchValueChecks settings.search ++ outputValueChecks settings.output))

/-! ## The second pass -/

section ResolvedPath

variable {store : StoreSettings} {environment : Environment}

theorem StoreSettings.resolvedPath_of_variable (hname : store.variableName ≠ "") {value : String}
    (hvalue : environment store.variableName = some value) (hblank : trimmed value ≠ "") :
    store.resolvedPath environment = trimmed value := by
  unfold StoreSettings.resolvedPath
  rw [if_neg (mt String.isEmpty_iff.mp hname), hvalue, Option.getD_some]
  exact if_neg (mt String.isEmpty_iff.mp hblank)

theorem StoreSettings.resolvedPath_of_settings
    (hpath : ∀ value, store.variableName ≠ "" →
      environment store.variableName = some value → trimmed value = "") :
    store.resolvedPath environment = store.path := by
  unfold StoreSettings.resolvedPath
  split_ifs with hname
  · rfl
  · have hne := mt String.isEmpty_iff.mpr hname
    cases hvalue : environment store.variableName with
    | none => exact if_pos (by decide)
    | some value => exact if_pos (String.isEmpty_iff.mpr (hpath value hne hvalue))

/-- The path that settings resolve to is the one that is found. -/
theorem StoreSettings.resolvesTo_iff {path : String} :
    store.ResolvesTo environment path ↔ path = store.resolvedPath environment := by
  constructor
  · intro hpath
    cases hpath with
    | fromVariable value hname hvalue hblank =>
        exact (resolvedPath_of_variable hname hvalue hblank).symm
    | fromSettings hpath => exact (resolvedPath_of_settings hpath).symm
  · rintro rfl
    by_cases hpath : ∀ value, store.variableName ≠ "" →
        environment store.variableName = some value → trimmed value = ""
    · rw [resolvedPath_of_settings hpath]
      exact .fromSettings hpath
    · push Not at hpath
      obtain ⟨value, hname, hvalue, hblank⟩ := hpath
      rw [resolvedPath_of_variable hname hvalue hblank]
      exact .fromVariable value hname hvalue hblank

end ResolvedPath

namespace SettingsReader

theorem decided_checkLog (log : LogSettings) :
    Decided (checkLog log) (logValueChecks log) (Decided.Passed (logValueChecks log)) := by
  refine Decided.guard rfl ?_ (Decided.guard rfl ?_ Decided.passed)
  · show log.level ∈ logLevels.map (·.1) ↔ ¬ (logLevels.lookup log.level).isNone = true
    rw [Option.isNone_iff_eq_none, List.lookup_eq_none_iff]
    simp
  · exact Bool.eq_false_iff

theorem decided_checkStore (environment : Environment) (store : StoreSettings) :
    Decided (checkStore environment store) (storeValueChecks environment store)
      (Decided.Passed (storeValueChecks environment store)) := by
  refine Decided.guard rfl ?_ Decided.passed
  simp only [StoreSettings.resolvesTo_iff, exists_eq_left]
  exact Bool.eq_false_iff

theorem decided_checkSearch (search : SearchSettings) :
    Decided (checkSearch search) (searchValueChecks search)
      (Decided.Passed (searchValueChecks search)) := by
  refine Decided.guard rfl ?_ Decided.passed
  show search.limit = -1 ∨ 1 ≤ search.limit ↔ ¬ (search.limit = 0 ∨ search.limit < -1)
  omega

theorem insertDistinct_ne_nil (text : String) (texts : List String) :
    insertDistinct text texts ≠ [] := by
  cases texts with
  | nil => simp [insertDistinct]
  | cons other rest =>
      unfold insertDistinct
      split_ifs <;> simp

theorem sortDistinct_eq_nil_iff {texts : List String} : sortDistinct texts = [] ↔ texts = [] := by
  cases texts with
  | nil => exact iff_of_true rfl rfl
  | cons text texts => exact iff_of_false (insertDistinct_ne_nil text _) (by simp)

theorem decided_checkOutput (output : OutputSettings) :
    Decided (checkOutput output) (outputValueChecks output)
      (Decided.Passed (outputValueChecks output)) := by
  unfold checkOutput outputValueChecks
  refine Decided.guard rfl (by simp) ?_
  have hnone : sortDistinct (output.formats.filter (!knownFormats.contains ·)) = [] ↔
      ∀ format ∈ output.formats, format ∈ knownFormats := by
    simp [sortDistinct_eq_nil_iff]
  split
  · rename_i hunknown
    refine Decided.passed_cons (hnone.mp hunknown) (Decided.guard rfl ?_ Decided.passed)
    simp
  · rename_i hunknown
    exact Decided.not_passed rfl fun hknown => hunknown (hnone.mpr hknown)

end SettingsReader

namespace Settings

/-- Checks the values of the settings that were read. -/
def allow (environment : Environment) (settings : Settings) : Except SettingsFault Unit := do
  checkLog settings.log
  checkStore environment settings.store
  checkSearch settings.search
  checkOutput settings.output

theorem decided_allow (environment : Environment) (settings : Settings) :
    Decided (allow environment settings) (valueChecks environment settings)
      (Decided.Passed (valueChecks environment settings)) := by
  have hsteps :=
    (decided_checkLog settings.log).bind fun _ _ =>
    (decided_checkStore environment settings.store).bind fun _ _ =>
    (decided_checkSearch settings.search).bind fun _ _ =>
    decided_checkOutput settings.output
  refine hsteps.congr fun _ => ?_
  simp only [Decided.Passed, valueChecks, List.forall_mem_append, exists_const]

theorem read_eq_readSections_bind_allow (environment : Environment) (entries : Entries) :
    read environment entries =
      readSections entries >>= fun settings => allow environment settings >>= fun _ => pure settings := by
  unfold read readSections allow
  simp only [bind_assoc, pure_bind]

end Settings

/-! ## Places in messages -/

namespace SettingsReader

variable {Holds : Prop} {place : String}

/-- A message that starts with the place. -/
theorem located_of_append {fault : SettingsFault} (rest : String)
    (hmessage : fault.message = place ++ rest) : Located ⟨place, Holds, fault⟩ :=
  ⟨"", rest, by rw [hmessage, String.empty_append]⟩

theorem located_unknownLevel : Located ⟨"log.level", Holds, .unknownLevel⟩ := by
  have hopening : "log.level must be one of " = "log.level" ++ " must be one of " := by decide
  refine located_of_append (" must be one of " ++ shownNames (logLevels.map (·.1))) ?_
  rw [← String.append_assoc, ← hopening]
  rfl

theorem located_unknownFormats (formats : List String) :
    Located ⟨"output.formats", Holds, .unknownFormats formats⟩ := by
  have hopening : "output.formats has unknown formats: " =
      "output.formats" ++ " has unknown formats: " := by decide
  refine located_of_append (" has unknown formats: " ++ shownNames formats) ?_
  rw [← String.append_assoc, ← hopening]
  rfl

theorem located_valueChecks (environment : Environment) (settings : Settings) :
    ∀ check ∈ Settings.valueChecks environment settings, Located check := by
  refine List.forall_mem_append.mpr ⟨?log, List.forall_mem_append.mpr ⟨?store,
    List.forall_mem_append.mpr ⟨?search, ?output⟩⟩⟩
  case log =>
    exact List.forall_mem_cons.mpr ⟨located_unknownLevel, List.forall_mem_singleton.mpr
      (located_of_append " must not be empty" (by decide))⟩
  case store =>
    exact List.forall_mem_singleton.mpr (located_of_append " must not be empty" (by decide))
  case search =>
    exact List.forall_mem_singleton.mpr (located_of_append " must be -1 or positive" (by decide))
  case output =>
    refine List.forall_mem_cons.mpr
      ⟨located_of_append " must include at least one format" (by decide), ?_⟩
    exact List.forall_mem_cons.mpr ⟨located_unknownFormats _, List.forall_mem_singleton.mpr
      (located_of_append " must not be empty when json output is enabled" (by decide))⟩

end SettingsReader

namespace Settings

/-- **Acceptance of settings.**  The entries are read as exactly the settings that they have, if
the values of these are allowed.  Else the fault is that of the first check of a type or a
missing key that does not hold, and only if all these hold that of the first value that is
not allowed.  Its message names the section or the key. -/
theorem read_acceptance (environment : Environment) (entries : Entries) :
    (∀ settings : Settings, read environment entries = .ok settings ↔
        settings.ReadFrom entries ∧ ∀ check ∈ valueChecks environment settings, check.Holds) ∧
      (∀ fault, read environment entries = .error fault ↔
        FirstBroken (typeChecks entries) fault ∨
          ∃ settings : Settings, settings.ReadFrom entries ∧
            FirstBroken (valueChecks environment settings) fault) ∧
      ((∃ settings : Settings, settings.ReadFrom entries) ↔
        ∀ check ∈ typeChecks entries, check.Holds) ∧
      (∀ check ∈ typeChecks entries, Located check) ∧
      ∀ settings, ∀ check ∈ valueChecks environment settings, Located check := by
  have hsections := decided_readSections entries
  have hallow := decided_allow environment
  rw [read_eq_readSections_bind_allow]
  refine ⟨fun settings => ?_, fun fault => ?_, ?_, located_typeChecks entries,
    located_valueChecks environment⟩
  · rw [bind_eq_ok_iff]
    constructor
    · rintro ⟨found, hfound, hallowed⟩
      obtain ⟨_, hpassed, hsame⟩ := bind_eq_ok_iff.mp hallowed
      cases hsame
      exact ⟨(hsections.ok_iff _).mp hfound, ((hallow _).ok_iff ()).mp hpassed⟩
    · rintro ⟨hread, hpassed⟩
      exact ⟨settings, (hsections.ok_iff _).mpr hread,
        bind_eq_ok_iff.mpr ⟨(), ((hallow settings).ok_iff ()).mpr hpassed, rfl⟩⟩
  · rw [bind_eq_error_iff, hsections.error_iff]
    refine or_congr Iff.rfl (exists_congr fun settings => ?_)
    rw [hsections.ok_iff, bind_eq_error_iff, (hallow settings).error_iff]
    refine and_congr_right fun _ => or_iff_left ?_
    rintro ⟨_, -, ⟨⟩⟩
  · simp only [← hsections.ok_iff]
    exact hsections.exists_ok_iff

end Settings

end TaskQuery
