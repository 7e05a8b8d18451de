import TaskQuery.Files.Host
import TaskQuery.Settings.Reader
import TaskQuery.Snapshot.Loader
import TaskQuery.Value.Basic

/-!
# Loading settings

Layers of settings are merged and read from files.
-/

namespace TaskQuery

/-!
## Merging layers of settings

An override is laid over a base.  Where both have a mapping under a key, the two
are merged; everywhere else the value of the override replaces the value of the
base.  Keys of the base keep their places, and new keys follow in the order of the
override.
-/

/-- The value under a key that may be any scalar. -/
def Entries.find? (entries : Entries) (key : Scalar) : Option Value :=
  (List.find? (fun entry => entry.1.sameKey key) entries).map (·.2)

mutual

/-- The value of an override over a value of the base. -/
def Value.mergeOver (old : Value) : Value → Value
  | .mapping overrides =>
    match old with
    | .mapping base => .mapping (Entries.merge base overrides)
    | _ => .mapping overrides
  | .scalar value => .scalar value
  | .sequence items => .sequence items
  | .collection text void => .collection text void
  | .again mapping => .again mapping

/-- The entries of an override over the entries of a base. -/
def Entries.merge (base : Entries) : List (Scalar × Value) → Entries
  | [] => base
  | (key, value) :: overrides =>
    let merged :=
      match Entries.find? base key with
      | some old => Value.mergeOver old value
      | none => value
    Entries.merge (Entries.insert base key merged) overrides

end

/-!
## Loading settings from files

The settings are a layer of defaults and, unless it is the same file, an override
over it.  Both layers are YAML, and a void layer, such as an empty file, says
nothing.  How YAML is read is a parameter, `readYaml`.
-/

open Files

/-- Why files hold no settings. -/
inductive SettingsLoadFault where
  | file (fault : FileFault)
  | yaml (fault : YamlFault)
  | notMapping
  | content (fault : SettingsFault)
deriving DecidableEq

/-- What is wrong, in words. -/
def SettingsLoadFault.message : SettingsLoadFault → String
  | .file fault => fault.words
  | .yaml fault => fault.message
  | .notMapping => "Config root must be a mapping/object"
  | .content fault => fault.message

/-- The entries of one layer. -/
def readLayer (readYaml : YamlReader) (text : List Char) : Except SettingsLoadFault Entries :=
  match readYaml text with
  | .error fault => .error (.yaml fault)
  | .ok value =>
    match value.orEmpty with
    | .mapping entries => .ok entries
    | _ => .error .notMapping

/-- The entries of the layer in a file. -/
def loadLayer {m : Type → Type} [Monad m] (readYaml : YamlReader) (host : Host m) (path : Path) :
    m (Except SettingsLoadFault Entries) := do
  match ← host.readText path with
  | .ok text => pure (readLayer readYaml text)
  | .error fault => pure (.error (.file fault))

/-- The entries of the defaults with the override over them. -/
def loadLayers {m : Type → Type} [Monad m] (readYaml : YamlReader) (host : Host m)
    (override defaults : Path) : m (Except SettingsLoadFault Entries) := do
  match ← loadLayer readYaml host defaults with
  | .error fault => pure (.error fault)
  | .ok base =>
    if override = defaults then pure (.ok base)
    else
      match ← loadLayer readYaml host override with
      | .error fault => pure (.error fault)
      | .ok entries => pure (.ok (Entries.merge base entries))

/-- The name of the environment variable that settings ask for; empty if they ask
for none or cannot be read. -/
def variableIn (entries : Entries) : String :=
  match SettingsReader.readStore entries with
  | .ok store => store.variableName
  | .error _ => ""

/-- The settings in a file of defaults and a file laid over it. -/
def Settings.load {m : Type → Type} [Monad m] (readYaml : YamlReader) (host : Host m)
    (override defaults : Path) : m (Except SettingsLoadFault (Settings × Environment)) := do
  match ← loadLayers readYaml host override defaults with
  | .error fault => pure (.error fault)
  | .ok entries =>
    let value ← host.lookUp (variableIn entries)
    let environment : Environment := fun name => if name = variableIn entries then value else none
    match Settings.read environment entries with
    | .ok settings => pure (.ok (settings, environment))
    | .error fault => pure (.error (.content fault))

end TaskQuery
