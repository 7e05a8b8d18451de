import TaskQuery.Files.Tree
import TaskQuery.Proofs.Value.DistinctKeys
import TaskQuery.Settings.Loader

/-!
# One file for both layers

When the override is the file of defaults itself, it is not read a second time and nothing is
merged.  This file says that the shortcut does not show (`Settings.run_load_eq_run_loadMerged`):
reading the file twice and merging it into itself would end in the same settings or in the
same fault.

## Strategy

A layer merged into itself is itself (`Entries.merge_self`): every entry that is merged finds
itself in the base, and is merged into itself in turn.  It only takes that the mappings in it
are finite and none of them has a key twice.  The second reading finds what the first one found
because reading a layer leaves the files as they are (`Files.FileTree.exists_loadLayer`).

The reader of YAML is any that decodes the file to such a value
(`Files.FileTree.DistinctKeyedAt`).  Decoding makes mappings entry by entry, so no key is in one
twice, and they are finite unless the file names a mapping inside of itself.
`Files.FileTree.distinctKeyedAt_read` says this of the reader of this program.
-/

namespace TaskQuery

open Files

/-! ## A layer merged into itself -/

/-- Merging entries that the base has changes nothing, if none of them changes when merged into
itself. -/
theorem Entries.DistinctKeys.merge_eq {entries part : Entries} (hdistinct : entries.DistinctKeys)
    (hself : ∀ entry ∈ entries, entry.2.mergeOver entry.2 = entry.2)
    (hpart : ∀ entry ∈ part, entry ∈ entries) : merge entries part = entries := by
  induction part with
  | nil => rw [merge]
  | cons entry part ih =>
      obtain ⟨key, value⟩ := entry
      obtain ⟨hentry, hrest⟩ := List.forall_mem_cons.mp hpart
      have hvalue : value.mergeOver value = value := hself _ hentry
      rw [merge, hdistinct.find?_eq hentry]
      simp only [hvalue, hdistinct.insert_eq hentry]
      exact ih hrest

theorem Value.DistinctKeyed.mergeOver_self {value : Value} (hkeyed : value.DistinctKeyed) :
    value.mergeOver value = value := by
  induction hkeyed with
  | scalar | sequence | collection => rw [mergeOver]
  | mapping hdistinct _ ih =>
      rw [mergeOver, hdistinct.merge_eq ih fun entry hentry => hentry]

theorem Entries.merge_self {entries : Entries} (hkeyed : (Value.mapping entries).DistinctKeyed) :
    merge entries entries = entries := by
  have hself := hkeyed.mergeOver_self
  rw [Value.mergeOver] at hself
  exact Value.mapping.inj hself

/-- A layer is a mapping like the value that was decoded; a void one has no entries. -/
theorem distinctKeyed_of_readLayer {readYaml : YamlReader} {text : List Char}
    (hkeyed : ∀ value, readYaml text = .ok value → value.DistinctKeyed) {entries : Entries}
    (hread : readLayer readYaml text = .ok entries) : (Value.mapping entries).DistinctKeyed := by
  unfold readLayer at hread
  cases hvalue : readYaml text with
  | error fault =>
      rw [hvalue] at hread
      cases hread
  | ok value =>
      have horEmpty : value.orEmpty.DistinctKeyed := by
        unfold Value.orEmpty
        split
        · exact .mapping List.Pairwise.nil fun entry hentry => absurd hentry List.not_mem_nil
        · exact hkeyed value hvalue
      rw [hvalue] at hread
      dsimp only at hread
      split at hread
      · rename_i found hfound
        obtain rfl := Except.ok.inj hread
        rw [← hfound]
        exact horEmpty
      · cases hread

/-! ## The settings with and without the shortcut -/

section Load

variable {m : Type → Type} [Monad m] (readYaml : YamlReader)

/-- The entries of the defaults with the override over them, where both files are read and
merged even if they are the same. -/
def mergedLayers (host : Host m) (override defaults : Path) :
    m (Except SettingsLoadFault Entries) := do
  match ← loadLayer readYaml host defaults with
  | .error fault => pure (.error fault)
  | .ok base =>
    match ← loadLayer readYaml host override with
    | .error fault => pure (.error fault)
    | .ok entries => pure (.ok (Entries.merge base entries))

/-- The settings that layers hold once they are merged. -/
def Settings.ofLayers (host : Host m) :
    Except SettingsLoadFault Entries → m (Except SettingsLoadFault (Settings × Environment))
  | .error fault => pure (.error fault)
  | .ok entries => do
    let value ← host.lookUp (variableIn entries)
    let environment : Environment := fun name => if name = variableIn entries then value else none
    match Settings.read environment entries with
    | .ok settings => pure (.ok (settings, environment))
    | .error fault => pure (.error (.content fault))

/-- The settings in a file of defaults and a file laid over it, without the shortcut for one
file as both. -/
def Settings.loadMerged (host : Host m) (override defaults : Path) :
    m (Except SettingsLoadFault (Settings × Environment)) := do
  Settings.ofLayers host (← mergedLayers readYaml host override defaults)

theorem Settings.load_eq_bind (host : Host m) (override defaults : Path) :
    Settings.load readYaml host override defaults =
      loadLayers readYaml host override defaults >>= Settings.ofLayers host := by
  unfold Settings.load
  congr 1

end Load

namespace Files.FileTree

/-- What a reader of YAML finds in a file has finite mappings only, and no key twice in one of
them. -/
def DistinctKeyedAt (readYaml : YamlReader) (tree : FileTree) (path : Path) : Prop :=
  ∀ text value, tree.read path = .ok text →
    readYaml (Text.unifyLineEnds text.toList) = .ok value → value.DistinctKeyed

/-- The reader of this program finds no other values, whatever stands in the file. -/
theorem distinctKeyedAt_read (tree : FileTree) (path : Path) :
    tree.DistinctKeyedAt Yaml.read path :=
  fun _ _ _ hread => Yaml.distinctKeyed_of_read hread

variable {readYaml : YamlReader} {tree : FileTree} {path : Path}

/-- Reading a file of a tree leaves the tree as it is. -/
theorem exists_readText (words : FileProblem → String) (environment : String → Option String)
    (path : Path) (tree : FileTree) :
    ∃ found, (host words environment).readText path tree = (found, tree) ∧
      ∀ chars, found = .ok chars →
        ∃ text, tree.read path = .ok text ∧ chars = Text.unifyLineEnds text.toList := by
  unfold host Host.refusingNull
  dsimp only
  split
  · exact ⟨_, rfl, fun chars hchars => by cases hchars⟩
  · simp only [bind, StateT.bind, get, getThe, MonadStateOf.get, StateT.get, pure]
    cases tree.read path with
    | error problem => exact ⟨_, rfl, fun chars hchars => by cases hchars⟩
    | ok text => exact ⟨_, rfl, fun chars hchars => ⟨text, rfl, (Except.ok.inj hchars).symm⟩⟩

/-- Reading a layer leaves the tree as it is. -/
theorem exists_loadLayer (hkeyed : tree.DistinctKeyedAt readYaml path)
    (words : FileProblem → String) (environment : String → Option String) :
    ∃ layer, loadLayer readYaml (host words environment) path tree = (layer, tree) ∧
      ∀ entries, layer = .ok entries → (Value.mapping entries).DistinctKeyed := by
  obtain ⟨found, hfound, hchars⟩ := exists_readText words environment path tree
  unfold loadLayer
  simp only [bind, StateT.bind, hfound]
  cases found with
  | error fault => exact ⟨.error (.file fault), rfl, fun entries hread => by cases hread⟩
  | ok chars =>
      obtain ⟨text, htext, rfl⟩ := hchars chars rfl
      exact ⟨readLayer readYaml _, rfl, fun entries hread =>
        distinctKeyed_of_readLayer (fun value => hkeyed text value htext) hread⟩

theorem loadLayers_eq_mergedLayers (hkeyed : tree.DistinctKeyedAt readYaml path)
    (words : FileProblem → String) (environment : String → Option String) (override : Path) :
    loadLayers readYaml (host words environment) override path tree =
      mergedLayers readYaml (host words environment) override path tree := by
  unfold loadLayers mergedLayers
  obtain ⟨layer, hlayer, hentries⟩ := exists_loadLayer hkeyed words environment
  simp only [bind, StateT.bind, hlayer]
  cases layer with
  | error fault => rfl
  | ok base =>
      by_cases hsame : override = path
      · subst hsame
        have hself : Entries.merge base base = base := Entries.merge_self (hentries base rfl)
        simp only [↓reduceIte, StateT.bind, hlayer]
        show (Except.ok base, tree) = (Except.ok (Entries.merge base base), tree)
        rw [hself]
      · exact congrFun (if_neg hsame) tree

end Files.FileTree

/-- Settings are what merging the two layers gives, even if both are the same file. -/
theorem Settings.run_load_eq_run_loadMerged {readYaml : YamlReader} {tree : FileTree}
    {defaults : Path} (hkeyed : tree.DistinctKeyedAt readYaml defaults)
    (words : FileProblem → String) (environment : String → Option String) (override : Path) :
    (Settings.load readYaml (FileTree.host words environment) override defaults).run tree =
      (Settings.loadMerged readYaml (FileTree.host words environment) override
        defaults).run tree := by
  rw [Settings.load_eq_bind, StateT.run_bind, StateT.run,
    FileTree.loadLayers_eq_mergedLayers hkeyed]
  rfl

end TaskQuery
