import TaskQuery.Proofs.Settings.Merge
import TaskQuery.Proofs.Settings.SameFile

/-!
# The algebra of layers

Merging layers whose keys are strings has the void layer as its unit on both sides, a layer
that is merged a second time changes nothing, and three layers may be merged in either order
unless a value of the middle one stands between two mappings of the outer ones
(`Entries.merge_algebra`).

## Strategy

A mapping is given by its keys in their order and by the value under each
(`Entries.DistinctStrings.eq_of_get?_eq`), and for a merge both are known from
`TaskQuery.Proofs.Settings.Merge`.  So an equality of merges splits into one of lists of keys,
where nested filters are joined, and one for each key, where at most three values meet.  There
the merge of the three is the induction hypothesis if all are mappings, and otherwise one of
them replaces another.  The only case in which the order matters is a middle value that is no
mapping between two that are (`Value.Shadowed`): merged into the first it hides the mapping
below, while merged with the third it is hidden itself.
-/

namespace TaskQuery

/-! ## Merges keep strings as keys -/

theorem Entries.DistinctStrings.merge {base override : Entries} (hbase : base.DistinctStrings)
    (hoverride : override.DistinctStrings) : (merge base override).DistinctStrings := by
  have hkeys := keys_merge base hoverride
  obtain ⟨names, hnames, hnodup⟩ := hbase
  obtain ⟨more, hmore, hmoreNodup⟩ := hoverride
  have hnew (name : String) : Scalar.string name ∉ names.map Scalar.string ↔ name ∉ names := by
    simp
  refine ⟨names ++ more.filter (· ∉ names), ?_, ?_⟩
  · rw [hkeys, hnames, hmore, List.map_append, List.filter_map]
    simp only [Function.comp_def, hnew]
  · refine List.nodup_append.mpr ⟨hnodup, hmoreNodup.filter _, ?_⟩
    intro name hname other hother
    have hother : other ∉ names := by simpa using (List.mem_filter.mp hother).2
    rintro rfl
    exact hother hname

namespace Value

variable {value old new first second third : Value}

theorem StringKeyed.distinctStrings {entries : Entries}
    (hkeyed : (Value.mapping entries).StringKeyed) : entries.DistinctStrings := by
  cases hkeyed with
  | mapping hdistinct _ => exact hdistinct

theorem StringKeyed.of_get? {entries : Entries} (hkeyed : (Value.mapping entries).StringKeyed)
    {key : String} {value : Value} (hfound : entries.get? key = some value) :
    value.StringKeyed := by
  cases hkeyed with
  | mapping _ hvalues =>
      obtain ⟨entry, hentry, -, rfl⟩ := Entries.exists_mem_of_get?_eq_some hfound
      exact hvalues entry hentry

/-- Induction on what the mappings of a value have under their keys. -/
@[elab_as_elim]
theorem StringKeyed.byKey {motive : ∀ value : Value, value.StringKeyed → Prop}
    (leaf : ∀ value hkeyed, ¬ value.IsMapping → motive value hkeyed)
    (mapping : ∀ (entries : Entries) (hkeyed : (Value.mapping entries).StringKeyed),
      (∀ key value (hfound : entries.get? key = some value),
        motive value (hkeyed.of_get? hfound)) → motive (.mapping entries) hkeyed)
    {value : Value} (hkeyed : value.StringKeyed) : motive value hkeyed := by
  induction hkeyed with
  | scalar | sequence | collection => exact leaf _ _ id
  | mapping hdistinct hvalues ih =>
      refine mapping _ (.mapping hdistinct hvalues) fun key value hfound => ?_
      obtain ⟨entry, hentry, -, rfl⟩ := Entries.exists_mem_of_get?_eq_some hfound
      exact ih entry hentry

end Value

/-! ## The void layer -/

namespace Entries

variable {entries : Entries}

theorem merge_nil (entries : Entries) : merge entries [] = entries := by
  rw [merge]

theorem nil_merge (hdistinct : entries.DistinctStrings) : merge [] entries = entries := by
  have hvoid : DistinctStrings [] := ⟨[], rfl, List.nodup_nil⟩
  apply (hvoid.merge hdistinct).eq_of_get?_eq
  · rw [keys_merge [] hdistinct]
    simp
  · intro key
    rw [get?_merge [] hdistinct, get?_nil]
    cases entries.get? key <;> rfl

/-! ## Three layers -/

/-- The keys of three layers come in the same order, whichever two are merged first. -/
theorem keys_merge_assoc (bottom : Entries) {middle top : Entries}
    (hmiddle : middle.DistinctStrings) (htop : top.DistinctStrings) :
    keys (merge (merge bottom middle) top) = keys (merge bottom (merge middle top)) := by
  rw [keys_merge _ htop, keys_merge _ hmiddle, keys_merge _ (hmiddle.merge htop),
    keys_merge _ htop, List.filter_append, List.filter_filter, List.append_assoc]
  congr 3
  funext key
  -- a key of the middle layer is new or one of the first layer
  by_cases hbottom : key ∈ keys bottom <;> simp [hbottom]

end Entries

namespace Value

variable {old new first second third : Value}

/-- At the end of some path the outer two of three values have mappings and the middle one has a
value that is no mapping. -/
def Shadowed (first second third : Value) : Prop :=
  ∃ path below hidden above, first.at? path = some below ∧ below.IsMapping ∧
    second.at? path = some hidden ∧ ¬ hidden.IsMapping ∧
    third.at? path = some above ∧ above.IsMapping

/-- What shadows under a key shadows. -/
theorem Shadowed.of_get? {bottom middle top : Entries} {key : String}
    (hfirst : bottom.get? key = some first) (hsecond : middle.get? key = some second)
    (hthird : top.get? key = some third) (hshadowed : Shadowed first second third) :
    Shadowed (.mapping bottom) (.mapping middle) (.mapping top) := by
  obtain ⟨path, below, hidden, above, hbelow, hbelowMapping, hhidden, hleaf, habove,
    haboveMapping⟩ := hshadowed
  refine ⟨key :: path, below, hidden, above, ?_, hbelowMapping, ?_, hleaf, ?_, haboveMapping⟩
  · rw [at?_cons, hfirst, Option.bind_some, hbelow]
  · rw [at?_cons, hsecond, Option.bind_some, hhidden]
  · rw [at?_cons, hthird, Option.bind_some, habove]

/-- The values under one key of three layers, if those that there are may be merged in either
order. -/
theorem overlay?_assoc {below middle above : Option Value}
    (hassoc : ∀ first second third, below = some first → middle = some second →
      above = some third → (first.mergeOver second).mergeOver third =
        first.mergeOver (second.mergeOver third)) :
    overlay? (overlay? below middle) above = overlay? below (overlay? middle above) := by
  cases above with
  | none => rfl
  | some third =>
      cases middle with
      | none => cases below <;> rfl
      | some second =>
          cases below with
          | none => rfl
          | some first => exact congrArg some (hassoc first second third rfl rfl rfl)

theorem mergeOver_assoc (hfirst : first.StringKeyed) (hsecond : second.StringKeyed)
    (hthird : third.StringKeyed) (hclear : ¬ Shadowed first second third) :
    (first.mergeOver second).mergeOver third = first.mergeOver (second.mergeOver third) := by
  induction hthird using StringKeyed.byKey generalizing first second with
  | leaf third _ hleaf => simp only [mergeOver_of_not_isMapping hleaf]
  | mapping top htop ih =>
      by_cases hmiddle : second.IsMapping
      · obtain ⟨middle, rfl⟩ := isMapping_iff.mp hmiddle
        by_cases hbottom : first.IsMapping
        · obtain ⟨bottom, rfl⟩ := isMapping_iff.mp hbottom
          have hmiddleDistinct := hsecond.distinctStrings
          have htopDistinct := htop.distinctStrings
          simp only [mergeOver_mapping]
          congr 1
          apply ((hfirst.distinctStrings.merge hmiddleDistinct).merge htopDistinct).eq_of_get?_eq
          · exact Entries.keys_merge_assoc bottom hmiddleDistinct htopDistinct
          · intro key
            rw [Entries.get?_merge _ htopDistinct, Entries.get?_merge _ hmiddleDistinct,
              Entries.get?_merge _ (hmiddleDistinct.merge htopDistinct),
              Entries.get?_merge _ htopDistinct]
            apply overlay?_assoc
            intro below hidden above hbelow hhidden habove
            apply ih key above habove (hfirst.of_get? hbelow) (hsecond.of_get? hhidden)
            intro hshadowed
            exact hclear (hshadowed.of_get? hbelow hhidden habove)
        · simp only [mergeOver_mapping, mergeOver_of_not_isMapping_old hbottom]
      · have hbottom : ¬ first.IsMapping := by
          intro hbottom
          exact hclear ⟨[], first, second, .mapping top, rfl, hbottom, rfl, hmiddle, rfl, trivial⟩
        simp only [mergeOver_of_not_isMapping_old hmiddle, mergeOver_of_not_isMapping_old hbottom]

end Value

/-! ## The laws -/

/-- **The algebra of layers.**  Let the keys of three layers be strings, none of them twice in
one mapping.

* The void layer changes nothing, below or above another one.
* A layer merged into itself is itself.  So a file that is named as both layers may be read
  once: for any reader of YAML and any two files of a tree, the settings or the fault are what
  reading both and merging them ends in, if the mappings in the file of defaults are finite and
  none of them has a key twice.
* A layer that is merged a second time changes nothing.
* Three layers may be merged in either order, the order of keys included, unless at some path
  the outer two have mappings and the middle one a value that is no mapping. -/
theorem Entries.merge_algebra {bottom middle top : Entries}
    (hbottom : (Value.mapping bottom).StringKeyed) (hmiddle : (Value.mapping middle).StringKeyed)
    (htop : (Value.mapping top).StringKeyed) :
    merge bottom [] = bottom ∧ merge [] middle = middle ∧
      merge bottom bottom = bottom ∧
      (∀ readYaml words environment override defaults (tree : Files.FileTree),
        tree.DistinctKeyedAt readYaml defaults →
        (Settings.load readYaml (Files.FileTree.host words environment) override
            defaults).run tree =
          (Settings.loadMerged readYaml (Files.FileTree.host words environment) override
            defaults).run tree) ∧
      merge (merge bottom middle) middle = merge bottom middle ∧
      (¬ Value.Shadowed (.mapping bottom) (.mapping middle) (.mapping top) →
        merge (merge bottom middle) top = merge bottom (merge middle top)) := by
  have hassoc {other : Entries} (hother : (Value.mapping other).StringKeyed)
      (hclear : ¬ Value.Shadowed (.mapping bottom) (.mapping middle) (.mapping other)) :
      merge (merge bottom middle) other = merge bottom (merge middle other) := by
    have hvalues := Value.mergeOver_assoc hbottom hmiddle hother hclear
    simp only [Value.mergeOver_mapping] at hvalues
    exact Value.mapping.inj hvalues
  refine ⟨merge_nil bottom, nil_merge hmiddle.distinctStrings,
    merge_self hbottom.distinctKeyed, ?_, ?_, hassoc htop⟩
  · exact fun readYaml words environment override defaults tree hkeyed =>
      Settings.run_load_eq_run_loadMerged hkeyed words environment override
  · rw [hassoc hmiddle, merge_self hmiddle.distinctKeyed]
    rintro ⟨path, -, hidden, above, -, -, hhidden, hleaf, habove, hmapping⟩
    obtain rfl := Option.some.inj (hhidden.symm.trans habove)
    exact hleaf hmapping

/-- A value that hides a mapping of the first layer, and is itself replaced by null, and a file
that is named as both layers. -/
theorem Entries.exists_merge_algebra :
    ∃ (bottom middle top : Entries) (tree : Files.FileTree) (path : Files.Path),
      (Value.mapping bottom).StringKeyed ∧
      (Value.mapping middle).StringKeyed ∧ (Value.mapping top).StringKeyed ∧
      ¬ Value.Shadowed (.mapping bottom) (.mapping middle) (.mapping top) ∧
      merge (merge bottom middle) top = merge bottom (merge middle top) ∧
      (Value.mapping (merge bottom (merge middle top))).at? ["log", "level"] =
        some (.string "DEBUG") ∧
      (Value.mapping (merge bottom (merge middle top))).at? ["store"] = some .null ∧
      tree.read path = .ok "search: \x7blimit: 5\x7d" ∧ tree.DistinctKeyedAt Yaml.read path ∧
      (Settings.load Yaml.read (Files.FileTree.host (fun _ => "") fun _ => none) path
          path).run tree =
        (Settings.loadMerged Yaml.read (Files.FileTree.host (fun _ => "") fun _ => none) path
          path).run tree := by
  let bottom : Entries := [
    (.string "log", .mapping [(.string "level", .string "INFO"), (.string "dir", .string "log")]),
    (.string "store", .mapping [(.string "path", .string "tasks.json")])]
  let middle : Entries := [
    (.string "store", .string "tasks.yml"),
    (.string "log", .mapping [(.string "level", .string "DEBUG")])]
  let top : Entries := [(.string "store", .null)]
  have hbottom : (Value.mapping bottom).StringKeyed := by
    refine .mapping ⟨["log", "store"], rfl, by decide⟩ ?_
    refine List.forall_mem_cons.mpr ⟨?_, List.forall_mem_singleton.mpr ?_⟩
    · refine .mapping ⟨["level", "dir"], rfl, by decide⟩ ?_
      exact List.forall_mem_cons.mpr ⟨.scalar _, List.forall_mem_singleton.mpr (.scalar _)⟩
    · exact .mapping ⟨["path"], rfl, by decide⟩ (List.forall_mem_singleton.mpr (.scalar _))
  have hmiddle : (Value.mapping middle).StringKeyed := by
    refine .mapping ⟨["store", "log"], rfl, by decide⟩ ?_
    refine List.forall_mem_cons.mpr ⟨.scalar _, List.forall_mem_singleton.mpr ?_⟩
    exact .mapping ⟨["level"], rfl, by decide⟩ (List.forall_mem_singleton.mpr (.scalar _))
  have htop : (Value.mapping top).StringKeyed :=
    .mapping ⟨["store"], rfl, by decide⟩ (List.forall_mem_singleton.mpr (.scalar _))
  have hclear : ¬ Value.Shadowed (.mapping bottom) (.mapping middle) (.mapping top) := by
    rintro ⟨path, -, hidden, above, -, -, hhidden, hleaf, habove, hmapping⟩
    cases path with
    | nil =>
        obtain rfl := Option.some.inj hhidden
        exact hleaf trivial
    | cons key path =>
        -- all that the last layer has under a key is null
        rw [Value.at?_cons] at habove
        by_cases hkey : Scalar.string "store" = .string key
        · obtain rfl := Scalar.string.inj hkey
          have hnull : Value.null.at? path = some above := habove
          cases path with
          | nil =>
              obtain rfl := Option.some.inj hnull
              exact hmapping
          | cons next path =>
              rw [Value.at?_of_not_isMapping id] at hnull
              cases hnull
        · rw [get?_cons_of_ne hkey] at habove
          cases habove
  let path : Files.Path := Files.Path.ofText "settings.yml"
  let tree : Files.FileTree := { files := [(path, "search: \x7blimit: 5\x7d")] }
  have hkeyed : tree.DistinctKeyedAt Yaml.read path := tree.distinctKeyedAt_read path
  obtain ⟨-, -, -, hload, -, hassoc⟩ := merge_algebra hbottom hmiddle htop
  exact ⟨bottom, middle, top, tree, path, hbottom, hmiddle, htop, hclear, hassoc hclear, rfl, rfl,
    by decide +kernel, hkeyed, hload _ _ _ _ _ _ hkeyed⟩

end TaskQuery
