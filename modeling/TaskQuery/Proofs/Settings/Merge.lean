import TaskQuery.Proofs.Value.Entries

/-!
# Merging path by path

An override is merged into a base key by key and, where both have mappings, mapping by
mapping.  This file says what that means for a path of keys that leads into the mappings
(`Entries.merge_byPath`): what the override has at the end of the path is in the result, what
only the base has there is kept, and nothing else is in the result.

## Strategy

Following a path through a value ends in one of three ways (`Value.follow`): at a value, at
a mapping without the next key, or at a value that is no mapping while the path goes on.
The way in which it ends in the override decides what the result has at the path, and one
equation says how (`Value.at?_mergeOver`, by induction on the path).  Each step of it is the
same equation for one key, `Entries.get?_merge`, which is proved by induction on the entries
of the override: the keys of the override are distinct, so that each is merged once.
-/

namespace TaskQuery

/-! ## Layers over one another -/

/-- What an override may have, laid over what a base may have. -/
def Value.overlay? : Option Value → Option Value → Option Value
  | found, none => found
  | none, some new => some new
  | some old, some new => some (old.mergeOver new)

/-- Whether a value is a mapping. -/
def Value.IsMapping : Value → Prop
  | .mapping _ => True
  | _ => False

namespace Value

variable {value old new : Value}

theorem isMapping_iff : value.IsMapping ↔ ∃ entries, value = .mapping entries := by
  cases value <;> simp [IsMapping]

theorem mergeOver_mapping (base override : Entries) :
    mergeOver (.mapping base) (.mapping override) = .mapping (Entries.merge base override) := by
  rw [mergeOver]

/-- A value that is no mapping replaces what was there. -/
theorem mergeOver_of_not_isMapping (hnew : ¬ new.IsMapping) : mergeOver old new = new := by
  cases new with
  | scalar | sequence | collection | again => rw [mergeOver]
  | mapping entries => exact absurd trivial hnew

/-- A value that is no mapping is replaced. -/
theorem mergeOver_of_not_isMapping_old (hold : ¬ old.IsMapping) : mergeOver old new = new := by
  cases new with
  | scalar | sequence | collection | again => rw [mergeOver]
  | mapping override =>
      cases old with
      | scalar | sequence | collection | again => rw [mergeOver]; simp
      | mapping base => exact absurd trivial hold

theorem overlay?_of_not_isMapping (hnew : ¬ new.IsMapping) (old : Option Value) :
    overlay? old (some new) = some new := by
  cases old with
  | none => rfl
  | some old => exact congrArg some (mergeOver_of_not_isMapping hnew)

/-- Two mappings become one, so what is no mapping comes from the override unchanged. -/
theorem eq_of_overlay?_eq_some (hvalue : ¬ value.IsMapping) {old : Option Value}
    (hmerged : overlay? old (some new) = some value) : new = value := by
  by_cases hnew : new.IsMapping
  · obtain ⟨override, rfl⟩ := isMapping_iff.mp hnew
    cases old with
    | none => exact Option.some.inj hmerged
    | some old =>
        have hmapping : (old.mergeOver (.mapping override)).IsMapping := by
          by_cases hold : old.IsMapping
          · obtain ⟨base, rfl⟩ := isMapping_iff.mp hold
            rw [mergeOver_mapping]
            trivial
          · rw [mergeOver_of_not_isMapping_old hold]
            trivial
        rw [Option.some.inj hmerged] at hmapping
        exact absurd hmapping hvalue
  · rw [overlay?_of_not_isMapping hnew] at hmerged
    exact Option.some.inj hmerged

end Value

namespace Entries

variable {override : Entries}

/-- The keys of an override are distinct strings, so the value under a key is merged once. -/
theorem get?_merge (base : Entries) (hdistinct : override.DistinctStrings) (key : String) :
    get? (merge base override) key = Value.overlay? (base.get? key) (override.get? key) := by
  induction override generalizing base with
  | nil =>
      rw [merge, get?_nil]
      cases base.get? key <;> rfl
  | cons entry rest ih =>
      obtain ⟨scalar, value⟩ := entry
      obtain ⟨name, rfl, hfresh, hrest⟩ := hdistinct.cons
      rw [merge, ih _ hrest, get?_insert, find?_string]
      by_cases hsame : key = name
      · rw [hsame, if_pos rfl, get?_eq_none_iff.mpr hfresh, get?_cons_self]
        cases base.get? name <;> rfl
      · rw [if_neg hsame, get?_cons_of_ne (by simpa using Ne.symm hsame)]

/-- The keys of the base keep their places, and the new keys of the override follow. -/
theorem keys_merge (base : Entries) (hdistinct : override.DistinctStrings) :
    keys (merge base override) =
      keys base ++ (keys override).filter (fun key => key ∉ keys base) := by
  induction override generalizing base with
  | nil => rw [merge, keys_nil, List.filter_nil, List.append_nil]
  | cons entry rest ih =>
      obtain ⟨scalar, value⟩ := entry
      obtain ⟨name, rfl, hfresh, hrest⟩ := hdistinct.cons
      rw [merge, ih _ hrest, keys_insert, keys_cons]
      by_cases hmem : Scalar.string name ∈ keys base
      · rw [if_pos hmem, List.filter_cons_of_neg (by simpa using hmem)]
      · -- the key just added does not come again
        have hlater : (keys rest).filter (fun key => key ∉ keys base ++ [.string name]) =
            (keys rest).filter (fun key => key ∉ keys base) := by
          apply List.filter_congr
          intro key hkey
          have hne : key ≠ .string name := by
            rintro rfl
            exact hfresh hkey
          simp [hne]
        rw [if_neg hmem, List.filter_cons_of_pos (by simpa using hmem), hlater,
          List.append_assoc, List.singleton_append]

end Entries

/-! ## Paths -/

/-- How following a path through a value ends. -/
inductive Value.Reached where
  /-- At the end of the path. -/
  | value (value : Value)
  /-- At a mapping that does not have the next key. -/
  | noKey
  /-- At a value that is no mapping, with a part of the path left. -/
  | noMapping

namespace Value

/-- Follows a path of keys from mapping to mapping. -/
def follow : Value → List String → Reached
  | value, [] => .value value
  | .mapping entries, key :: path =>
    match Entries.get? entries key with
    | some value => value.follow path
    | none => .noKey
  | _, _ :: _ => .noMapping

/-- The value at the end of a path, if there is one. -/
def at? (value : Value) (path : List String) : Option Value :=
  match value.follow path with
  | .value found => some found
  | _ => none

variable {value found old new : Value} {path : List String}

theorem at?_eq_some_iff : value.at? path = some found ↔ value.follow path = .value found := by
  unfold at?
  cases value.follow path <;> simp

theorem follow_of_not_isMapping (hvalue : ¬ value.IsMapping) (key : String)
    (path : List String) : value.follow (key :: path) = .noMapping := by
  cases value with
  | scalar | sequence | collection | again => rfl
  | mapping entries => exact absurd trivial hvalue

theorem follow_cons_of_get? {entries : Entries} {key : String}
    (hfound : Entries.get? entries key = some found) (path : List String) :
    follow (.mapping entries) (key :: path) = found.follow path := by
  rw [follow, hfound]

theorem follow_cons_of_get?_none {entries : Entries} {key : String}
    (hnone : Entries.get? entries key = none) (path : List String) :
    follow (.mapping entries) (key :: path) = .noKey := by
  rw [follow, hnone]

/-- A path goes on behind a value that is no mapping if a shorter path leads to one. -/
theorem follow_eq_noMapping_iff : value.follow path = .noMapping ↔
    ∃ before key after leaf, path = before ++ key :: after ∧ value.at? before = some leaf ∧
      ¬ leaf.IsMapping := by
  induction path generalizing value with
  | nil => simp [follow]
  | cons key path ih =>
      by_cases hvalue : value.IsMapping
      · obtain ⟨entries, rfl⟩ := isMapping_iff.mp hvalue
        constructor
        · intro hfollow
          cases hchild : Entries.get? entries key with
          | none =>
              rw [follow_cons_of_get?_none hchild] at hfollow
              cases hfollow
          | some child =>
              rw [follow_cons_of_get? hchild] at hfollow
              obtain ⟨before, next, after, leaf, rfl, hleaf, hnot⟩ := ih.mp hfollow
              rw [at?_eq_some_iff, ← follow_cons_of_get? hchild, ← at?_eq_some_iff] at hleaf
              exact ⟨key :: before, next, after, leaf, rfl, hleaf, hnot⟩
        · rintro ⟨before, next, after, leaf, hpath, hleaf, hnot⟩
          cases before with
          | nil =>
              -- the mapping itself is no leaf
              obtain rfl := Option.some.inj hleaf
              exact absurd trivial hnot
          | cons first before =>
              obtain ⟨rfl, rfl⟩ := List.cons.inj hpath
              cases hchild : Entries.get? entries key with
              | none =>
                  rw [at?_eq_some_iff, follow_cons_of_get?_none hchild] at hleaf
                  cases hleaf
              | some child =>
                  rw [at?_eq_some_iff, follow_cons_of_get? hchild, ← at?_eq_some_iff] at hleaf
                  rw [follow_cons_of_get? hchild]
                  exact ih.mpr ⟨before, next, after, leaf, rfl, hleaf, hnot⟩
      · exact iff_of_true (follow_of_not_isMapping hvalue key path)
          ⟨[], key, path, value, rfl, rfl, hvalue⟩

theorem StringKeyed.follow (hkeyed : value.StringKeyed)
    (hfollow : value.follow path = .value found) : found.StringKeyed := by
  induction path generalizing value with
  | nil =>
      obtain rfl := Reached.value.inj hfollow
      exact hkeyed
  | cons key path ih =>
      cases hkeyed with
      | scalar | sequence | collection => cases hfollow
      | @mapping entries hdistinct hvalues =>
          cases hchild : Entries.get? entries key with
          | none =>
              rw [follow_cons_of_get?_none hchild] at hfollow
              cases hfollow
          | some child =>
              rw [follow_cons_of_get? hchild] at hfollow
              obtain ⟨entry, hentry, -, rfl⟩ := Entries.exists_mem_of_get?_eq_some hchild
              exact ih (hvalues entry hentry) hfollow

theorem at?_cons (entries : Entries) (key : String) (path : List String) :
    at? (.mapping entries) (key :: path) =
      (Entries.get? entries key).bind fun child => child.at? path := by
  cases hchild : Entries.get? entries key with
  | none =>
      unfold at?
      rw [follow_cons_of_get?_none hchild]
      rfl
  | some child =>
      unfold at?
      rw [follow_cons_of_get? hchild]
      rfl

theorem at?_of_not_isMapping (hvalue : ¬ value.IsMapping) (key : String) (path : List String) :
    value.at? (key :: path) = none := by
  unfold at?
  rw [follow_of_not_isMapping hvalue]

/-! ## Paths through a merge -/

/-- What a merge has at the end of a path, by what the base has there and how the path ends
in the override. -/
def mergedAt? (old : Option Value) : Reached → Option Value
  | .value new => overlay? old (some new)
  | .noKey => old
  | .noMapping => none

/-- Where the base has nothing, there is what the override has. -/
theorem mergedAt?_none (value : Value) (path : List String) :
    mergedAt? none (value.follow path) = value.at? path := by
  unfold at?
  cases value.follow path <;> rfl

theorem at?_mergeOver (hkeyed : new.StringKeyed) (old : Value) (path : List String) :
    (old.mergeOver new).at? path = mergedAt? (old.at? path) (new.follow path) := by
  induction path generalizing old new with
  | nil => rfl
  | cons key path ih =>
      by_cases hold : old.IsMapping
      · cases hkeyed with
        | scalar | sequence | collection =>
            -- the path goes on, but not in the override, which replaces the base
            rw [mergeOver_of_not_isMapping id]
            rfl
        | @mapping override hdistinct hvalues =>
            obtain ⟨base, rfl⟩ := isMapping_iff.mp hold
            rw [mergeOver_mapping, at?_cons, at?_cons, Entries.get?_merge base hdistinct]
            cases hnew : Entries.get? override key with
            | none =>
                rw [follow_cons_of_get?_none hnew]
                cases Entries.get? base key <;> rfl
            | some child =>
                obtain ⟨entry, hentry, -, rfl⟩ := Entries.exists_mem_of_get?_eq_some hnew
                rw [follow_cons_of_get? hnew]
                cases Entries.get? base key with
                | none => exact (mergedAt?_none _ _).symm
                | some oldChild => exact ih (hvalues entry hentry) oldChild
      · rw [mergeOver_of_not_isMapping_old hold, at?_of_not_isMapping hold, mergedAt?_none]

end Value

/-! ## The laws of a merge -/

/-- **A merge, path by path.**  Let the keys of the override be strings, none of them twice
in one mapping.

* Every value of the override that is no mapping is in the result at the same path.
* A value of the base that is no mapping is kept if the path, followed through the override,
  comes to a mapping without the next key.  Otherwise the override alone decides what is at
  the path: its value there, or nothing if a shorter path leads to one of its values that is
  no mapping.
* Every value of the result that is no mapping is one of the override, or one of the base
  that is kept.
* Where both have mappings, the keys of the base keep their order and the new keys of the
  override follow in theirs. -/
theorem Entries.merge_byPath (base override : Entries)
    (hkeyed : (Value.mapping override).StringKeyed) :
    (∀ path value, ¬ value.IsMapping → (Value.mapping override).at? path = some value →
      (Value.mapping (merge base override)).at? path = some value) ∧
    (∀ path value, ¬ value.IsMapping → (Value.mapping base).at? path = some value →
      ((Value.mapping override).follow path = .noKey →
        (Value.mapping (merge base override)).at? path = some value) ∧
      ((Value.mapping override).follow path ≠ .noKey →
        (Value.mapping (merge base override)).at? path = (Value.mapping override).at? path ∧
        ((Value.mapping override).at? path = none ↔ ∃ before key after leaf,
          path = before ++ key :: after ∧ (Value.mapping override).at? before = some leaf ∧
            ¬ leaf.IsMapping))) ∧
    (∀ path value, ¬ value.IsMapping →
      (Value.mapping (merge base override)).at? path = some value →
      (Value.mapping override).at? path = some value ∨
        (Value.mapping base).at? path = some value ∧
          (Value.mapping override).follow path = .noKey) ∧
    ∀ path (old new : Entries), (Value.mapping base).at? path = some (.mapping old) →
      (Value.mapping override).at? path = some (.mapping new) →
      ∃ both : Entries, (Value.mapping (merge base override)).at? path = some (.mapping both) ∧
        both.keys = old.keys ++ new.keys.filter (fun key => key ∉ old.keys) := by
  have hmerge : ∀ path, (Value.mapping (merge base override)).at? path =
      Value.mergedAt? ((Value.mapping base).at? path) ((Value.mapping override).follow path) := by
    intro path
    rw [← Value.mergeOver_mapping]
    exact Value.at?_mergeOver hkeyed (.mapping base) path
  refine ⟨?_, ?_, ?_, ?_⟩
  · intro path value hvalue hoverride
    rw [hmerge, Value.at?_eq_some_iff.mp hoverride]
    exact Value.overlay?_of_not_isMapping hvalue _
  · intro path value hvalue hbase
    constructor
    · intro hnoKey
      rw [hmerge, hnoKey, hbase]
      rfl
    · intro hkey
      rw [hmerge, hbase, ← Value.follow_eq_noMapping_iff]
      unfold Value.at?
      cases hfollow : (Value.mapping override).follow path with
      | value new =>
          have hnew : Value.mergeOver value new = new :=
            Value.mergeOver_of_not_isMapping_old hvalue
          exact ⟨congrArg some hnew, by simp⟩
      | noKey => exact absurd hfollow hkey
      | noMapping => exact ⟨rfl, by simp⟩
  · intro path value hvalue hmerged
    rw [hmerge] at hmerged
    unfold Value.at?
    cases hfollow : (Value.mapping override).follow path with
    | value new =>
        rw [hfollow] at hmerged
        exact Or.inl (congrArg some (Value.eq_of_overlay?_eq_some hvalue hmerged))
    | noKey =>
        rw [hfollow] at hmerged
        exact Or.inr ⟨hmerged, rfl⟩
    | noMapping =>
        rw [hfollow] at hmerged
        cases hmerged
  · intro path old new hbase hoverride
    have hfollow := Value.at?_eq_some_iff.mp hoverride
    have hdistinct : new.DistinctStrings := by
      cases hkeyed.follow hfollow with
      | mapping hdistinct hvalues => exact hdistinct
    refine ⟨merge old new, ?_, keys_merge old hdistinct⟩
    rw [hmerge, hfollow, hbase, ← Value.mergeOver_mapping]
    rfl

/-- Null replaces a whole mapping, a mapping that lacks a key leaves what the base has under
it, and the new key of a mapping comes last. -/
theorem Entries.exists_merge_byPath :
    ∃ base override : Entries, (Value.mapping override).StringKeyed ∧
      (Value.mapping (merge base override)).at? ["log", "level"] = some (.string "DEBUG") ∧
      (Value.mapping (merge base override)).at? ["log", "to_file"] =
        some (.scalar (.bool true)) ∧
      (Value.mapping (merge base override)).at? ["store", "path"] = none ∧
      ∃ log : Entries, (Value.mapping (merge base override)).at? ["log"] = some (.mapping log) ∧
        log.keys = [.string "level", .string "to_file", .string "dir"] := by
  let base : Entries := [
    (.string "log", .mapping [
      (.string "level", .string "INFO"), (.string "to_file", .scalar (.bool true))]),
    (.string "store", .mapping [(.string "path", .string "tasks.json")])]
  let override : Entries := [
    (.string "store", .null),
    (.string "log", .mapping [
      (.string "dir", .string "logs"), (.string "level", .string "DEBUG")])]
  have hkeyed : (Value.mapping override).StringKeyed := by
    refine .mapping ⟨["store", "log"], rfl, by decide⟩ ?_
    refine List.forall_mem_cons.mpr ⟨.scalar _, List.forall_mem_singleton.mpr ?_⟩
    refine .mapping ⟨["dir", "level"], rfl, by decide⟩ ?_
    exact List.forall_mem_cons.mpr ⟨.scalar _, List.forall_mem_singleton.mpr (.scalar _)⟩
  obtain ⟨hnew, hold, -, hkeys⟩ := merge_byPath base override hkeyed
  obtain ⟨log, hlog, hlogKeys⟩ := hkeys ["log"] _ _ rfl rfl
  refine ⟨base, override, hkeyed, hnew ["log", "level"] _ id rfl,
    (hold ["log", "to_file"] _ id rfl).1 rfl, ?_, log, hlog, hlogKeys.trans (by decide)⟩
  exact ((hold ["store", "path"] _ id rfl).2 (by rintro ⟨⟩)).1

end TaskQuery
