import Mathlib.Data.List.Nodup
import TaskQuery.Settings.Loader

/-!
# Mappings by their keys

A mapping is a list of entries, and everything that is asked of it goes through its keys: the
value under a key (`Entries.get?`) and the keys in their order (`Entries.keys`).  This file
says what adding an entry does to both, for keys that are strings.

Two scalars may count as the same key without being equal, such as `1` and `true`, but a
string is the same key as itself only (`Scalar.sameKey_string`).  So with strings as keys
looking a key up and comparing keys are the same thing.
-/

namespace TaskQuery

/-- A string is the same key as itself only. -/
theorem Scalar.sameKey_string (scalar : Scalar) (text : String) :
    scalar.sameKey (.string text) = (scalar == .string text) := by
  cases scalar with
  | float value =>
      cases value with
      | finite negative significand exponent valid =>
          exact (beq_false_of_ne (by simp)).symm
      | infinite negative => rfl
      | nan => rfl
  | null => rfl
  | bool value => exact (beq_false_of_ne (by simp)).symm
  | int value => exact (beq_false_of_ne (by simp)).symm
  | string value => rfl
  | bytes content => rfl
  | date value => rfl
  | dateTime value => rfl

namespace Entries

variable {entries : Entries} {key other : String} {value : Value}

/-! ## The value under a key -/

theorem find?_string (entries : Entries) (key : String) :
    find? entries (.string key) = entries.get? key := by
  unfold find? get?
  simp only [Scalar.sameKey_string]

@[simp] theorem get?_nil (key : String) : get? [] key = none :=
  rfl

theorem get?_cons_self (key : String) (value : Value) (entries : Entries) :
    get? ((.string key, value) :: entries) key = some value := by
  unfold get?
  rw [List.find?_cons_of_pos (by simp), Option.map_some]

theorem get?_cons_of_ne {scalar : Scalar} (hne : scalar ≠ .string key) (value : Value)
    (entries : Entries) : get? ((scalar, value) :: entries) key = get? entries key := by
  unfold get?
  rw [List.find?_cons_of_neg (by simpa using hne)]

/-- Adding an entry changes the value under its key only. -/
theorem get?_insert (entries : Entries) (key other : String) (value : Value) :
    get? (insert entries (.string key) value) other =
      if other = key then some value else entries.get? other := by
  induction entries with
  | nil =>
      unfold insert
      by_cases hsame : other = key
      · rw [hsame, get?_cons_self, if_pos rfl]
      · rw [get?_cons_of_ne (by simpa using Ne.symm hsame), if_neg hsame]
  | cons entry rest ih =>
      obtain ⟨scalar, old⟩ := entry
      rw [insert, Scalar.sameKey_string]
      by_cases hfound : scalar = .string key
      · subst hfound
        rw [if_pos (beq_self_eq_true _)]
        by_cases hsame : other = key
        · rw [hsame, get?_cons_self, if_pos rfl]
        · have hne : Scalar.string key ≠ .string other := by simpa using Ne.symm hsame
          rw [get?_cons_of_ne hne, get?_cons_of_ne hne, if_neg hsame]
      · rw [if_neg (by simpa using hfound)]
        by_cases hhead : scalar = .string other
        · -- the key that is looked for stands in front of the place of the new one
          have hsame : other ≠ key := by
            rintro rfl
            exact hfound hhead
          rw [hhead, get?_cons_self, get?_cons_self, if_neg hsame]
        · rw [get?_cons_of_ne hhead, get?_cons_of_ne hhead, ih]

/-! ## The keys in their order -/

/-- The keys of a mapping in their order. -/
def keys (entries : Entries) : List Scalar :=
  entries.map (·.1)

@[simp] theorem keys_nil : keys [] = [] :=
  rfl

@[simp] theorem keys_cons (scalar : Scalar) (value : Value) (entries : Entries) :
    keys ((scalar, value) :: entries) = scalar :: keys entries :=
  rfl

/-- A key that is there already keeps its place, and a new one comes last. -/
theorem keys_insert (entries : Entries) (key : String) (value : Value) :
    keys (insert entries (.string key) value) =
      if .string key ∈ keys entries then keys entries else keys entries ++ [.string key] := by
  induction entries with
  | nil => rfl
  | cons entry rest ih =>
      obtain ⟨scalar, old⟩ := entry
      rw [insert, Scalar.sameKey_string]
      by_cases hfound : scalar = .string key
      · subst hfound
        rw [if_pos (beq_self_eq_true _), keys_cons, keys_cons, if_pos (List.mem_cons_self ..)]
      · have hmem : Scalar.string key ∈ keys ((scalar, old) :: rest) ↔
            Scalar.string key ∈ keys rest := by
          rw [keys_cons, List.mem_cons]
          exact or_iff_right (Ne.symm hfound)
        rw [if_neg (by simpa using hfound), keys_cons, ih]
        by_cases hrest : Scalar.string key ∈ keys rest
        · rw [if_pos hrest, if_pos (hmem.mpr hrest), keys_cons]
        · rw [if_neg hrest, if_neg fun h => hrest (hmem.mp h), keys_cons, List.cons_append]

theorem exists_mem_of_get?_eq_some (hvalue : entries.get? key = some value) :
    ∃ entry ∈ entries, entry.1 = .string key ∧ entry.2 = value := by
  obtain ⟨entry, hentry, hsecond⟩ := Option.map_eq_some_iff.mp hvalue
  exact ⟨entry, List.mem_of_find?_eq_some hentry, by simpa using List.find?_some hentry, hsecond⟩

theorem get?_eq_none_iff : entries.get? key = none ↔ .string key ∉ keys entries := by
  unfold get? keys
  rw [Option.map_eq_none_iff, List.find?_eq_none, List.mem_map, not_exists]
  simp only [beq_iff_eq, not_and]

end Entries

/-! ## Mappings with strings as keys -/

/-- A mapping with strings as keys, none of them twice. -/
def Entries.DistinctStrings (entries : Entries) : Prop :=
  ∃ names : List String, entries.keys = names.map Scalar.string ∧ names.Nodup

theorem Entries.DistinctStrings.cons {scalar : Scalar} {value : Value} {rest : Entries}
    (hdistinct : DistinctStrings ((scalar, value) :: rest)) :
    ∃ name, scalar = .string name ∧ .string name ∉ keys rest ∧ rest.DistinctStrings := by
  obtain ⟨names, hkeys, hnodup⟩ := hdistinct
  rw [keys_cons] at hkeys
  obtain ⟨name, others, rfl, hname, hothers⟩ := List.map_eq_cons_iff.mp hkeys.symm
  obtain ⟨hfresh, hnodup⟩ := List.nodup_cons.mp hnodup
  refine ⟨name, hname.symm, ?_, others, hothers.symm, hnodup⟩
  rw [← hothers]
  simpa using hfresh

theorem Entries.ne_of_mem_of_notMem_keys {entries : Entries} {key : Scalar}
    {entry : Scalar × Value} (hfresh : key ∉ keys entries) (hentry : entry ∈ entries) :
    key ≠ entry.1 := by
  rintro rfl
  exact hfresh (List.mem_map_of_mem hentry)

/-- Every entry is found under its key. -/
theorem Entries.DistinctStrings.exists_get?_eq {entries : Entries} {entry : Scalar × Value}
    (hdistinct : entries.DistinctStrings) (hentry : entry ∈ entries) :
    ∃ name, entry.1 = .string name ∧ entries.get? name = some entry.2 := by
  induction entries with
  | nil => cases hentry
  | cons first rest ih =>
      obtain ⟨scalar, value⟩ := first
      obtain ⟨name, rfl, hfresh, hrest⟩ := hdistinct.cons
      rcases List.mem_cons.mp hentry with rfl | hentry
      · exact ⟨name, rfl, get?_cons_self name value rest⟩
      · obtain ⟨other, hother, hfound⟩ := ih hrest hentry
        have hne : Scalar.string name ≠ .string other :=
          hother ▸ ne_of_mem_of_notMem_keys hfresh hentry
        exact ⟨other, hother, (get?_cons_of_ne hne value rest).trans hfound⟩

/-- A mapping is given by its keys in their order and by what it has under each. -/
theorem Entries.DistinctStrings.eq_of_get?_eq {first second : Entries}
    (hdistinct : first.DistinctStrings) (hkeys : first.keys = second.keys)
    (hget : ∀ key, first.get? key = second.get? key) : first = second := by
  induction first generalizing second with
  | nil => exact (List.map_eq_nil_iff.mp hkeys.symm).symm
  | cons entry rest ih =>
      obtain ⟨scalar, value⟩ := entry
      obtain ⟨name, rfl, hfresh, hrest⟩ := hdistinct.cons
      cases second with
      | nil => cases hkeys
      | cons other tail =>
          obtain ⟨otherKey, otherValue⟩ := other
          obtain ⟨rfl, htail⟩ := List.cons.inj hkeys
          have hlater : .string name ∉ keys tail := by
            rw [keys, ← htail]
            exact hfresh
          have hvalue : value = otherValue := by
            have hname := hget name
            rw [get?_cons_self, get?_cons_self] at hname
            exact Option.some.inj hname
          have hothers : ∀ key, get? rest key = get? tail key := by
            intro key
            by_cases hsame : name = key
            · -- the first key comes in neither of the tails again
              subst hsame
              rw [get?_eq_none_iff.mpr hfresh, get?_eq_none_iff.mpr hlater]
            · have hne : Scalar.string name ≠ .string key := by simpa using hsame
              have hkey := hget key
              rwa [get?_cons_of_ne hne, get?_cons_of_ne hne] at hkey
          rw [hvalue, ih hrest htail hothers]

/-- A value in which every mapping has strings as keys, none of them twice.  No mapping of it
holds itself; what the items of sequences hold does not count. -/
inductive Value.StringKeyed : Value → Prop
  | scalar (value : Scalar) : StringKeyed (.scalar value)
  | sequence (items : List Value) : StringKeyed (.sequence items)
  | collection (text : Option String) (void : Bool) : StringKeyed (.collection text void)
  | mapping {entries : Entries} (hdistinct : entries.DistinctStrings)
      (hvalues : ∀ entry ∈ entries, StringKeyed entry.2) : StringKeyed (.mapping entries)

end TaskQuery
