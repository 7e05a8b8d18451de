import TaskQuery.Proofs.Value.Entries
import TaskQuery.Yaml.Reader

/-!
# Mappings that have no key twice

A mapping built by adding entries one at a time has no key twice, whatever kind of scalars its
keys are (`Entries.distinctKeys_ofList`), and so has every mapping in a decoded YAML text
(`Yaml.distinctKeyed_of_read`).  In such a mapping looking up the key of an entry finds this
very entry, and adding the entry again changes nothing.
-/

namespace TaskQuery

/-- A scalar is the same key as itself, not-a-number included. -/
theorem Scalar.sameKey_self (scalar : Scalar) : scalar.sameKey scalar = true := by
  unfold sameKey
  cases scalar.keyNumber? with
  | some number => simp
  | none =>
      cases scalar with
      | dateTime moment => cases hoffset : moment.offset <;> simp [hoffset]
      | _ => simp

namespace Entries

/-- No two entries have the same key. -/
def DistinctKeys (entries : Entries) : Prop :=
  entries.Pairwise fun earlier later => earlier.1.sameKey later.1 = false

variable {entries : Entries} {key : Scalar} {value : Value}

theorem DistinctStrings.distinctKeys (hdistinct : entries.DistinctStrings) :
    entries.DistinctKeys := by
  induction entries with
  | nil => exact List.Pairwise.nil
  | cons entry rest ih =>
      obtain ⟨scalar, value⟩ := entry
      obtain ⟨name, rfl, hfresh, hrest⟩ := hdistinct.cons
      refine List.Pairwise.cons (fun later hlater => ?_) (ih hrest)
      obtain ⟨other, hother, -⟩ := hrest.exists_get?_eq hlater
      have hne : Scalar.string name ≠ .string other :=
        hother ▸ ne_of_mem_of_notMem_keys hfresh hlater
      show Scalar.sameKey (.string name) later.1 = false
      rw [hother, Scalar.sameKey_string]
      exact beq_false_of_ne hne

/-! ## Looking up and adding an entry that is there -/

theorem DistinctKeys.find?_eq (hdistinct : entries.DistinctKeys) (hmem : (key, value) ∈ entries) :
    find? entries key = some value := by
  induction hdistinct with
  | nil => cases hmem
  | @cons entry rest hhead _ ih =>
      unfold find? at ih ⊢
      rcases List.mem_cons.mp hmem with rfl | hrest
      · simp only [List.find?_cons, Scalar.sameKey_self, Option.map_some]
      · rw [List.find?_cons_of_neg (by simp [hhead _ hrest]), ih hrest]

theorem DistinctKeys.insert_eq (hdistinct : entries.DistinctKeys)
    (hmem : (key, value) ∈ entries) : insert entries key value = entries := by
  induction hdistinct with
  | nil => cases hmem
  | @cons entry rest hhead _ ih =>
      obtain ⟨other, old⟩ := entry
      rcases List.mem_cons.mp hmem with hsame | hrest
      · obtain ⟨rfl, rfl⟩ := Prod.mk.inj hsame
        rw [insert, if_pos (Scalar.sameKey_self _)]
      · rw [insert, if_neg (by simp [hhead _ hrest]), ih hrest]

/-! ## Mappings built entry by entry -/

/-- An entry of a mapping to which one was added was there, or it has the new value under a key
that was there or is new. -/
theorem mem_of_mem_insert {entry : Scalar × Value} (hentry : entry ∈ insert entries key value) :
    entry ∈ entries ∨ entry.2 = value ∧ (entry.1 ∈ keys entries ∨ entry.1 = key) := by
  induction entries with
  | nil =>
      obtain rfl := List.mem_singleton.mp hentry
      exact Or.inr ⟨rfl, Or.inr rfl⟩
  | cons first rest ih =>
      obtain ⟨other, old⟩ := first
      rw [insert] at hentry
      split at hentry
      · rcases List.mem_cons.mp hentry with rfl | hrest
        · exact Or.inr ⟨rfl, Or.inl (List.mem_cons_self ..)⟩
        · exact Or.inl (List.mem_cons_of_mem _ hrest)
      · rcases List.mem_cons.mp hentry with rfl | hrest
        · exact Or.inl (List.mem_cons_self ..)
        · rcases ih hrest with hold | ⟨hvalue, hkey | hkey⟩
          · exact Or.inl (List.mem_cons_of_mem _ hold)
          · exact Or.inr ⟨hvalue, Or.inl (List.mem_cons_of_mem _ hkey)⟩
          · exact Or.inr ⟨hvalue, Or.inr hkey⟩

theorem DistinctKeys.insert (hdistinct : entries.DistinctKeys) (key : Scalar) (value : Value) :
    (insert entries key value).DistinctKeys := by
  induction hdistinct with
  | nil => exact List.pairwise_singleton _ _
  | @cons entry rest hhead hrest ih =>
      obtain ⟨other, old⟩ := entry
      rw [Entries.insert]
      split
      · exact List.Pairwise.cons hhead hrest
      · rename_i hnew
        refine List.Pairwise.cons (fun later hlater => ?_) ih
        rcases mem_of_mem_insert hlater with hold | ⟨-, hkey | hkey⟩
        · exact hhead later hold
        · obtain ⟨same, hsame, hsameKey⟩ := List.mem_map.mp hkey
          rw [← hsameKey]
          exact hhead same hsame
        · rw [hkey]
          simpa using hnew

theorem distinctKeys_ofList (list : List (Scalar × Value)) : (ofList list).DistinctKeys := by
  suffices hfold : ∀ found : Entries, found.DistinctKeys →
      (list.foldl (fun found entry => insert found entry.1 entry.2) found).DistinctKeys by
    exact hfold [] List.Pairwise.nil
  induction list with
  | nil => exact fun found hfound => hfound
  | cons entry list ih => exact fun found hfound => ih _ (hfound.insert entry.1 entry.2)

/-- Building a mapping invents no values. -/
theorem exists_of_mem_ofList {list : List (Scalar × Value)} {entry : Scalar × Value}
    (hentry : entry ∈ ofList list) : ∃ given ∈ list, given.2 = entry.2 := by
  suffices hfold : ∀ found : Entries,
      entry ∈ list.foldl (fun found given => insert found given.1 given.2) found →
        entry ∈ found ∨ ∃ given ∈ list, given.2 = entry.2 by
    exact (hfold [] hentry).resolve_left List.not_mem_nil
  clear hentry
  induction list with
  | nil => exact fun found hfound => Or.inl hfound
  | cons first list ih =>
      intro found hfound
      rcases ih _ hfound with hinserted | ⟨given, hgiven, hvalue⟩
      · rcases mem_of_mem_insert hinserted with hold | ⟨hvalue, -⟩
        · exact Or.inl hold
        · exact Or.inr ⟨first, List.mem_cons_self .., hvalue.symm⟩
      · exact Or.inr ⟨given, List.mem_cons_of_mem _ hgiven, hvalue⟩

end Entries

/-! ## Values -/

/-- A value in which no mapping has a key twice or holds itself.  Items of sequences do not
count: a sequence is never looked into. -/
inductive Value.DistinctKeyed : Value → Prop
  | scalar (value : Scalar) : DistinctKeyed (.scalar value)
  | sequence (items : List Value) : DistinctKeyed (.sequence items)
  | collection (text : Option String) (void : Bool) : DistinctKeyed (.collection text void)
  | mapping {entries : Entries} (hdistinct : entries.DistinctKeys)
      (hvalues : ∀ entry ∈ entries, DistinctKeyed entry.2) : DistinctKeyed (.mapping entries)

theorem Value.StringKeyed.distinctKeyed {value : Value} (hkeyed : value.StringKeyed) :
    value.DistinctKeyed := by
  induction hkeyed with
  | scalar value => exact .scalar value
  | sequence items => exact .sequence items
  | collection text void => exact .collection text void
  | mapping hdistinct _ ih => exact .mapping hdistinct.distinctKeys ih

namespace Yaml

mutual

theorem Node.distinctKeyed_value : ∀ node : Node, node.value.DistinctKeyed
  | .scalar _ _ => by
      rw [Node.value]
      exact .scalar _
  | .sequence _ => by
      rw [Node.value]
      exact .sequence _
  | .mapping entries => by
      rw [Node.value]
      refine .mapping (Entries.distinctKeys_ofList _) fun entry hentry => ?_
      obtain ⟨given, hgiven, hvalue⟩ := Entries.exists_of_mem_ofList hentry
      rw [← hvalue]
      exact Node.distinctKeyed_entryValues entries given hgiven

theorem Node.distinctKeyed_entryValues : ∀ entries : List (Node × Node),
    ∀ entry ∈ Node.entryValues entries, entry.2.DistinctKeyed
  | [] => by simp [Node.entryValues]
  | (_, item) :: entries => by
      rw [Node.entryValues]
      exact List.forall_mem_cons.mpr
        ⟨Node.distinctKeyed_value item, Node.distinctKeyed_entryValues entries⟩

end

/-- No mapping in a decoded text has a key twice. -/
theorem distinctKeyed_of_read {text : List Char} {value : Value} (hread : read text = .ok value) :
    value.DistinctKeyed := by
  unfold read at hread
  split at hread
  · cases hread
  · rename_i node _
    unfold Node.toValue at hread
    split at hread
    · cases hread
    · obtain rfl := Except.ok.inj hread
      exact node.distinctKeyed_value

end Yaml

end TaskQuery
