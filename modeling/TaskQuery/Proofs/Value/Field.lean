import TaskQuery.Proofs.Check

/-!
# Values under the keys of a record

What stands under a key is there or is missing, null may count as missing, and a value that
is there has to be of some type.  This file says what is read from such a value and which
check decides it.

All checks of types are one: a value has to be what some constructor makes of a content
(`Value.typeCheck`), and the content is what is read.  There is a lemma for each of the
five types that readers ask for.
-/

namespace TaskQuery

/-! ## Null counts as missing -/

namespace Entries

variable {entries : Entries} {key : String}

theorem present?_eq_some_iff {value : Value} :
    entries.present? key = some value ↔ entries.get? key = some value ∧ value ≠ .null := by
  unfold present?
  split
  · rename_i hnull
    rw [hnull]
    refine iff_of_false (by simp) ?_
    rintro ⟨hvalue, hne⟩
    exact hne (Option.some.inj hvalue).symm
  · rename_i hnull
    refine (and_iff_left_of_imp fun hvalue => ?_).symm
    rintro rfl
    exact hnull hvalue

theorem present?_eq_none_iff :
    entries.present? key = none ↔ entries.get? key = none ∨ entries.get? key = some .null := by
  unfold present?
  split
  · rename_i hnull
    exact iff_of_true rfl (Or.inr hnull)
  · rename_i hnull
    exact (or_iff_left hnull).symm

end Entries

/-! ## Values of a type -/

namespace Value

/-- The entries of a mapping; no other value has any. -/
def entries : Value → Entries
  | .mapping entries => entries
  | _ => []

/-- The items of a sequence; no other value has any. -/
def items : Value → List Value
  | .sequence items => items
  | _ => []

/-- The value is what the constructor makes of some content. -/
def typeCheck {α : Type} (make : α → Value) (expected : Expected) (place : String)
    (value : Value) : Check TypeFault :=
  ⟨place, ∃ content, value = make content, ⟨place, expected⟩⟩

/-- The value is a string. -/
def stringCheck : String → Value → Check TypeFault :=
  typeCheck .string .string

/-- The value is a truth value. -/
def boolCheck : String → Value → Check TypeFault :=
  typeCheck (.scalar ∘ .bool) .boolean

/-- The value is a whole number, and no truth value. -/
def intCheck : String → Value → Check TypeFault :=
  typeCheck (.scalar ∘ .int) .integer

/-- The value is a mapping. -/
def objectCheck : String → Value → Check TypeFault :=
  typeCheck .mapping .object

/-- The value is a sequence. -/
def listCheck : String → Value → Check TypeFault :=
  typeCheck .sequence .list

section

variable (place : String) (value : Value)

theorem decided_expectString : Decided (value.expectString place) [stringCheck place value]
    (value = .string ·) := by
  unfold expectString
  split
  · refine .ofOk fun other => ?_
    simp [Value.string, eq_comm]
  · rename_i hother
    exact .ofError rfl hother

theorem decided_expectBool : Decided (value.expectBool place) [boolCheck place value]
    (fun truth => value = .scalar (.bool truth)) := by
  unfold expectBool
  split
  · refine .ofOk fun other => ?_
    simp [eq_comm]
  · rename_i hother
    exact .ofError rfl hother

theorem decided_expectInt : Decided (value.expectInt place) [intCheck place value]
    (fun number => value = .scalar (.int number)) := by
  unfold expectInt
  split
  · refine .ofOk fun other => ?_
    simp [eq_comm]
  · rename_i hother
    exact .ofError rfl hother

theorem decided_expectObject : Decided (value.expectObject place) [objectCheck place value]
    (value = .mapping ·) := by
  unfold expectObject
  split
  · refine .ofOk fun other => ?_
    simp [eq_comm]
  · rename_i hother
    exact .ofError rfl hother

theorem decided_expectList : Decided (value.expectList place) [listCheck place value]
    (value = .sequence ·) := by
  unfold expectList
  split
  · refine .ofOk fun other => ?_
    simp [eq_comm]
  · rename_i hother
    exact .ofError rfl hother

end

end Value

/-! ## Places in messages -/

/-- The name of a place occurs in a text. -/
def Mentions (text place : String) : Prop :=
  ∃ before after, text = before ++ place ++ after

/-- A fault of a type says where it was found. -/
theorem TypeFault.mentions_place (fault : TypeFault) : Mentions fault.message fault.place := by
  refine ⟨"", " must be " ++ fault.expected.phrase, ?_⟩
  rw [TypeFault.message, String.empty_append, String.append_assoc]

end TaskQuery
