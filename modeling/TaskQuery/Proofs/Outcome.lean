import Mathlib.Data.Nat.Notation
import TaskQuery.Log
import TaskQuery.Value.Basic

/-!
# Steps that can fail

A reader goes through its checks one after the other and stops at the first fault.  It
succeeds if and only if each of its steps does: `bind_eq_ok_iff` takes the first step off.
A list of records is such a sequence of steps, one for each item.

A step that logs nothing may stand in front of one that does.  If it fails, that is the end,
and nothing is logged (`Logged.result_lift_bind`).
-/

namespace TaskQuery

theorem bind_eq_ok_iff {ε α β : Type} {step : Except ε α} {next : α → Except ε β} {result : β} :
    step >>= next = .ok result ↔ ∃ value, step = .ok value ∧ next value = .ok result := by
  constructor
  · intro h
    cases step with
    | error fault => cases h
    | ok value => exact ⟨value, rfl, h⟩
  · rintro ⟨value, rfl, h⟩
    exact h

theorem bind_eq_error_iff {ε α β : Type} {step : Except ε α} {next : α → Except ε β} {fault : ε} :
    step >>= next = .error fault ↔
      step = .error fault ∨ ∃ value, step = .ok value ∧ next value = .error fault := by
  cases step with
  | error found =>
      constructor
      · rintro ⟨⟩
        exact Or.inl rfl
      · rintro (⟨⟨⟩⟩ | ⟨value, ⟨⟩, -⟩)
        rfl
  | ok value =>
      constructor
      · intro h
        exact Or.inr ⟨value, rfl, h⟩
      · rintro (⟨⟨⟩⟩ | ⟨found, ⟨⟩, h⟩)
        exact h

namespace Value

variable {α fault : Type} {read : String → Value → Except fault α} {place : String}

/-- What holds of everything that is read from an item holds of all values of a list. -/
theorem forall_of_readItems {items : List Value} {property : α → Prop}
    (hread : ∀ item ∈ items, ∀ place value, read place item = .ok value → property value)
    {index : ℕ} {values : List α} (hvalues : readItems read place index items = .ok values) :
    ∀ value ∈ values, property value := by
  induction items generalizing index values with
  | nil =>
      cases hvalues
      exact List.forall_mem_nil _
  | cons item items ih =>
      obtain ⟨value, hvalue, hvalues⟩ := bind_eq_ok_iff.mp hvalues
      obtain ⟨rest, hrest, hvalues⟩ := bind_eq_ok_iff.mp hvalues
      cases hvalues
      obtain ⟨hfirst, hlater⟩ := List.forall_mem_cons.mp hread
      exact List.forall_mem_cons.mpr ⟨hfirst _ _ hvalue, ih hlater hrest⟩

/-- A list whose items are read back one by one, as far as `seen` shows, is read back. -/
theorem exists_readItems_map {β : Type} {seen : α → β} {values : List α} {write : α → Value}
    (hread : ∀ value ∈ values, ∀ place,
      ∃ again, read place (write value) = .ok again ∧ seen again = seen value) (index : ℕ) :
    ∃ all, readItems read place index (values.map write) = .ok all ∧
      all.map seen = values.map seen := by
  induction values generalizing index with
  | nil => exact ⟨[], rfl, rfl⟩
  | cons value values ih =>
      obtain ⟨hfirst, hlater⟩ := List.forall_mem_cons.mp hread
      obtain ⟨again, hagain, hseen⟩ := hfirst (itemPlace place index)
      obtain ⟨rest, hrest, hall⟩ := ih hlater (index + 1)
      refine ⟨again :: rest, ?_, by rw [List.map_cons, List.map_cons, hseen, hall]⟩
      exact bind_eq_ok_iff.mpr ⟨again, hagain, bind_eq_ok_iff.mpr ⟨rest, hrest, rfl⟩⟩

end Value

/-! ## Steps that log -/

namespace Logged

variable {fault α β : Type}

theorem result_lift_bind (step : Except fault α) (next : α → Logged fault β) :
    result (liftM step >>= next) =
      match step with
      | .ok value => (next value).result
      | .error found => (.error found, []) := by
  cases step <;> rfl

end Logged

end TaskQuery
