import Mathlib.Data.List.Forall2
import Mathlib.Tactic.Tauto
import TaskQuery.Proofs.Outcome

/-!
# Checks in their order

Readers of records and settings go through many checks and stop at the first that does not
hold.  To say what such a reader accepts and what it reports, this file separates the two:
the checks are written down in a list, each with its place in the data, its condition and
its fault, and what is read is described by a relation between the data and the result.  An
outcome is *decided* by both if it is a success with exactly the results in the relation,
and reports exactly the fault of the first check that does not hold (`Decided`).

## Strategy

That a reader is decided by its checks follows its steps.  A single check is one case
distinction (`Decided.ofOk`, `Decided.ofError`), one step after another is decided by the
checks of both (`Decided.bind`), and a list of items by the checks of its items
(`Decided.readItems`).
-/

namespace TaskQuery

/-- A condition on some place in the data, and the fault that is reported where it does not
hold. -/
structure Check (ε : Type) where
  place : String
  Holds : Prop
  fault : ε

variable {ε ε' α β : Type}

/-- The same check with its fault reported in another form. -/
def Check.mapFault (f : ε → ε') (check : Check ε) : Check ε' :=
  ⟨check.place, check.Holds, f check.fault⟩

/-- The fault of the first check that does not hold. -/
def FirstBroken (checks : List (Check ε)) (fault : ε) : Prop :=
  ∃ before check after, checks = before ++ check :: after ∧
    (∀ earlier ∈ before, earlier.Holds) ∧ ¬ check.Holds ∧ check.fault = fault

section FirstBroken

variable {check : Check ε} {checks first second : List (Check ε)} {fault : ε}

theorem not_firstBroken_nil : ¬ FirstBroken [] fault := by
  rintro ⟨before, check, after, hnil, -⟩
  simp at hnil

theorem firstBroken_cons_iff : FirstBroken (check :: checks) fault ↔
    ¬ check.Holds ∧ check.fault = fault ∨ check.Holds ∧ FirstBroken checks fault := by
  constructor
  · rintro ⟨before, broken, after, heq, hbefore, hbroken, hfault⟩
    cases before with
    | nil =>
        obtain ⟨rfl, rfl⟩ := List.cons.inj heq
        exact Or.inl ⟨hbroken, hfault⟩
    | cons head before =>
        obtain ⟨rfl, rfl⟩ := List.cons.inj heq
        obtain ⟨hhead, hbefore⟩ := List.forall_mem_cons.mp hbefore
        exact Or.inr ⟨hhead, before, broken, after, rfl, hbefore, hbroken, hfault⟩
  · rintro (⟨hbroken, hfault⟩ | ⟨hholds, before, broken, after, rfl, hbefore, hbroken, hfault⟩)
    · exact ⟨[], check, checks, rfl, List.forall_mem_nil _, hbroken, hfault⟩
    · exact ⟨check :: before, broken, after, rfl,
        List.forall_mem_cons.mpr ⟨hholds, hbefore⟩, hbroken, hfault⟩

theorem firstBroken_append_iff : FirstBroken (first ++ second) fault ↔
    FirstBroken first fault ∨ (∀ check ∈ first, check.Holds) ∧ FirstBroken second fault := by
  induction first with
  | nil => simp [not_firstBroken_nil]
  | cons check first ih =>
      rw [List.cons_append, firstBroken_cons_iff, firstBroken_cons_iff, ih, List.forall_mem_cons]
      tauto

/-- All checks hold or there is a first that does not. -/
theorem forall_holds_iff : (∀ check ∈ checks, check.Holds) ↔
    ∀ fault, ¬ FirstBroken checks fault := by
  induction checks with
  | nil => simp [not_firstBroken_nil]
  | cons check checks ih =>
      rw [List.forall_mem_cons, ih]
      by_cases hholds : check.Holds
      · simp [firstBroken_cons_iff, hholds]
      · simp [firstBroken_cons_iff, hholds]

theorem firstBroken_map_mapFault_iff {f : ε → ε'} {reported : ε'} :
    FirstBroken (checks.map (Check.mapFault f)) reported ↔
      ∃ fault, FirstBroken checks fault ∧ f fault = reported := by
  induction checks with
  | nil => simp [not_firstBroken_nil]
  | cons check checks ih =>
      rw [List.map_cons, firstBroken_cons_iff, ih]
      constructor
      · rintro (⟨hbroken, hfault⟩ | ⟨hholds, fault, hfirst, hfault⟩)
        · exact ⟨check.fault, firstBroken_cons_iff.mpr (Or.inl ⟨hbroken, rfl⟩), hfault⟩
        · exact ⟨fault, firstBroken_cons_iff.mpr (Or.inr ⟨hholds, hfirst⟩), hfault⟩
      · rintro ⟨fault, hfirst, rfl⟩
        rcases firstBroken_cons_iff.mp hfirst with ⟨hbroken, rfl⟩ | ⟨hholds, hlater⟩
        · exact Or.inl ⟨hbroken, rfl⟩
        · exact Or.inr ⟨hholds, fault, hlater, rfl⟩

end FirstBroken

/-! ## Outcomes that checks decide -/

/-- The outcome is a success with exactly the results that stand in the relation, and
reports exactly the fault of the first check that does not hold. -/
structure Decided (outcome : Except ε α) (checks : List (Check ε)) (Result : α → Prop) :
    Prop where
  ok_iff : ∀ value, outcome = .ok value ↔ Result value
  error_iff : ∀ fault, outcome = .error fault ↔ FirstBroken checks fault

namespace Decided

variable {outcome : Except ε α} {checks first second : List (Check ε)} {Result : α → Prop}

/-- There is a success if and only if all checks hold. -/
theorem exists_ok_iff (hdecided : Decided outcome checks Result) :
    (∃ value, outcome = .ok value) ↔ ∀ check ∈ checks, check.Holds := by
  rw [forall_holds_iff]
  simp only [← hdecided.error_iff]
  cases outcome with
  | ok value => simp
  | error fault => simp

theorem congr {Other : α → Prop} (hdecided : Decided outcome checks Result)
    (hresult : ∀ value, Result value ↔ Other value) : Decided outcome checks Other :=
  ⟨fun value => (hdecided.ok_iff value).trans (hresult value), hdecided.error_iff⟩

theorem pure (value : α) : Decided (.ok value : Except ε α) [] (· = value) := by
  constructor
  · intro other
    rw [Except.ok.injEq]
    exact eq_comm
  · intro fault
    exact iff_of_false (by simp) not_firstBroken_nil

/-! ## The first check -/

section First

variable {check : Check ε}

theorem cons_of_holds (hholds : check.Holds) (hdecided : Decided outcome checks Result) :
    Decided outcome (check :: checks) Result := by
  refine ⟨hdecided.ok_iff, fun fault => ?_⟩
  rw [hdecided.error_iff, firstBroken_cons_iff]
  simp [hholds]

theorem cons_of_not_holds {fault : ε} (hfault : check.fault = fault) (hbroken : ¬ check.Holds)
    (hresult : ∀ value, ¬ Result value) :
    Decided (.error fault) (check :: checks) Result := by
  constructor
  · intro value
    exact iff_of_false (by simp) (hresult value)
  · intro found
    rw [firstBroken_cons_iff]
    simp [hbroken, hfault]

end First

/-! A step with one check has a result if and only if the check holds. -/

section One

variable {place : String} {fault : ε}

theorem ofOk {value : α} (hresult : ∀ other, Result other ↔ other = value) :
    Decided (.ok value) [⟨place, ∃ other, Result other, fault⟩] Result := by
  refine cons_of_holds ⟨value, (hresult value).mpr rfl⟩ ?_
  exact (Decided.pure value).congr fun other => (hresult other).symm

theorem ofError {found : ε} (hfault : fault = found) (hresult : ∀ other, ¬ Result other) :
    Decided (.error found) [⟨place, ∃ other, Result other, fault⟩] Result := by
  exact cons_of_not_holds hfault (not_exists.mpr hresult) hresult

end One

/-! ## Steps -/

/-- A step and the steps behind it are decided by the checks of both. -/
theorem bind {Next : α → β → Prop} {next : α → Except ε β}
    (hstep : Decided outcome first Result)
    (hnext : ∀ value, Result value → Decided (next value) second (Next value)) :
    Decided (outcome >>= next) (first ++ second)
      (fun result => ∃ value, Result value ∧ Next value result) := by
  constructor
  · intro result
    rw [bind_eq_ok_iff]
    refine exists_congr fun value => ?_
    rw [hstep.ok_iff]
    exact and_congr_right fun hvalue => (hnext value hvalue).ok_iff result
  · intro fault
    rw [bind_eq_error_iff, firstBroken_append_iff, hstep.error_iff, ← hstep.exists_ok_iff,
      ← exists_and_right]
    refine or_congr Iff.rfl (exists_congr fun value => and_congr_right fun hvalue => ?_)
    exact (hnext value ((hstep.ok_iff value).mp hvalue)).error_iff fault

/-- The first step has one check. -/
theorem bind_cons {check : Check ε} {Next : α → β → Prop} {next : α → Except ε β}
    (hstep : Decided outcome [check] Result)
    (hnext : ∀ value, Result value → Decided (next value) second (Next value)) :
    Decided (outcome >>= next) (check :: second)
      (fun result => ∃ value, Result value ∧ Next value result) :=
  hstep.bind hnext

/-- Faults that are reported in another form are those of the same checks. -/
theorem mapError (hdecided : Decided outcome checks Result) (f : ε → ε') :
    Decided (outcome.mapError f) (checks.map (Check.mapFault f)) Result := by
  constructor
  · intro value
    rw [← hdecided.ok_iff]
    cases outcome <;> simp [Except.mapError]
  · intro reported
    simp only [firstBroken_map_mapFault_iff, ← hdecided.error_iff]
    cases outcome <;> simp [Except.mapError]

/-! ## Checks of what was read before

A reader that only checks has a result, which says nothing, if and only if all checks hold. -/

/-- All of the checks hold. -/
def Passed (checks : List (Check ε)) (_ : Unit) : Prop :=
  ∀ check ∈ checks, check.Holds

section Passed

variable {check : Check ε} {rest : Except ε Unit} {fault : ε}

theorem passed : Decided (.ok () : Except ε Unit) [] (Passed ([] : List (Check ε))) :=
  (Decided.pure ()).congr fun _ => iff_of_true rfl (List.forall_mem_nil _)

theorem passed_cons (hholds : check.Holds) (hrest : Decided rest checks (Passed checks)) :
    Decided rest (check :: checks) (Passed (check :: checks)) := by
  refine cons_of_holds hholds (hrest.congr fun _ => ?_)
  unfold Passed
  rw [List.forall_mem_cons, and_iff_right hholds]

theorem not_passed (hfault : check.fault = fault) (hbroken : ¬ check.Holds) :
    Decided (.error fault) (check :: checks) (Passed (check :: checks)) :=
  cons_of_not_holds hfault hbroken fun _ hall => hbroken (List.forall_mem_cons.mp hall).1

/-- A check that is made before the others. -/
theorem guard {broken : Prop} [Decidable broken] (hfault : check.fault = fault)
    (hcheck : check.Holds ↔ ¬ broken) (hrest : Decided rest checks (Passed checks)) :
    Decided (if broken then .error fault else rest) (check :: checks)
      (Passed (check :: checks)) := by
  by_cases hbroken : broken
  · rw [if_pos hbroken]
    exact not_passed hfault fun hholds => hcheck.mp hholds hbroken
  · rw [if_neg hbroken]
    exact passed_cons (hcheck.mpr hbroken) hrest

end Passed

/-! ## Items -/

/-- The checks of the items of a list, each with its place. -/
def itemChecks (checks : String → Value → List (Check ε)) (place : String) (index : ℕ)
    (items : List Value) : List (Check ε) :=
  (items.zipIdx index).flatMap fun item => checks (Value.itemPlace place item.2) item.1

/-- A list is read item by item, and the first fault is the first fault of the first item
that has one. -/
theorem readItems {checks : String → Value → List (Check ε)} {Means : Value → α → Prop}
    {read : String → Value → Except ε α}
    (hread : ∀ place item, Decided (read place item) (checks place item) (Means item))
    (place : String) (index : ℕ) (items : List Value) :
    Decided (Value.readItems read place index items) (itemChecks checks place index items)
      (List.Forall₂ Means items) := by
  induction items generalizing index with
  | nil => exact (Decided.pure []).congr fun values => List.forall₂_nil_left_iff.symm
  | cons item items ih =>
      have hsteps := (hread (Value.itemPlace place index) item).bind fun value _ =>
        (ih (index + 1)).bind fun values _ => Decided.pure (ε := ε) (value :: values)
      rw [List.append_nil] at hsteps
      refine hsteps.congr fun values => ?_
      constructor
      · rintro ⟨value, hvalue, rest, hrest, rfl⟩
        exact .cons hvalue hrest
      · intro hvalues
        cases hvalues with
        | cons hvalue hrest => exact ⟨_, hvalue, _, hrest, rfl⟩

end Decided

end TaskQuery
