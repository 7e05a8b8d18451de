import Mathlib.Data.List.Induction
import TaskQuery.Match

/-!
# The terms of a query are folded from left to right

`satisfiesTerms` keeps two results, the one so far and the one of an open group of
alternatives.  This file shows that they never hold more than one bit between them:
while a group is open the other result is `true` (`Tally.Settled`), so closing the group
gives the group's own result back.  Reading the terms is therefore the plain left fold
`foldTerms` that starts from `true` and takes each term by its operator
(`satisfiesTerms_eq_foldTerms`), and `OR` does not bind less tightly than `AND`.

The fold has a closed form (`foldTerms_eq_true_iff`).  The result is `true` at the end if it
was made true somewhere, at the start or by an `OR` term that hits, and no later term
took that back.  The induction is from the right end, where the last term decides.
-/

namespace TaskQuery

/-! ## The plain fold -/

/-- What a term makes of the result so far, by its operator and whether it hits. -/
def Operator.combine (operator : Operator) (result hit : Bool) : Bool :=
  match operator with
  | .and => result && hit
  | .or => result || hit
  | .not => result && !hit

/-- The result of a list of terms, taken one by one from the left. -/
def foldTerms (terms : List Term) (entries : List (List Char)) (result : Bool) : Bool :=
  terms.foldl (fun result term => term.operator.combine result (term.hits entries)) result

theorem foldTerms_concat (terms : List Term) (term : Term) (entries : List (List Char))
    (result : Bool) :
    foldTerms (terms ++ [term]) entries result =
      term.operator.combine (foldTerms terms entries result) (term.hits entries) := by
  rw [foldTerms, List.foldl_append]
  rfl

/-! ## The tally carries one bit -/

namespace Tally

/-- While a group is open, the result beside it is `true`. -/
def Settled (tally : Tally) : Prop :=
  tally.openGroup.isSome = true → tally.result = true

theorem settled_start : Settled {} := by
  intro hopen
  simp at hopen

/-- What closing gives is the result of the open group, if there is one. -/
theorem Settled.close_eq {tally : Tally} (hsettled : tally.Settled) :
    tally.close = tally.openGroup.getD tally.result := by
  unfold close
  cases hgroup : tally.openGroup with
  | none => rfl
  | some group =>
      have hresult : tally.result = true := hsettled (by rw [hgroup]; rfl)
      rw [hresult]
      rfl

theorem settled_step {tally : Tally} (hsettled : tally.Settled) (operator : Operator)
    (hit : Bool) : (tally.step operator hit).Settled := by
  intro hopen
  cases operator with
  | and => simp [step] at hopen
  | not => simp [step] at hopen
  | or =>
      unfold step
      cases hgroup : tally.openGroup with
      | none => rfl
      | some group => exact hsettled (by rw [hgroup]; rfl)

/-- One term changes what closing gives as the plain fold does. -/
theorem close_step {tally : Tally} (hsettled : tally.Settled) (operator : Operator) (hit : Bool) :
    (tally.step operator hit).close = operator.combine tally.close hit := by
  cases operator with
  | and => rfl
  | not => rfl
  | or =>
      -- an open group is the result of the fold, and without one the result is
      rw [(settled_step hsettled .or hit).close_eq, hsettled.close_eq]
      unfold step
      cases tally.openGroup <;> rfl

theorem close_foldl (terms : List Term) (entries : List (List Char)) {tally : Tally}
    (hsettled : tally.Settled) :
    (terms.foldl (fun tally term => tally.step term.operator (term.hits entries)) tally).close =
      foldTerms terms entries tally.close := by
  induction terms generalizing tally with
  | nil => rfl
  | cons term terms ih =>
      rw [List.foldl_cons, ih (settled_step hsettled _ _), close_step hsettled]
      rfl

end Tally

/-- The two results of the tally amount to the plain fold. -/
theorem satisfiesTerms_eq_foldTerms (terms : List Term) (entries : List (List Char)) :
    satisfiesTerms terms entries = foldTerms terms entries true :=
  Tally.close_foldl terms entries Tally.settled_start

/-! ## The closed form -/

/-- A term that does not take a true result back: an `AND` term that hits, a `NOT` term
that does not, or any `OR` term. -/
def Term.Upholds (term : Term) (entries : List (List Char)) : Prop :=
  (term.operator = .and → term.hits entries = true) ∧
    (term.operator = .not → term.hits entries = false)

/-- The result is made true after the first `position` terms: before the first term, or
by an `OR` term that hits. -/
def MadeTrueAt (terms : List Term) (entries : List (List Char)) (position : ℕ) : Prop :=
  position = 0 ∨ ∃ index term, position = index + 1 ∧ terms[index]? = some term ∧
    term.operator = .or ∧ term.hits entries = true

/-- A place where the result is made true and after which no term takes it back. -/
def TrueFrom (terms : List Term) (entries : List (List Char)) (position : ℕ) : Prop :=
  MadeTrueAt terms entries position ∧ ∀ term ∈ terms.drop position, term.Upholds entries

theorem Term.combine_true_of_upholds {term : Term} {entries : List (List Char)}
    (hupholds : term.Upholds entries) :
    term.operator.combine true (term.hits entries) = true := by
  cases hoperator : term.operator with
  | and => exact hupholds.1 hoperator
  | or => rfl
  | not =>
      rw [hupholds.2 hoperator]
      rfl

/-- A term leaves the result true in two ways only. -/
theorem Term.combine_eq_true {term : Term} {entries : List (List Char)} {result : Bool}
    (htrue : term.operator.combine result (term.hits entries) = true) :
    (result = true ∧ term.Upholds entries) ∨
      (term.operator = .or ∧ term.hits entries = true) := by
  unfold Term.Upholds
  cases hoperator : term.operator with
  | and => simp_all [Operator.combine]
  | or =>
      rw [hoperator] at htrue
      rcases Bool.or_eq_true_iff.mp htrue with hresult | hhit
      · exact Or.inl ⟨hresult, by simp, by simp⟩
      · exact Or.inr ⟨rfl, hhit⟩
  | not => simp_all [Operator.combine]

theorem MadeTrueAt.le_length {terms : List Term} {entries : List (List Char)} {position : ℕ}
    (hmade : MadeTrueAt terms entries position) : position ≤ terms.length := by
  rcases hmade with rfl | ⟨index, found, rfl, hfound, -⟩
  · exact Nat.zero_le _
  · exact (List.getElem?_eq_some_iff.mp hfound).1

/-- One more term at the end adds one more place at most, behind itself. -/
theorem madeTrueAt_concat_iff {terms : List Term} {term : Term} {entries : List (List Char)}
    {position : ℕ} :
    MadeTrueAt (terms ++ [term]) entries position ↔ MadeTrueAt terms entries position ∨
      position = terms.length + 1 ∧ term.operator = .or ∧ term.hits entries = true := by
  constructor
  · rintro (rfl | ⟨index, found, rfl, hfound, hor, hhit⟩)
    · exact Or.inl (Or.inl rfl)
    · rcases Nat.lt_or_ge index terms.length with hlt | hge
      · rw [List.getElem?_append_left hlt] at hfound
        exact Or.inl (Or.inr ⟨index, found, rfl, hfound, hor, hhit⟩)
      · have hindex : index < (terms ++ [term]).length := (List.getElem?_eq_some_iff.mp hfound).1
        have hlast : index = terms.length := by
          rw [List.length_append, List.length_singleton] at hindex
          omega
        rw [hlast, List.getElem?_concat_length] at hfound
        obtain rfl : term = found := Option.some.inj hfound
        exact Or.inr ⟨by rw [hlast], hor, hhit⟩
  · rintro ((rfl | ⟨index, found, rfl, hfound, hor, hhit⟩) | ⟨rfl, hor, hhit⟩)
    · exact Or.inl rfl
    · have hlt : index < terms.length := (List.getElem?_eq_some_iff.mp hfound).1
      exact Or.inr ⟨index, found, rfl, by rw [List.getElem?_append_left hlt, hfound], hor, hhit⟩
    · exact Or.inr ⟨terms.length, term, rfl, List.getElem?_concat_length, hor, hhit⟩

/-- A place inside the terms stays one behind which nothing is taken back, if the term
added at the end takes nothing back. -/
theorem trueFrom_concat_iff {terms : List Term} {term : Term} {entries : List (List Char)}
    {position : ℕ} (hle : position ≤ terms.length) :
    TrueFrom (terms ++ [term]) entries position ↔
      TrueFrom terms entries position ∧ term.Upholds entries := by
  have hmade : MadeTrueAt (terms ++ [term]) entries position ↔ MadeTrueAt terms entries position := by
    rw [madeTrueAt_concat_iff]
    exact or_iff_left fun hlast => by omega
  rw [TrueFrom, TrueFrom, hmade, List.drop_append_of_le_length hle, List.forall_mem_append,
    List.forall_mem_singleton, and_assoc]

/-- The result of the fold is true exactly if some place makes it true for good. -/
theorem foldTerms_eq_true_iff (terms : List Term) (entries : List (List Char)) :
    foldTerms terms entries true = true ↔ ∃ position, TrueFrom terms entries position := by
  induction terms using List.reverseRecOn with
  | nil => exact ⟨fun _ => ⟨0, Or.inl rfl, by simp⟩, fun _ => rfl⟩
  | append_singleton terms term ih =>
      rw [foldTerms_concat]
      constructor
      · intro htrue
        rcases Term.combine_eq_true htrue with ⟨hresult, hupholds⟩ | ⟨hor, hhit⟩
        · obtain ⟨position, htrue⟩ := ih.mp hresult
          exact ⟨position, (trueFrom_concat_iff htrue.1.le_length).mpr ⟨htrue, hupholds⟩⟩
        · -- made true by the last term, behind which there is none
          refine ⟨terms.length + 1, madeTrueAt_concat_iff.mpr (Or.inr ⟨rfl, hor, hhit⟩), ?_⟩
          rw [List.drop_of_length_le (by simp)]
          simp
      · rintro ⟨position, htrue⟩
        rcases madeTrueAt_concat_iff.mp htrue.1 with hmade | ⟨-, hor, hhit⟩
        · obtain ⟨htrue, hupholds⟩ := (trueFrom_concat_iff hmade.le_length).mp htrue
          rw [ih.mpr ⟨position, htrue⟩]
          exact Term.combine_true_of_upholds hupholds
        · rw [hor, hhit]
          exact Bool.or_true _

/-! ## How a task is judged -/

/-- `a b OR c d` as a list of terms. -/
def alternativeBetween (a b c d : Term) : List Term :=
  [{ a with operator := .and }, { b with operator := .and }, { c with operator := .or },
    { d with operator := .and }]

/-- The grouping by which `AND` would bind more tightly than `OR` is not the one that is
computed: a task with both words in front of `OR` and without the last one tells the two
apart. -/
theorem exists_grouping_ne (sections : List Section) :
    ∃ (task : Task) (a b c d : Term),
      satisfiesTerms (alternativeBetween a b c d) (task.searchText sections) ≠
        ((a.hits (task.searchText sections) && b.hits (task.searchText sections)) ||
          (c.hits (task.searchText sections) && d.hits (task.searchText sections))) := by
  let task : Task := { id := "t", title := "alpha bravo" }
  have hentries : task.searchText sections = task.searchText [] := rfl
  refine ⟨task, { text := "alpha" }, { text := "bravo" }, { text := "charlie" },
    { text := "delta" }, ?_⟩
  rw [hentries]
  decide +kernel

/-- **The terms of a query are a left fold.**  Whether a task satisfies a list of terms
is the fold from `true` by `and`, `or` and `and not`; it is true exactly if there is a
place, before the first term or behind an `OR` term that hits, behind which every `AND`
term hits and no `NOT` term does.  So `a b OR c d` is `((a and b) or c) and d`, and not
`(a and b) or (c and d)`. -/
theorem satisfiesTerms_leftFold (task : Task) (sections : List Section) (terms : List Term) :
    satisfiesTerms terms (task.searchText sections) =
        foldTerms terms (task.searchText sections) true ∧
      (satisfiesTerms terms (task.searchText sections) = true ↔
        ∃ position, TrueFrom terms (task.searchText sections) position) ∧
      (∀ a b c d : Term,
        satisfiesTerms (alternativeBetween a b c d) (task.searchText sections) =
          (((a.hits (task.searchText sections) && b.hits (task.searchText sections)) ||
            c.hits (task.searchText sections)) && d.hits (task.searchText sections))) ∧
      ∃ (other : Task) (a b c d : Term),
        satisfiesTerms (alternativeBetween a b c d) (other.searchText sections) ≠
          ((a.hits (other.searchText sections) && b.hits (other.searchText sections)) ||
            (c.hits (other.searchText sections) && d.hits (other.searchText sections))) := by
  refine ⟨satisfiesTerms_eq_foldTerms _ _, ?_, fun a b c d => ?_, exists_grouping_ne sections⟩
  · rw [satisfiesTerms_eq_foldTerms]
    exact foldTerms_eq_true_iff _ _
  · rw [satisfiesTerms_eq_foldTerms]
    rfl

end TaskQuery
