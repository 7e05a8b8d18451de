import TaskQuery.Match
import TaskQuery.Proofs.Match.Fold
import TaskQuery.Proofs.Query.Extension

/-!
# Matching one query and then another

How a task is judged by two queries put one after the other, given how it is judged by
each.  If the second query offers no alternatives the two are judged independently and
both have to hold (`Query.matches_append`).  One more term under `OR` is judged together
with the terms of the first query and never with its filters (`Query.matches_append_or`).

The filters are tried from left to right up to the first that does not hold, so a list of
filters in two parts is the first part and then, if it holds, the second
(`passesFilters_append`).
-/

namespace TaskQuery

variable {task : Task} {sections : List Section} {now : DateTime}

/-! ## Terms -/

theorem foldTerms_append (first second : List Term) (entries : List (List Char)) (result : Bool) :
    foldTerms (first ++ second) entries result =
      foldTerms second entries (foldTerms first entries result) := by
  rw [foldTerms, List.foldl_append]
  rfl

/-- Without alternatives the terms are judged by themselves. -/
theorem foldTerms_eq_and {terms : List Term} (hor : ∀ term ∈ terms, term.operator ≠ .or)
    (entries : List (List Char)) (result : Bool) :
    foldTerms terms entries result = (result && foldTerms terms entries true) := by
  induction terms generalizing result with
  | nil => exact (Bool.and_true result).symm
  | cons term terms ih =>
      have hrest := ih fun other hother => hor other (List.mem_cons_of_mem term hother)
      have hterm : term.operator.combine result (term.hits entries) =
          (result && term.operator.combine true (term.hits entries)) := by
        cases hoperator : term.operator with
        | or => exact absurd hoperator (hor term (List.mem_cons_self ..))
        | and => simp [Operator.combine]
        | not => simp [Operator.combine]
      calc foldTerms (term :: terms) entries result
          = foldTerms terms entries (term.operator.combine result (term.hits entries)) := rfl
        _ = (result && (term.operator.combine true (term.hits entries) &&
              foldTerms terms entries true)) := by rw [hrest, hterm, Bool.and_assoc]
        _ = (result && foldTerms (term :: terms) entries true) := by
              rw [← hrest]
              rfl

theorem satisfiesTerms_append {first second : List Term}
    (hor : ∀ term ∈ second, term.operator ≠ .or) (entries : List (List Char)) :
    satisfiesTerms (first ++ second) entries =
      (satisfiesTerms first entries && satisfiesTerms second entries) := by
  simp only [satisfiesTerms_eq_foldTerms]
  rw [foldTerms_append, foldTerms_eq_and hor]

theorem satisfiesTerms_concat (terms : List Term) (term : Term) (entries : List (List Char)) :
    satisfiesTerms (terms ++ [term]) entries =
      term.operator.combine (satisfiesTerms terms entries) (term.hits entries) := by
  simp only [satisfiesTerms_eq_foldTerms]
  exact foldTerms_concat terms term entries true

/-! ## Filters -/

theorem passesFilters_append (first second : List FieldFilter) :
    passesFilters task sections now (first ++ second) =
      (do if ← passesFilters task sections now first then passesFilters task sections now second
          else pure false) := by
  induction first with
  | nil => rfl
  | cons filter rest ih =>
      rw [List.cons_append, passesFilters, passesFilters, ih]
      cases filter.passes task sections now with
      | error fault => rfl
      | ok passed => cases passed <;> rfl

/-! ## Queries -/

namespace Query

/-- The filters decide once the terms are satisfied. -/
theorem matches_of_satisfiesTerms {query : Query}
    (hterms : satisfiesTerms query.terms (task.searchText sections) = true) :
    query.matches task sections now = passesFilters task sections now query.filters :=
  if_pos hterms

theorem matches_of_not_satisfiesTerms {query : Query}
    (hterms : satisfiesTerms query.terms (task.searchText sections) = false) :
    query.matches task sections now = .ok false :=
  if_neg (by rw [hterms]; exact Bool.false_ne_true)

/-- A query without filters has an answer for every task. -/
theorem matches_of_filters_eq_nil {query : Query} (hfilters : query.filters = []) :
    query.matches task sections now =
      .ok (satisfiesTerms query.terms (task.searchText sections)) := by
  cases hterms : satisfiesTerms query.terms (task.searchText sections) with
  | false => exact matches_of_not_satisfiesTerms hterms
  | true =>
      rw [matches_of_satisfiesTerms hterms, hfilters]
      rfl

/-- Where two queries have an answer, the one after the other has the conjunction, if the
second offers no alternatives. -/
theorem matches_append {first second : Query} (hor : ∀ term ∈ second.terms, term.operator ≠ .or)
    {x y : Bool} (hfirst : first.matches task sections now = .ok x)
    (hsecond : second.matches task sections now = .ok y) :
    (first.append second).matches task sections now = .ok (x && y) := by
  have hboth : satisfiesTerms (first.append second).terms (task.searchText sections) =
      (satisfiesTerms first.terms (task.searchText sections) &&
        satisfiesTerms second.terms (task.searchText sections)) := satisfiesTerms_append hor _
  cases hx : satisfiesTerms first.terms (task.searchText sections) with
  | false =>
      rw [matches_of_not_satisfiesTerms hx] at hfirst
      obtain rfl := Except.ok.inj hfirst
      exact matches_of_not_satisfiesTerms (by rw [hboth, hx]; rfl)
  | true =>
      cases hy : satisfiesTerms second.terms (task.searchText sections) with
      | false =>
          rw [matches_of_not_satisfiesTerms hy] at hsecond
          obtain rfl := Except.ok.inj hsecond
          rw [Bool.and_false]
          exact matches_of_not_satisfiesTerms (by rw [hboth, hy, Bool.and_false])
      | true =>
          rw [matches_of_satisfiesTerms hx] at hfirst
          rw [matches_of_satisfiesTerms hy] at hsecond
          rw [matches_of_satisfiesTerms (by rw [hboth, hx, hy]; rfl)]
          show passesFilters task sections now (first.filters ++ second.filters) = _
          rw [passesFilters_append, hfirst]
          cases x with
          | false => rfl
          | true => exact hsecond

/-- Where a query with one more alternative has an answer, so has the query itself, and
the alternative loses nothing. -/
theorem matches_append_or {query : Query} {term : Term} (hor : term.operator = .or) {z : Bool}
    (hlonger : (query.append { terms := [term] }).matches task sections now = .ok z) :
    ∃ x, query.matches task sections now = .ok x ∧ (x = true → z = true) := by
  cases hx : satisfiesTerms query.terms (task.searchText sections) with
  | false =>
      exact ⟨false, matches_of_not_satisfiesTerms hx, fun h => absurd h Bool.false_ne_true⟩
  | true =>
      have hz : satisfiesTerms (query.append { terms := [term] }).terms
          (task.searchText sections) = true := by
        show satisfiesTerms (query.terms ++ [term]) _ = true
        rw [satisfiesTerms_concat, hor, hx]
        rfl
      have hfilters : (query.append { terms := [term] }).filters = query.filters :=
        List.append_nil _
      rw [matches_of_satisfiesTerms hz, hfilters] at hlonger
      exact ⟨z, by rw [matches_of_satisfiesTerms hx, hlonger], id⟩

/-- Without filters one more alternative is a disjunction. -/
theorem matches_append_or_of_filters_eq_nil {query : Query} {term : Term}
    (hor : term.operator = .or) (hfilters : query.filters = []) :
    (query.append { terms := [term] }).matches task sections now =
      .ok (satisfiesTerms query.terms (task.searchText sections) ||
        term.hits (task.searchText sections)) := by
  have hnone : (query.append { terms := [term] }).filters = [] := by
    show query.filters ++ [] = []
    rw [hfilters]
    rfl
  rw [matches_of_filters_eq_nil hnone]
  show Except.ok (satisfiesTerms (query.terms ++ [term]) _) = _
  rw [satisfiesTerms_concat, hor]
  rfl

/-- A query of one term that asks for a hit. -/
theorem matches_singleton {term : Term} (hoperator : term.operator = .and) :
    ({ terms := [term] } : Query).matches task sections now =
      .ok (term.hits (task.searchText sections)) := by
  rw [matches_of_filters_eq_nil rfl, satisfiesTerms_eq_foldTerms]
  show Except.ok (term.operator.combine true _) = _
  rw [hoperator]
  rfl

/-- A query of one term that excludes what it hits. -/
theorem matches_singleton_not {term : Term} (hoperator : term.operator = .not) :
    ({ terms := [term] } : Query).matches task sections now =
      .ok (!term.hits (task.searchText sections)) := by
  rw [matches_of_filters_eq_nil rfl, satisfiesTerms_eq_foldTerms]
  show Except.ok (term.operator.combine true _) = _
  rw [hoperator]
  rfl

end Query

end TaskQuery
