import TaskQuery.Query.Parser

/-!
# Words that are filters

A word is a filter if it is a field name, a colon, a comparison sign and a value, where
the sign is the longest one that fits.  This file says the last condition without an
order of trials: each comparison has one sign, and `Comparison.Admits` says which values
may follow it.  So a filter is read from a word exactly if the word is spelled like this
(`FieldFilter.ofWord?_eq_some_iff`).
-/

namespace TaskQuery

open Text

/-! ## Comparison signs -/

namespace Comparison

/-- The sign in front of the value of a filter. -/
def sign : Comparison → List Char
  | .equals => ['=']
  | .contains => []
  | .greaterThan => ['>']
  | .lessThan => ['<']
  | .greaterOrEqual => ['>', '=']
  | .lessOrEqual => ['<', '=']

/-- The values that may follow the sign of a comparison: where there is no sign, a value
that is not empty and does not start with one, and behind `>` and `<` one that does not
turn the sign into another. -/
def Admits : Comparison → List Char → Prop
  | .contains, value => value ≠ [] ∧ ∀ c ∈ value.head?, c ≠ '>' ∧ c ≠ '<' ∧ c ≠ '='
  | .greaterThan, value => value.head? ≠ some '='
  | .lessThan, value => value.head? ≠ some '='
  | _, _ => True

theorem ofMarked_spec {marked value : List Char} {comparison : Comparison} (hmarked : marked ≠ [])
    (hread : ofMarked marked = (comparison, value)) :
    marked = comparison.sign ++ value ∧ comparison.Admits value := by
  unfold ofMarked at hread
  split at hread
  · obtain ⟨rfl, rfl⟩ := Prod.mk.inj hread
    exact ⟨rfl, trivial⟩
  · obtain ⟨rfl, rfl⟩ := Prod.mk.inj hread
    exact ⟨rfl, trivial⟩
  · rename_i rest hlonger
    obtain ⟨rfl, rfl⟩ := Prod.mk.inj hread
    refine ⟨rfl, fun hhead => ?_⟩
    obtain ⟨tail, rfl⟩ := List.head?_eq_some_iff.mp hhead
    exact hlonger tail rfl
  · rename_i rest hlonger
    obtain ⟨rfl, rfl⟩ := Prod.mk.inj hread
    refine ⟨rfl, fun hhead => ?_⟩
    obtain ⟨tail, rfl⟩ := List.head?_eq_some_iff.mp hhead
    exact hlonger tail rfl
  · obtain ⟨rfl, rfl⟩ := Prod.mk.inj hread
    exact ⟨rfl, trivial⟩
  · rename_i hgreater hless hequals
    obtain ⟨rfl, rfl⟩ := Prod.mk.inj hread
    refine ⟨rfl, hmarked, fun c hc => ?_⟩
    obtain ⟨tail, rfl⟩ := List.head?_eq_some_iff.mp hc
    refine ⟨?_, ?_, ?_⟩
    · rintro rfl
      exact hgreater tail rfl
    · rintro rfl
      exact hless tail rfl
    · rintro rfl
      exact hequals tail rfl

theorem ofMarked_sign_append {comparison : Comparison} {value : List Char}
    (hadmits : comparison.Admits value) :
    ofMarked (comparison.sign ++ value) = (comparison, value) := by
  cases comparison with
  | equals => rfl
  | greaterOrEqual => rfl
  | lessOrEqual => rfl
  | greaterThan =>
      cases value with
      | nil => rfl
      | cons c rest =>
          have hc : c ≠ '=' := by simpa [Admits] using hadmits
          simp [ofMarked, sign, hc]
  | lessThan =>
      cases value with
      | nil => rfl
      | cons c rest =>
          have hc : c ≠ '=' := by simpa [Admits] using hadmits
          simp [ofMarked, sign, hc]
  | contains =>
      obtain ⟨c, rest, rfl⟩ := List.exists_cons_of_ne_nil hadmits.1
      obtain ⟨hgreater, hless, hequals⟩ := hadmits.2 c rfl
      simp [ofMarked, sign, hgreater, hless, hequals]

theorem sign_append_ne_nil {comparison : Comparison} {value : List Char}
    (hadmits : comparison.Admits value) : comparison.sign ++ value ≠ [] := by
  cases comparison with
  | contains => exact hadmits.1
  | _ => exact List.cons_ne_nil _ _

end Comparison

/-! ## Field names -/

/-- No field name starts with a dash. -/
theorem Field.ofName?_dash (rest : List Char) : Field.ofName? ('-' :: rest) = none := by
  have hnames : ∀ entry ∈ fieldNames, entry.1.toList.head? ≠ some '-' := by decide
  rw [Field.ofName?, List.lookup_eq_none_iff]
  intro entry hentry
  have hne : String.ofList (lower ('-' :: rest)) ≠ entry.1 := by
    intro heq
    apply hnames entry hentry
    rw [← heq, String.toList_ofList]
    rfl
  simpa using hne

theorem Field.ofName?_nil : Field.ofName? [] = none := by
  decide

/-! ## The filter of a word -/

/-- A word is a filter exactly if it is spelled as one. -/
theorem FieldFilter.ofWord?_eq_some_iff {word : List Char} {filter : FieldFilter} :
    FieldFilter.ofWord? word = some filter ↔
      ∃ name, word = name ++ ':' :: (filter.comparison.sign ++ filter.value.toList) ∧
        ':' ∉ name ∧ Field.ofName? name = some filter.field ∧
        filter.comparison.Admits filter.value.toList := by
  constructor
  · intro hword
    unfold FieldFilter.ofWord? at hword
    split at hword
    · simp at hword
    · rename_i name marked hcut
      obtain ⟨hsplit, hcolon⟩ := cutAt_eq_some_iff.mp hcut
      split at hword
      · simp at hword
      · rename_i hempty
        simp only [Bool.or_eq_true, List.isEmpty_iff, not_or] at hempty
        obtain ⟨field, hfield, rfl⟩ := Option.map_eq_some_iff.mp hword
        cases hread : Comparison.ofMarked marked with
        | mk comparison value =>
            obtain ⟨rfl, hadmits⟩ := Comparison.ofMarked_spec hempty.2 hread
            refine ⟨name, ?_, hcolon, hfield, ?_⟩
            · rw [hsplit, String.toList_ofList]
            · rwa [String.toList_ofList]
  · rintro ⟨name, rfl, hcolon, hfield, hadmits⟩
    have hname : name ≠ [] := by
      rintro rfl
      rw [Field.ofName?_nil] at hfield
      simp at hfield
    have hmarked := Comparison.sign_append_ne_nil hadmits
    rw [FieldFilter.ofWord?, cutAt_eq_some_iff.mpr ⟨rfl, hcolon⟩]
    simp only [List.isEmpty_eq_false_iff.mpr hname, List.isEmpty_eq_false_iff.mpr hmarked, hfield,
      Comparison.ofMarked_sign_append hadmits, String.ofList_toList]
    rfl

/-- A word with a dash in front is no filter. -/
theorem FieldFilter.ofWord?_dash (rest : List Char) : FieldFilter.ofWord? ('-' :: rest) = none := by
  rw [Option.eq_none_iff_forall_not_mem]
  intro filter hfilter
  obtain ⟨name, hword, -, hfield, -⟩ := FieldFilter.ofWord?_eq_some_iff.mp hfilter
  cases name with
  | nil =>
      rw [Field.ofName?_nil] at hfield
      simp at hfield
  | cons c letters =>
      obtain rfl : '-' = c := (List.cons.inj hword).1
      rw [Field.ofName?_dash] at hfield
      simp at hfield

end TaskQuery
