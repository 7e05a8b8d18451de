import TaskQuery.Proofs.Text.AsciiCase
import TaskQuery.Query.Token

/-!
# Keywords, declaratively

`Token.keyword?` compares the capital form of the first two or three characters of a
text with `AND`, `OR` and `NOT`.  Here this is said without capital forms and without
an order of trials: a text starts with a keyword if it starts with the ASCII letters
of one of the three words, each in either case, and the end, a blank or a double
quote comes next (`KeywordBefore`).  At most one keyword can stand at one place, which
`keyword?_eq_some_iff` needs for the order of trials not to matter.
-/

namespace TaskQuery

open Text

/-- A spelling of an operator's name: its ASCII letters, each in either case. -/
def Operator.SpelledAs (operator : Operator) (spelling : List Char) : Prop :=
  spelling.map Char.toUpper = operator.name.toList

instance (operator : Operator) (spelling : List Char) : Decidable (operator.SpelledAs spelling) :=
  inferInstanceAs (Decidable (_ = _))

namespace Token

/-- A keyword with its boundary: the end, a blank or a double quote comes next. -/
structure KeywordBefore (operator : Operator) (spelling rest : List Char) : Prop where
  spelled : operator.SpelledAs spelling
  boundary : ∀ next ∈ rest.head?, isBlank next = true ∨ next = '"'

/-- Some keyword stands at the front of the text. -/
def StartsWithKeyword (source : List Char) : Prop :=
  ∃ operator spelling rest, source = spelling ++ rest ∧ KeywordBefore operator spelling rest

/-! ## The letters of keywords -/

/-- The capital letters that keywords are written with. -/
def keywordLetters : List Char :=
  ['A', 'N', 'D', 'O', 'R', 'T']

theorem upperTable_avoids_keywordLetters : upperTable.Avoids keywordLetters := by
  decide +kernel

theorem mem_keywordLetters_of_mem_name {operator : Operator} {c : Char}
    (hc : c ∈ operator.name.toList) : c ∈ keywordLetters := by
  have hall : operator.name.toList.all (· ∈ keywordLetters) = true := by
    cases operator <;> decide
  exact of_decide_eq_true (List.all_eq_true.mp hall c hc)

theorem upper_eq_name_iff (operator : Operator) (spelling : List Char) :
    upper spelling = operator.name.toList ↔ operator.SpelledAs spelling :=
  upper_eq_iff upperTable_avoids_keywordLetters (by simp [keywordLetters])
    (fun _ hc => mem_keywordLetters_of_mem_name hc) spelling

/-- A letter of a keyword is one of the twelve ASCII letters, in particular neither a
blank nor one of the marks that start other tokens. -/
theorem mem_letters_of_spelledAs {operator : Operator} {spelling : List Char}
    (hspelled : operator.SpelledAs spelling) {c : Char} (hc : c ∈ spelling) :
    c ∈ keywordLetters ++ keywordLetters.map Char.toLower := by
  have hupper : c.toUpper ∈ operator.name.toList := hspelled ▸ List.mem_map_of_mem hc
  have hletter := mem_keywordLetters_of_mem_name hupper
  rcases eq_toUpper_or_eq_toLower c with hsame | hlower
  · rw [hsame]
    exact List.mem_append_left _ hletter
  · rw [hlower]
    exact List.mem_append_right _ (List.mem_map_of_mem hletter)

theorem not_isBlank_of_spelledAs {operator : Operator} {spelling : List Char}
    (hspelled : operator.SpelledAs spelling) : ∀ c ∈ spelling, isBlank c = false := by
  have hall : (keywordLetters ++ keywordLetters.map Char.toLower).all (!isBlank ·) = true := by
    decide
  intro c hc
  have hletter := List.all_eq_true.mp hall c (mem_letters_of_spelledAs hspelled hc)
  simpa using hletter

theorem spelling_ne_nil {operator : Operator} {spelling : List Char}
    (hspelled : operator.SpelledAs spelling) : spelling ≠ [] := by
  rintro rfl
  cases operator <;> exact absurd hspelled (by decide)

/-- No keyword starts with a quote or a dash. -/
theorem not_startsWithKeyword_of_mark {mark : Char} (hmark : mark = '"' ∨ mark = '-')
    (rest : List Char) : ¬ StartsWithKeyword (mark :: rest) := by
  rintro ⟨operator, spelling, tail, heq, hkeyword⟩
  cases spelling with
  | nil => exact spelling_ne_nil hkeyword.spelled rfl
  | cons c letters =>
      have hc : mark = c := (List.cons.inj heq).1
      have hletter := mem_letters_of_spelledAs hkeyword.spelled (List.mem_cons_self ..)
      rw [← hc] at hletter
      rcases hmark with rfl | rfl <;> exact absurd hletter (by decide)

/-- Whether a keyword stands at the front of a run without blanks does not depend on
what follows the run, be it a blank or the end. -/
theorem startsWithKeyword_append_iff {run rest : List Char} (hrun : ∀ c ∈ run, isBlank c = false)
    (hrest : ∀ next ∈ rest.head?, isBlank next = true) :
    StartsWithKeyword (run ++ rest) ↔ StartsWithKeyword run := by
  constructor
  · rintro ⟨operator, spelling, tail, heq, hkeyword⟩
    rcases List.append_eq_append_iff.mp heq with ⟨more, rfl, rfl⟩ | ⟨more, rfl, rfl⟩
    · -- no letter of the keyword is the blank behind the run
      cases more with
      | nil => exact ⟨operator, run, [], by simp, by simpa using hkeyword.spelled, by simp⟩
      | cons c letters =>
          have hblank : isBlank c = true := hrest c rfl
          have hletter := not_isBlank_of_spelledAs hkeyword.spelled c (by simp)
          rw [hblank] at hletter
          simp at hletter
    · refine ⟨operator, spelling, more, rfl, hkeyword.spelled, fun next hnext => ?_⟩
      apply hkeyword.boundary
      rw [Option.mem_def, List.head?_append, Option.mem_def.mp hnext]
      rfl
  · rintro ⟨operator, spelling, tail, rfl, hkeyword⟩
    refine ⟨operator, spelling, tail ++ rest, List.append_assoc .., hkeyword.spelled, ?_⟩
    intro next hnext
    cases tail with
    | nil => exact Or.inl (hrest next hnext)
    | cons c letters => exact hkeyword.boundary next hnext

/-- A run without blanks starts with a keyword if it is one, or if a quote follows one. -/
theorem startsWithKeyword_iff_of_no_blank {run : List Char} (hrun : ∀ c ∈ run, isBlank c = false) :
    StartsWithKeyword run ↔
      (∃ operator : Operator, operator.SpelledAs run) ∨
        ∃ (operator : Operator) (spelling rest : List Char),
          run = spelling ++ '"' :: rest ∧ operator.SpelledAs spelling := by
  constructor
  · rintro ⟨operator, spelling, rest, rfl, hkeyword⟩
    cases rest with
    | nil => exact Or.inl ⟨operator, by simpa using hkeyword.spelled⟩
    | cons next tail =>
        rcases hkeyword.boundary next rfl with hblank | rfl
        · rw [hrun next (by simp)] at hblank
          simp at hblank
        · exact Or.inr ⟨operator, spelling, tail, rfl, hkeyword.spelled⟩
  · rintro (⟨operator, hspelled⟩ | ⟨operator, spelling, rest, rfl, hspelled⟩)
    · exact ⟨operator, run, [], (List.append_nil run).symm, hspelled, by simp⟩
    · refine ⟨operator, spelling, '"' :: rest, rfl, hspelled, fun next hnext => Or.inr ?_⟩
      exact (Option.some.inj hnext).symm

/-! ## At most one keyword at a place -/

/-- The first letter tells the keywords apart. -/
theorem operator_eq_of_toUpper_eq {first second : Operator} {c : Char} {letters others : List Char}
    (hfirst : first.SpelledAs (c :: letters)) (hsecond : second.SpelledAs (c :: others)) :
    first = second := by
  have hhead : first.name.toList.head? = second.name.toList.head? := by
    rw [← hfirst, ← hsecond]
    rfl
  revert hhead
  cases first <;> cases second <;> decide

theorem length_eq_of_spelledAs {operator : Operator} {spelling : List Char}
    (hspelled : operator.SpelledAs spelling) :
    spelling.length = operator.name.toList.length := by
  rw [← hspelled, List.length_map]

/-- A run that is longer than every keyword and has no character that ends one keeps
keywords away. -/
theorem not_startsWithKeyword_of_run {run : List Char}
    (hrun : ∀ c ∈ run, isBlank c = false ∧ c ≠ '"') (hlong : 3 < run.length) (rest : List Char) :
    ¬ StartsWithKeyword (run ++ rest) := by
  rintro ⟨operator, spelling, tail, heq, hkeyword⟩
  have hshort : spelling.length ≤ 3 := by
    rw [length_eq_of_spelledAs hkeyword.spelled]
    cases operator <;> decide
  rcases List.append_eq_append_iff.mp heq with ⟨more, rfl, -⟩ | ⟨more, rfl, rfl⟩
  · rw [List.length_append] at hshort
    omega
  · cases more with
    | nil =>
        rw [List.append_nil] at hlong
        omega
    | cons c letters =>
        obtain ⟨hblank, hquote⟩ := hrun c (by simp)
        rcases hkeyword.boundary c rfl with hend | hend
        · rw [hblank] at hend
          simp at hend
        · exact hquote hend

theorem KeywordBefore.unique {first second : Operator} {spelling other rest tail : List Char}
    (hfirst : KeywordBefore first spelling rest) (hsecond : KeywordBefore second other tail)
    (heq : spelling ++ rest = other ++ tail) :
    first = second ∧ spelling = other ∧ rest = tail := by
  obtain ⟨c, letters, rfl⟩ := List.exists_cons_of_ne_nil (spelling_ne_nil hfirst.spelled)
  obtain ⟨d, others, rfl⟩ := List.exists_cons_of_ne_nil (spelling_ne_nil hsecond.spelled)
  have hhead : c = d := (List.cons.inj heq).1
  subst hhead
  have hoperator := operator_eq_of_toUpper_eq hfirst.spelled hsecond.spelled
  subst hoperator
  have hlength : (c :: letters).length = (c :: others).length := by
    rw [length_eq_of_spelledAs hfirst.spelled, length_eq_of_spelledAs hsecond.spelled]
  exact ⟨rfl, List.append_inj heq hlength⟩

/-! ## The reader against the declaration -/

theorem endsKeyword_iff {rest : List Char} :
    endsKeyword rest = true ↔ ∀ next ∈ rest.head?, isBlank next = true ∨ next = '"' := by
  cases rest with
  | nil => simp [endsKeyword]
  | cons c tail => simp [endsKeyword]

theorem keywordOf?_eq_some_iff {operator : Operator} {source spelling rest : List Char} :
    keywordOf? operator source = some (spelling, rest) ↔
      source = spelling ++ rest ∧ KeywordBefore operator spelling rest := by
  constructor
  · intro hfound
    dsimp only [keywordOf?] at hfound
    split at hfound
    · rename_i hboth
      simp only [Option.some.injEq, Prod.mk.injEq] at hfound
      obtain ⟨rfl, rfl⟩ := hfound
      exact ⟨(List.take_append_drop _ source).symm,
        (upper_eq_name_iff _ _).mp hboth.1, endsKeyword_iff.mp hboth.2⟩
    · simp at hfound
  · rintro ⟨rfl, hkeyword⟩
    have hlength := length_eq_of_spelledAs hkeyword.spelled
    dsimp only [keywordOf?]
    rw [← hlength, List.take_left, List.drop_left, if_pos]
    exact ⟨(upper_eq_name_iff _ _).mpr hkeyword.spelled, endsKeyword_iff.mpr hkeyword.boundary⟩

/-- What `keyword?` finds is the keyword at the front of the text, and it finds it. -/
theorem keyword?_eq_some_iff {source spelling rest : List Char} {operator : Operator} :
    keyword? source = some (operator, spelling, rest) ↔
      source = spelling ++ rest ∧ KeywordBefore operator spelling rest := by
  have sound : ∀ {found : Operator × List Char × List Char}, keyword? source = some found →
      source = found.2.1 ++ found.2.2 ∧ KeywordBefore found.1 found.2.1 found.2.2 := by
    intro found hfound
    obtain ⟨candidate, -, hhit⟩ := List.exists_of_findSome?_eq_some hfound
    obtain ⟨pair, hpair, rfl⟩ := Option.map_eq_some_iff.mp hhit
    exact keywordOf?_eq_some_iff.mp hpair
  constructor
  · exact sound
  · rintro ⟨hsource, hkeyword⟩
    cases hfound : keyword? source with
    | none =>
        have hmem : operator ∈ keywords := by cases operator <;> decide
        have hnone := List.findSome?_eq_none_iff.mp hfound operator hmem
        rw [keywordOf?_eq_some_iff.mpr ⟨hsource, hkeyword⟩] at hnone
        simp at hnone
    | some found =>
        obtain ⟨hother, hfirst⟩ := sound hfound
        obtain ⟨hoperator, hspelling, hrest⟩ := hfirst.unique hkeyword (hother ▸ hsource)
        rw [← hoperator, ← hspelling, ← hrest]

theorem keyword?_eq_none_iff {source : List Char} :
    keyword? source = none ↔ ¬ StartsWithKeyword source := by
  constructor
  · rintro hnone ⟨operator, spelling, rest, hkeyword⟩
    rw [keyword?_eq_some_iff.mpr hkeyword] at hnone
    simp at hnone
  · intro hnot
    cases hfound : keyword? source with
    | none => rfl
    | some found =>
        exact absurd ⟨found.1, found.2.1, found.2.2, keyword?_eq_some_iff.mp hfound⟩ hnot

end Token

end TaskQuery
