import TaskQuery.Proofs.Query.FilterWord
import TaskQuery.Proofs.Query.Keyword
import TaskQuery.Proofs.Text.Recased

/-!
# Recognising keywords and field names

A keyword is recognised by the capital form of a slice of the source, and a field name by the
small form of what stands in front of a colon.  Changing the case of a text can make it longer
and can turn letters of other scripts into ASCII letters, so neither the length of the slice nor
its letters are plain to see.  This file says that both are what they look like: only the
listed words up to the case of ASCII letters are recognised (`recognition_exact`).

For keywords it says more.  A scanner that walks over a source looks at the character behind the
slice, and that character exists only if the slice was not cut short by the end of the source.
`Token.keywordAt` is the recognition with a place in the source and with every look behind the
end as a fault.  It has none, because a slice that is cut short is too short to be spelled as
the keyword (`endsKeywordAt_eq`), and it finds what the scanner finds (`keywordAt_eq`).
-/

namespace TaskQuery

open Text

/-! ## Capital and small words -/

namespace Text

theorem toUpper_toLower (c : Char) : c.toLower.toUpper = c.toUpper := by
  have hascii : ∀ code < 0x80, (Char.ofNat code).toLower.toUpper = (Char.ofNat code).toUpper := by
    decide
  exact apply_toLower hascii c

/-- Two characters have one small form if one is the other or a form of it. -/
theorem toLower_eq_toLower_iff {c d : Char} :
    d.toLower = c.toLower ↔ d = c ∨ d = c.toLower ∨ d = c.toUpper := by
  constructor
  · intro hsame
    have hcapital : d.toUpper = c.toUpper := by
      rw [← toUpper_toLower, hsame, toUpper_toLower]
    rcases eq_toUpper_or_eq_toLower d with hd | hd
    · exact Or.inr (Or.inr (hd.trans hcapital))
    · rw [toLower_toUpper, hsame] at hd
      exact Or.inr (Or.inl hd)
  · rintro (rfl | rfl | rfl)
    · rfl
    · exact toLower_toLower c
    · exact toLower_toUpper c

/-- Texts are recased if they have the same small letters. -/
theorem recased_iff {text other : String} :
    Recased text other ↔ other.toList.map Char.toLower = text.toList.map Char.toLower := by
  unfold Recased
  simp only [← toLower_eq_toLower_iff]
  rw [← List.forall₂_eq_eq_eq, List.forall₂_map_left_iff, List.forall₂_map_right_iff]
  exact ⟨List.Forall₂.flip, List.Forall₂.flip⟩

/-- A text that is written in small letters is recased as it is written small. -/
theorem map_toLower_eq_iff_recased {text : String}
    (htext : text.toList.map Char.toLower = text.toList) (other : List Char) :
    other.map Char.toLower = text.toList ↔ Recased text (String.ofList other) := by
  rw [recased_iff, htext, String.toList_ofList]

/-- A text that is written in capital letters is recased as it is written with capitals. -/
theorem map_toUpper_eq_iff_recased {text : String}
    (htext : text.toList.map Char.toUpper = text.toList) (other : List Char) :
    other.map Char.toUpper = text.toList ↔ Recased text (String.ofList other) := by
  rw [recased_iff, String.toList_ofList]
  constructor
  · intro heq
    rw [← heq, List.map_map]
    exact List.map_congr_left fun c _ => (toLower_toUpper c).symm
  · intro heq
    have hcapital := congrArg (List.map Char.toUpper) heq
    simp only [List.map_map, Function.comp_def, toUpper_toLower] at hcapital
    exact hcapital.trans htext

end Text

/-! ## Keywords at a place -/

theorem Operator.spelledAs_iff_recased (operator : Operator) (spelling : List Char) :
    operator.SpelledAs spelling ↔ Recased operator.name (String.ofList spelling) := by
  have hcapital : operator.name.toList.map Char.toUpper = operator.name.toList := by
    cases operator <;> decide
  exact map_toUpper_eq_iff_recased hcapital spelling

namespace Token

/-- A look at a place where the source has no character. -/
structure PastEnd where
  place : ℕ
deriving DecidableEq

/-- The character at a place of the source. -/
def charAt (source : List Char) (place : ℕ) : Except PastEnd Char :=
  match source[place]? with
  | some c => .ok c
  | none => .error ⟨place⟩

/-- Whether a keyword may end at a place.  The character there is looked at unless the place is
the end of the source. -/
def endsKeywordAt (source : List Char) (stop : ℕ) : Except PastEnd Bool :=
  if stop = source.length then .ok true
  else (charAt source stop).map fun next => isBlank next || next == '"'

/-- The first of several operators whose keyword stands at a place, and where it stops.  The end
of a keyword is looked at where the letters fit. -/
def firstKeywordAt (source : List Char) (start : ℕ) :
    List Operator → Except PastEnd (Option (Operator × ℕ))
  | [] => .ok none
  | operator :: others =>
    let stop := start + operator.name.toList.length
    if upper (source.extract start stop) = operator.name.toList then do
      if ← endsKeywordAt source stop then pure (some (operator, stop))
      else firstKeywordAt source start others
    else firstKeywordAt source start others

/-- The keyword at a place of the source, and where it stops. -/
def keywordAt (source : List Char) (start : ℕ) : Except PastEnd (Option (Operator × ℕ)) :=
  firstKeywordAt source start keywords

variable {source : List Char} {start stop : ℕ}

/-- Up to the end of the source every place has an answer. -/
theorem endsKeywordAt_eq (hstop : stop ≤ source.length) :
    endsKeywordAt source stop = .ok (endsKeyword (source.drop stop)) := by
  unfold endsKeywordAt
  split_ifs with hend
  · rw [hend, List.drop_length]
    rfl
  · have hlt : stop < source.length := by omega
    rw [List.drop_eq_getElem_cons hlt, charAt, List.getElem?_eq_getElem hlt]
    rfl

/-- A slice that is spelled as a keyword was not cut short by the end of the source. -/
theorem stop_le_length_of_spelledAs {operator : Operator}
    (hspelled : operator.SpelledAs (source.extract start (start + operator.name.toList.length))) :
    start + operator.name.toList.length ≤ source.length := by
  have hlength := length_eq_of_spelledAs hspelled
  have hpositive : 0 < operator.name.toList.length := by cases operator <;> decide
  rw [List.extract_eq_take_drop, List.length_take, List.length_drop] at hlength
  omega

/-- At every place the trials come out as on the rest of the source, without a look behind the
end. -/
theorem firstKeywordAt_eq (source : List Char) (start : ℕ) (operators : List Operator) :
    firstKeywordAt source start operators =
      .ok (operators.findSome? fun operator => (keywordOf? operator (source.drop start)).map
        fun found => (operator, start + found.1.length)) := by
  induction operators with
  | nil => rfl
  | cons operator others ih =>
      have hslice : source.extract start (start + operator.name.toList.length) =
          (source.drop start).take operator.name.toList.length := by
        rw [List.extract_eq_take_drop, Nat.add_sub_cancel_left]
      rw [firstKeywordAt, List.findSome?_cons]
      dsimp only [keywordOf?]
      rw [List.drop_drop]
      split_ifs with hupper hboth hboth
      · -- the letters fit, so there is a character behind them or the source ends
        have hspelled := (upper_eq_name_iff operator _).mp hupper
        rw [endsKeywordAt_eq (stop_le_length_of_spelledAs hspelled), hboth.2, Option.map_some,
          ← hslice, length_eq_of_spelledAs hspelled]
        rfl
      · have hspelled := (upper_eq_name_iff operator _).mp hupper
        have hends : endsKeyword (source.drop (start + operator.name.toList.length)) = false := by
          rw [hslice] at hupper
          simpa [hupper] using hboth
        rw [endsKeywordAt_eq (stop_le_length_of_spelledAs hspelled), hends]
        exact ih
      · exact absurd (hslice ▸ hboth.1) hupper
      · exact ih

/-- The keyword at a place is the one that the rest of the source starts with. -/
theorem keywordAt_eq (source : List Char) (start : ℕ) :
    keywordAt source start = .ok ((keyword? (source.drop start)).map
      fun found => (found.1, start + found.2.1.length)) := by
  rw [keywordAt, firstKeywordAt_eq, keyword?, List.map_findSome?]
  congr 2
  funext operator
  rw [Function.comp_apply, Option.map_map]
  rfl

/-- A keyword stands between two places if its letters do, in any case, and the end of the
source, a blank or a double quote comes next. -/
theorem keywordAt_eq_some_iff {operator : Operator} :
    keywordAt source start = .ok (some (operator, stop)) ↔
      Recased operator.name (String.ofList (source.extract start stop)) ∧
        (stop = source.length ∨
          ∃ next, source[stop]? = some next ∧ (isBlank next = true ∨ next = '"')) := by
  rw [keywordAt_eq, Except.ok.injEq, Option.map_eq_some_iff, ← operator.spelledAs_iff_recased]
  constructor
  · rintro ⟨⟨candidate, spelling, rest⟩, hfound, hsame⟩
    obtain ⟨rfl, rfl⟩ := Prod.mk.inj hsame
    obtain ⟨hsource, hkeyword⟩ := keyword?_eq_some_iff.mp hfound
    dsimp only
    have hrest : source.drop (start + spelling.length) = rest := by
      rw [← List.drop_drop, hsource, List.drop_left]
    constructor
    · rw [List.extract_eq_take_drop, hsource, Nat.add_sub_cancel_left, List.take_left]
      exact hkeyword.spelled
    · cases hnext : rest.head? with
      | some next =>
          rw [← hrest, List.head?_drop] at hnext
          refine Or.inr ⟨next, hnext, hkeyword.boundary next ?_⟩
          rw [← hrest, List.head?_drop]
          exact hnext
      | none =>
          have hlength := congrArg List.length hsource
          have hpositive := List.length_pos_iff.mpr (spelling_ne_nil hkeyword.spelled)
          rw [List.head?_eq_none_iff.mp hnext, List.append_nil, List.length_drop] at hlength
          exact Or.inl (by omega)
  · rintro ⟨hspelled, hend⟩
    have hstop : stop ≤ source.length := by
      rcases hend with rfl | ⟨next, hnext, -⟩
      · exact Nat.le_refl _
      · exact Nat.le_of_lt (List.getElem?_eq_some_iff.mp hnext).1
    have hlength : (source.extract start stop).length = stop - start := by
      rw [List.extract_eq_take_drop, List.length_take, List.length_drop]
      omega
    have hpositive := List.length_pos_iff.mpr (spelling_ne_nil hspelled)
    have hsplit : source.drop start = source.extract start stop ++ source.drop stop := by
      have hdrop : source.drop stop = (source.drop start).drop (stop - start) := by
        rw [List.drop_drop, Nat.add_sub_of_le (by omega)]
      rw [List.extract_eq_take_drop, hdrop, List.take_append_drop]
    refine ⟨(operator, source.extract start stop, source.drop stop), ?_, ?_⟩
    · refine keyword?_eq_some_iff.mpr ⟨hsplit, hspelled, fun next hnext => ?_⟩
      rw [List.head?_drop] at hnext
      rcases hend with rfl | ⟨found, hfound, hmark⟩
      · rw [List.getElem?_length] at hnext
        cases hnext
      · rw [hfound] at hnext
        cases hnext
        exact hmark
    · dsimp only
      rw [hlength, Nat.add_sub_of_le (by omega)]

end Token

/-! ## Field names -/

/-- The letters that field names are written with. -/
def fieldLetters : List Char :=
  "acdegilmnoprstuy".toList

theorem lowerTable_avoids_fieldLetters : lowerTable.Avoids fieldLetters := by
  decide +kernel

theorem toNat_of_mem_fieldLetters {letter : Char} (hletter : letter ∈ fieldLetters) :
    0 < letter.toNat ∧ letter.toNat < 0x80 := by
  have hall : fieldLetters.all (fun letter => 0 < letter.toNat ∧ letter.toNat < 0x80) = true := by
    decide
  exact of_decide_eq_true (List.all_eq_true.mp hall letter hletter)

/-- The small form of a text is the name of a field if the text is this name, its ASCII letters
in any case. -/
theorem lower_eq_name_iff {entry : String × Field} (hentry : entry ∈ fieldNames)
    (name : List Char) :
    lower name = entry.1.toList ↔ Recased entry.1 (String.ofList name) := by
  have hknown : ∀ entry ∈ fieldNames, entry.1.toList.map Char.toLower = entry.1.toList ∧
      entry.1.toList.all (· ∈ fieldLetters) = true := by
    decide
  obtain ⟨hsmall, hletters⟩ := hknown entry hentry
  rw [← map_toLower_eq_iff_recased hsmall]
  refine lower_eq_iff lowerTable_avoids_fieldLetters (fun _ => toNat_of_mem_fieldLetters) ?_ name
  exact fun c hc => of_decide_eq_true (List.all_eq_true.mp hletters c hc)

/-- A field goes by each of its names with the ASCII letters in any case, and by nothing
else. -/
theorem Field.ofName?_eq_some_iff {name : List Char} {field : Field} :
    Field.ofName? name = some field ↔
      ∃ known, (known, field) ∈ fieldNames ∧ Recased known (String.ofList name) := by
  constructor
  · intro hname
    obtain ⟨before, after, hentries, -⟩ := List.lookup_eq_some_iff.mp hname
    have hentry : (String.ofList (lower name), field) ∈ fieldNames := by
      rw [hentries]
      exact List.mem_append_right _ (List.mem_cons_self ..)
    exact ⟨_, hentry, (lower_eq_name_iff hentry name).mp String.toList_ofList.symm⟩
  · rintro ⟨known, hentry, hrecased⟩
    have hlookup : ∀ entry ∈ fieldNames, fieldNames.lookup entry.1 = some entry.2 := by
      decide
    rw [Field.ofName?, (lower_eq_name_iff hentry name).mpr hrecased, String.ofList_toList]
    exact hlookup _ hentry

/-- A word is a filter on a field if it is a name of the field, its ASCII letters in any case, a
colon, and something behind it. -/
theorem FieldFilter.exists_ofWord?_iff {word : List Char} {field : Field} :
    (∃ filter, FieldFilter.ofWord? word = some filter ∧ filter.field = field) ↔
      ∃ name value known, word = name ++ ':' :: value ∧ value ≠ [] ∧
        (known, field) ∈ fieldNames ∧ Recased known (String.ofList name) := by
  constructor
  · rintro ⟨filter, hword, rfl⟩
    obtain ⟨name, hsplit, -, hfield, hadmits⟩ := FieldFilter.ofWord?_eq_some_iff.mp hword
    obtain ⟨known, hentry, hrecased⟩ := Field.ofName?_eq_some_iff.mp hfield
    exact ⟨name, _, known, hsplit, Comparison.sign_append_ne_nil hadmits, hentry, hrecased⟩
  · rintro ⟨name, value, known, rfl, hvalue, hentry, hrecased⟩
    have hcolon : ':' ∉ name := by
      intro hmem
      have hnames : ∀ entry ∈ fieldNames, ':' ∉ entry.1.toList.map Char.toLower := by decide
      apply hnames _ hentry
      rw [← recased_iff.mp hrecased, String.toList_ofList]
      exact List.mem_map.mpr ⟨':', hmem, rfl⟩
    cases hread : Comparison.ofMarked value with
    | mk comparison rest =>
        obtain ⟨rfl, hadmits⟩ := Comparison.ofMarked_spec hvalue hread
        have hfield := Field.ofName?_eq_some_iff.mpr ⟨known, hentry, hrecased⟩
        refine ⟨⟨field, comparison, String.ofList rest⟩, ?_, rfl⟩
        refine FieldFilter.ofWord?_eq_some_iff.mpr ⟨name, ?_, hcolon, hfield, ?_⟩
        · rw [String.toList_ofList]
        · rwa [String.toList_ofList]

/-! ## Both together -/

/-- **Recognised words.**  At every place of every source the recognition of keywords looks at
no place behind the end, and comes out as on the rest of the source.  It finds a keyword up to a
place exactly if the letters in between are those of the keyword, each in either case of ASCII,
and the source ends there or goes on with a blank or a double quote.  A word is a filter on a
field exactly if something stands in front of a colon and behind it, and what stands in front is
one of the listed names of the field, each letter in either case of ASCII. -/
theorem recognition_exact :
    (∀ source start, Token.keywordAt source start =
      .ok ((Token.keyword? (source.drop start)).map
        fun found => (found.1, start + found.2.1.length))) ∧
    (∀ source start operator stop,
      Token.keywordAt source start = .ok (some (operator, stop)) ↔
        Recased operator.name (String.ofList (source.extract start stop)) ∧
          (stop = source.length ∨
            ∃ next, source[stop]? = some next ∧ (isBlank next = true ∨ next = '"'))) ∧
    ∀ word field,
      (∃ filter, FieldFilter.ofWord? word = some filter ∧ filter.field = field) ↔
        ∃ name value known, word = name ++ ':' :: value ∧ value ≠ [] ∧
          (known, field) ∈ fieldNames ∧ Recased known (String.ofList name) :=
  ⟨Token.keywordAt_eq, fun _ _ _ _ => Token.keywordAt_eq_some_iff,
    fun _ _ => FieldFilter.exists_ofWord?_iff⟩

/-- The capital form of a letter may be longer than the letter, but no such letter is part of a
keyword, and a keyword that is cut short by the end is none. -/
example : upper ['ﬅ'] = ['S', 'T'] ∧ Token.keywordAt "no ſ or".toList 0 = .ok none ∧
    Token.keywordAt "no ſ or".toList 5 = .ok (some (.or, 7)) ∧
    Token.keywordAt "no ſ or".toList 6 = .ok none := by
  decide +kernel

end TaskQuery
