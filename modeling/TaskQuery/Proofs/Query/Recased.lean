import TaskQuery.Proofs.Query.FilterWord
import TaskQuery.Proofs.Query.Reading
import TaskQuery.Proofs.Text.Recased

/-!
# Search texts in small letters

Parsing takes notice of the case of letters only where it copies them.  So the query of a
text in small letters is the query of the text, with the texts of its terms and the values
of its filters in small letters (`Query.parse_caseless`): the same tokens in the same
places, the same operators, fields and comparisons.

Each function between the text and the query is shown to commute with writing letters
small, in the order in which it is called.  Keywords go by their capital form and field
names by their small form, which are those of the text itself; everything else goes by
marks, and a mark is no letter.
-/

namespace TaskQuery

open Text

/-! ## Tokens -/

namespace Token

/-- A token with all ASCII letters small. -/
def caseless : Token → Token
  | keyword operator spelling => keyword operator (spelling.map Char.toLower)
  | phrase inner closed => phrase (inner.map Char.toLower) closed
  | word text => word (text.map Char.toLower)

theorem endsKeyword_map_toLower (rest : List Char) :
    endsKeyword (rest.map Char.toLower) = endsKeyword rest := by
  cases rest with
  | nil => rfl
  | cons c rest =>
      have hquote : (c.toLower == '"') = (c == '"') := by
        rw [Bool.eq_iff_iff, beq_iff_eq, beq_iff_eq, toLower_eq_iff (by decide)]
      rw [List.map_cons, endsKeyword, endsKeyword, isBlank_toLower, hquote]

theorem keywordOf?_map_toLower (operator : Operator) (source : List Char) :
    keywordOf? operator (source.map Char.toLower) = (keywordOf? operator source).map fun found =>
      (found.1.map Char.toLower, found.2.map Char.toLower) := by
  unfold keywordOf?
  dsimp only
  rw [← List.map_take, ← List.map_drop, upper_map_toLower, endsKeyword_map_toLower]
  split
  · rfl
  · rfl

theorem keyword?_map_toLower (source : List Char) :
    keyword? (source.map Char.toLower) = (keyword? source).map fun found =>
      (found.1, found.2.1.map Char.toLower, found.2.2.map Char.toLower) := by
  unfold keyword?
  rw [List.map_findSome?]
  congr 1
  funext operator
  rw [keywordOf?_map_toLower, Function.comp_apply, Option.map_map, Option.map_map]
  rfl

/-- The token at the front of a text in small letters. -/
theorem first_map_toLower (c : Char) (rest : List Char) :
    first c.toLower (rest.map Char.toLower) =
      ((first c rest).1.caseless, (first c rest).2.map Char.toLower) := by
  have hkeyword := keyword?_map_toLower (c :: rest)
  have hblank : (fun c => !isBlank c) ∘ Char.toLower = fun c => !isBlank c := by
    funext d
    rw [Function.comp_apply, isBlank_toLower]
  rw [List.map_cons] at hkeyword
  unfold first
  rw [hkeyword]
  cases keyword? (c :: rest) with
  | some found => rfl
  | none =>
      simp only [Option.map_none, toLower_eq_iff (show '"'.isAlpha = false by decide)]
      split
      · rw [cutAt_map_toLower (by decide)]
        cases hcut : cutAt '"' rest with
        | mk inner after => cases after <;> rfl
      · rw [List.takeWhile_map, List.dropWhile_map, hblank]
        rfl

/-- The tokens of a text in small letters are its tokens in small letters. -/
theorem scan_map_toLower (source : List Char) :
    scan (source.map Char.toLower) = (scan source).map caseless := by
  have hdrop (source : List Char) : (source.map Char.toLower).dropWhile isBlank =
      (source.dropWhile isBlank).map Char.toLower := by
    rw [List.dropWhile_map, isBlank_comp_toLower]
  -- a token may take any number of characters, so the induction follows the scanner
  induction source using scan.induct with
  | case1 source hnil =>
      rw [scan_of_dropWhile_eq_nil hnil, scan_of_dropWhile_eq_nil]
      · rfl
      · rw [hdrop, hnil]
        rfl
  | case2 source c rest hcons step ih =>
      have hsmall : (source.map Char.toLower).dropWhile isBlank =
          c.toLower :: rest.map Char.toLower := by
        rw [hdrop, hcons]
        rfl
      rw [scan_of_dropWhile_eq_cons hcons, scan_of_dropWhile_eq_cons hsmall, first_map_toLower,
        List.map_cons, ← ih]

/-! ## Marks of a word -/

theorem unsigned_map_toLower (word : List Char) :
    unsigned (word.map Char.toLower) = (unsigned word).map Char.toLower := by
  unfold unsigned
  simp only [head?_map_toLower_eq_some_iff (show '-'.isAlpha = false by decide)]
  split
  · rw [List.map_tail]
  · rfl

theorem unstarred_map_toLower (word : List Char) :
    unstarred (word.map Char.toLower) = (unstarred word).map Char.toLower := by
  unfold unstarred
  simp only [getLast?_map_toLower_eq_some_iff (show '*'.isAlpha = false by decide)]
  split
  · rw [List.map_dropLast]
  · rfl

end Token

/-! ## Filters and terms -/

/-- A filter with all ASCII letters of its value small. -/
def FieldFilter.caseless (filter : FieldFilter) : FieldFilter :=
  { filter with value := Text.caseless filter.value }

/-- A term with all ASCII letters of its text small. -/
def Term.caseless (term : Term) : Term :=
  { term with text := Text.caseless term.text }

/-- A query with all ASCII letters of its texts and values small. -/
def Query.caseless (query : Query) : Query where
  terms := query.terms.map Term.caseless
  filters := query.filters.map FieldFilter.caseless

theorem ofList_map_toLower (text : List Char) :
    String.ofList (text.map Char.toLower) = Text.caseless (String.ofList text) := by
  rw [Text.caseless, String.toList_ofList]

/-- A field goes by its name in any case. -/
theorem Field.ofName?_map_toLower (name : List Char) :
    Field.ofName? (name.map Char.toLower) = Field.ofName? name := by
  rw [Field.ofName?, lower_map_toLower]
  rfl

/-- A value in small letters may follow the same signs. -/
theorem Comparison.Admits.map_toLower {comparison : Comparison} {value : List Char}
    (hadmits : comparison.Admits value) : comparison.Admits (value.map Char.toLower) := by
  have hhead {mark : Char} (hmark : mark.isAlpha = false) :
      value.head? ≠ some mark → (value.map Char.toLower).head? ≠ some mark :=
    mt (head?_map_toLower_eq_some_iff hmark).mp
  cases comparison with
  | equals | greaterOrEqual | lessOrEqual => trivial
  | greaterThan | lessThan => exact hhead (by decide) hadmits
  | contains =>
      obtain ⟨hne, hmarks⟩ := hadmits
      refine ⟨by simpa using hne, fun d hd => ?_⟩
      rw [List.head?_map] at hd
      obtain ⟨c, hc, rfl⟩ := Option.map_eq_some_iff.mp hd
      rw [ne_eq, ne_eq, ne_eq, toLower_eq_iff (by decide), toLower_eq_iff (by decide),
        toLower_eq_iff (by decide)]
      exact hmarks c hc

theorem Comparison.ofMarked_map_toLower (marked : List Char) :
    Comparison.ofMarked (marked.map Char.toLower) =
      ((Comparison.ofMarked marked).1, (Comparison.ofMarked marked).2.map Char.toLower) := by
  by_cases hempty : marked = []
  · subst hempty
    rfl
  · cases hread : Comparison.ofMarked marked with
    | mk comparison value =>
        obtain ⟨rfl, hadmits⟩ := Comparison.ofMarked_spec hempty hread
        have hsign : comparison.sign.map Char.toLower = comparison.sign := by
          cases comparison <;> decide
        rw [List.map_append, hsign, Comparison.ofMarked_sign_append hadmits.map_toLower]

theorem FieldFilter.ofWord?_map_toLower (word : List Char) :
    FieldFilter.ofWord? (word.map Char.toLower) =
      (FieldFilter.ofWord? word).map FieldFilter.caseless := by
  unfold FieldFilter.ofWord?
  rw [cutAt_map_toLower (by decide)]
  cases cutAt ':' word with
  | mk name after =>
      cases after with
      | none => rfl
      | some marked =>
          dsimp only [Option.map_some]
          rw [List.isEmpty_map, List.isEmpty_map, Field.ofName?_map_toLower,
            Comparison.ofMarked_map_toLower]
          split
          · rfl
          · rw [Option.map_map]
            simp only [ofList_map_toLower]
            rfl

/-- The term of a word in small letters, however it is marked. -/
theorem Token.plainTerm_map_toLower (pending : Operator) (word : List Char) :
    Token.plainTerm pending (word.map Char.toLower) =
      (Token.plainTerm pending word).caseless := by
  unfold Token.plainTerm
  rw [unsigned_map_toLower, unstarred_map_toLower, ofList_map_toLower]
  simp only [getLast?_map_toLower_eq_some_iff (show '*'.isAlpha = false by decide),
    head?_map_toLower_eq_some_iff (show '-'.isAlpha = false by decide)]
  rfl

theorem Term.ofWord?_map_toLower (pending : Operator) (word : List Char) :
    Term.ofWord? pending (word.map Char.toLower) =
      (Term.ofWord? pending word).map Term.caseless := by
  rw [Term.ofWord?_eq_ite, Term.ofWord?_eq_ite, Token.unsigned_map_toLower,
    Token.unstarred_map_toLower, Token.plainTerm_map_toLower]
  simp only [List.map_eq_nil_iff]
  split
  · rfl
  · rfl

/-! ## Queries -/

namespace Query

theorem ofTokens_map_caseless (pending : Operator) (tokens : List Token) :
    ofTokens pending (tokens.map Token.caseless) = (ofTokens pending tokens).caseless := by
  induction tokens generalizing pending with
  | nil => rfl
  | cons token tokens ih =>
      cases token with
      | keyword operator spelling => exact ih operator
      | phrase inner closed =>
          rw [List.map_cons, Token.caseless, ofTokens, ofTokens, ih, ofList_map_toLower]
          rfl
      | word text =>
          rw [List.map_cons, Token.caseless, ofTokens, ofTokens, ih,
            FieldFilter.ofWord?_map_toLower, Term.ofWord?_map_toLower]
          cases FieldFilter.ofWord? text with
          | some filter => rfl
          | none => cases Term.ofWord? pending text <;> rfl

/-- The query of a text in small letters is its query in small letters. -/
theorem parse_caseless (text : String) : parse (Text.caseless text) = (parse text).caseless := by
  rw [parse_eq_ofTokens, parse_eq_ofTokens, tokens, toList_caseless, trim_map_toLower,
    Token.scan_map_toLower, ofTokens_map_caseless, tokens]

end Query

end TaskQuery
