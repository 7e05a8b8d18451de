import TaskQuery.Proofs.Query.Writable

/-!
# Search texts with one more word

A search text is complete if it ends neither inside a phrase nor with a keyword.  What is
put behind a complete text, with a blank in between, is read as if it stood alone
(`Query.Complete.parse_eq_append`).  For one more word that by itself is a plain term this
gives the query of the text with the word, with `-` and the word, and with `OR` and the
word: the same term is added each time, under another operator.

That a word is read as one plain term means that it is one token and that the token is
neither a filter nor made of marks, and has no dash (`tokens_of_terms_eq_singleton`).
-/

namespace TaskQuery

open Text Token

namespace Query

/-! ## Complete texts -/

/-- A search text that ends neither inside a phrase nor with a keyword. -/
structure Complete (text : String) : Prop where
  closed : Closed (tokens text)
  noKeyword : ¬ ∃ operator spelling, (tokens text).getLast? = some (.keyword operator spelling)

theorem isBlank_of_mem_space : ∀ c ∈ " ".toList, isBlank c = true :=
  List.all_eq_true.mp (by decide)

/-- Behind a complete text a second one is read as if it stood alone. -/
theorem Complete.parse_eq_append {a : String} (ha : Complete a) (b : String) :
    parse (a ++ " " ++ b) = (parse a).append (parse b) := by
  apply Query.ext
  · rw [terms_append ha.closed (by decide) isBlank_of_mem_space,
      termsAfter_of_no_keyword ha.noKeyword, ← terms_parse]
    rfl
  · exact filters_append ha.closed (by decide) isBlank_of_mem_space

/-! ## Texts of one token -/

theorem termsAfter_of_tokens_eq_singleton {text : String} {token : Token}
    (htokens : tokens text = [token]) (previous : Option Token) :
    termsAfter previous text = (token.termAfter? previous).toList := by
  rw [termsAfter, htokens, withPrevious_cons, List.filterMap_cons]
  cases token.termAfter? previous <;> rfl

theorem filters_parse_of_tokens_eq_word {text : String} {word : List Char}
    (htokens : tokens text = [.word word]) :
    (parse text).filters = (FieldFilter.ofWord? word).toList := by
  have hword : Token.word? (.word word) = some word := rfl
  rw [filters_parse, htokens, List.filterMap_cons_some hword, List.filterMap_nil,
    List.filterMap_cons]
  cases FieldFilter.ofWord? word <;> rfl

/-! ## Words that are plain terms -/

/-- A word that by itself is one term, neither a phrase nor excluded. -/
structure PlainWord (word : String) (term : Term) : Prop where
  noBlank : ∀ c ∈ word.toList, isBlank c = false
  terms : (parse word).terms = [term]
  noPhrase : term.exactPhrase = false
  notExcluded : term.operator ≠ .not

/-- The terms that are scanned from a text, behind a token. -/
def scannedTerms (previous : Option Token) (text : List Char) : List Term :=
  (withPrevious previous (Token.scan text)).filterMap fun pair => pair.2.termAfter? pair.1

theorem scannedTerms_nil (previous : Option Token) : scannedTerms previous [] = [] := by
  rw [scannedTerms, scan_nil]
  rfl

theorem scannedTerms_lexeme_append {token : Token} {rest : List Char}
    (hstarts : token.Starts rest) (previous : Option Token) :
    scannedTerms previous (token.lexeme ++ rest) =
      (token.termAfter? previous).toList ++ scannedTerms (some token) rest := by
  rw [scannedTerms, scan_lexeme_append hstarts, withPrevious_cons, List.filterMap_cons]
  cases token.termAfter? previous <;> rfl

section

variable {term : Term} (hphrase : term.exactPhrase = false)
include hphrase

/-- A phrase at the front is the first term. -/
theorem scannedTerms_phrase_ne {inner : List Char} {closed : Bool} {rest : List Char}
    (hstarts : (Token.phrase inner closed).Starts rest) (previous : Option Token) :
    scannedTerms previous ((Token.phrase inner closed).lexeme ++ rest) ≠ [term] := by
  rw [scannedTerms_lexeme_append hstarts]
  intro heq
  obtain rfl := (List.cons.inj heq).1
  cases hphrase

theorem scannedTerms_quote_ne (previous : Option Token) (rest : List Char) :
    scannedTerms previous ('"' :: rest) ≠ [term] := by
  obtain ⟨inner, closed, hfirst⟩ :
      ∃ inner closed, (Token.first '"' rest).1 = .phrase inner closed := by
    rw [Token.first, keyword?_quote]
    cases hcut : cutAt '"' rest with
    | mk inner after =>
        cases after with
        | none => exact ⟨inner, false, rfl⟩
        | some more => exact ⟨inner, true, rfl⟩
  obtain ⟨hsplit, hstarts⟩ := first_starts (show isBlank '"' = false by decide) rest
  rw [hfirst] at hsplit hstarts
  rw [hsplit]
  exact scannedTerms_phrase_ne hphrase hstarts previous

/-- Behind a keyword there is a blank, a quote or nothing. -/
theorem scannedTerms_keyword_ne {operator : Operator} {spelling rest : List Char}
    (hstarts : (Token.keyword operator spelling).Starts rest)
    (hblank : ∀ next ∈ rest.head?, isBlank next = false) (previous : Option Token) :
    scannedTerms previous ((Token.keyword operator spelling).lexeme ++ rest) ≠ [term] := by
  rw [scannedTerms_lexeme_append hstarts]
  cases rest with
  | nil =>
      rw [scannedTerms_nil]
      intro heq
      cases heq
  | cons next more =>
      rcases hstarts.boundary next rfl with hnext | rfl
      · rw [hblank next rfl] at hnext
        exact absurd hnext Bool.false_ne_true
      · exact scannedTerms_quote_ne hphrase _ more

/-- A run without blanks that is read as one term that is no phrase is one word. -/
theorem tokens_of_terms_eq_singleton {word : String}
    (hblank : ∀ c ∈ word.toList, isBlank c = false) (hterms : (parse word).terms = [term]) :
    tokens word = [.word word.toList] := by
  have hread : tokens word = Token.scan word.toList := by
    rw [tokens, (trimmed_of_no_blank hblank).trim_eq]
  have hscanned : scannedTerms none word.toList = [term] := by
    rw [← hterms, terms_parse, termsAfter, hread, scannedTerms]
  rw [hread]
  generalize word.toList = text at hblank hscanned ⊢
  cases text with
  | nil =>
      rw [scannedTerms_nil] at hscanned
      cases hscanned
  | cons c rest =>
      obtain ⟨token, after, hsplit, hstarts⟩ :
          ∃ token after, c :: rest = Token.lexeme token ++ after ∧ token.Starts after :=
        ⟨_, _, first_starts (hblank c (List.mem_cons_self ..)) rest⟩
      rw [hsplit] at hblank hscanned ⊢
      have hafter : ∀ next ∈ after.head?, isBlank next = false :=
        fun next hnext => hblank next (List.mem_append_right _ (List.mem_of_mem_head? hnext))
      cases token with
      | phrase inner closed => exact absurd hscanned (scannedTerms_phrase_ne hphrase hstarts none)
      | keyword operator spelling =>
          exact absurd hscanned (scannedTerms_keyword_ne hphrase hstarts hafter none)
      | word word =>
          -- a word reaches to the next blank, and there is none
          obtain rfl : after = [] := by
            rw [← List.head?_eq_none_iff, Option.eq_none_iff_forall_not_mem]
            intro next hnext
            have hboundary := hstarts.boundary next hnext
            rw [hafter next hnext] at hboundary
            exact Bool.false_ne_true hboundary
          rw [scan_lexeme_append hstarts, scan_nil, List.append_nil]
          rfl

end

namespace PlainWord

variable {word : String} {term : Term}

theorem tokens_eq (hword : PlainWord word term) : tokens word = [.word word.toList] :=
  tokens_of_terms_eq_singleton hword.noPhrase hword.noBlank hword.terms

theorem termAfter?_eq (hword : PlainWord word term) :
    (Token.word word.toList).termAfter? none = some term := by
  have hterms := hword.terms
  rw [terms_parse, termsAfter_of_tokens_eq_singleton hword.tokens_eq] at hterms
  exact Option.toList_eq_singleton_iff.mp hterms

/-- The word is no filter and more than marks, and the term is the one of the word. -/
theorem reads (hword : PlainWord word term) :
    FieldFilter.ofWord? word.toList = none ∧ word.toList ∉ bareMarks ∧
      plainTerm .and word.toList = term := by
  have hread := hword.termAfter?_eq
  rw [termAfter?] at hread
  split at hread
  · simp at hread
  · rename_i hneither
    obtain ⟨hfilter, hbare⟩ := not_or.mp hneither
    exact ⟨Option.not_isSome_iff_eq_none.mp hfilter, hbare, Option.some.inj hread⟩

theorem head?_ne_dash (hword : PlainWord word term) : word.toList.head? ≠ some '-' := by
  intro hdash
  apply hword.notExcluded
  rw [← hword.reads.2.2]
  exact if_pos hdash

/-- Behind any token the word is the same term, with the operator that is handed on. -/
theorem termsAfter_eq (hword : PlainWord word term) (previous : Option Token) :
    termsAfter previous word = [{ term with operator := operatorAfter previous }] := by
  obtain ⟨hfilter, hbare, hterm⟩ := hword.reads
  have hread : (Token.word word.toList).termAfter? previous =
      some { term with operator := operatorAfter previous } := by
    rw [termAfter?, if_neg (by simp [hfilter, hbare]), ← hterm]
    simp [plainTerm, hword.head?_ne_dash]
  rw [termsAfter_of_tokens_eq_singleton hword.tokens_eq, hread]
  rfl

theorem operator_eq (hword : PlainWord word term) : term.operator = .and := by
  have hterms := hword.terms
  rw [terms_parse, hword.termsAfter_eq] at hterms
  rw [← (List.cons.inj hterms).1]
  rfl

theorem filters_eq (hword : PlainWord word term) : (parse word).filters = [] := by
  rw [filters_parse_of_tokens_eq_word hword.tokens_eq, hword.reads.1]
  rfl

theorem parse_eq (hword : PlainWord word term) : parse word = { terms := [term] } :=
  Query.ext hword.terms hword.filters_eq

/-! ## The word with a dash, and behind `OR` -/

/-- With a dash in front the word is excluded. -/
theorem parse_dash (hword : PlainWord word term) :
    parse ("-" ++ word) = { terms := [{ term with operator := .not }] } := by
  obtain ⟨-, hbare, hterm⟩ := hword.reads
  have hblank : ∀ c ∈ '-' :: word.toList, isBlank c = false := by
    intro c hc
    rcases List.mem_cons.mp hc with rfl | hc
    · decide
    · exact hword.noBlank c hc
  have htokens : tokens ("-" ++ word) = [.word ('-' :: word.toList)] := by
    have halone : (Token.word ('-' :: word.toList)).StandsAlone :=
      standsAlone_word (List.cons_ne_nil _ _) hblank (by simp)
        (not_startsWithKeyword_of_mark (Or.inr rfl) _)
    have hlexeme : String.ofList (Token.word ('-' :: word.toList)).lexeme = "-" ++ word := by
      rw [← String.toList_inj, String.toList_ofList, String.toList_append]
      rfl
    rw [← hlexeme, tokens_lexeme halone]
  have hmore : '-' :: word.toList ∉ bareMarks := by
    -- without its dash such a word would be a bare mark, or empty
    have hne : word.toList ≠ [] := word_ne_nil_of_mem_tokens (by rw [hword.tokens_eq]; simp)
    have hstar : word.toList ≠ ['*'] := by
      rintro hstar
      rw [hstar] at hbare
      exact hbare (by decide)
    simp [bareMarks, hne, hstar]
  have hread : (Token.word ('-' :: word.toList)).termAfter? none =
      some { term with operator := .not } := by
    rw [termAfter?, if_neg (by simp [FieldFilter.ofWord?_dash, hmore]), ← hterm]
    simp [plainTerm, unsigned, hword.head?_ne_dash]
  apply Query.ext
  · rw [terms_parse, termsAfter_of_tokens_eq_singleton htokens, hread]
    rfl
  · rw [filters_parse_of_tokens_eq_word htokens, FieldFilter.ofWord?_dash]
    rfl

end PlainWord

/-- The keyword `OR` as a text of its own. -/
theorem tokens_or : tokens "OR" = [.keyword .or "OR".toList] := by
  have hmem : Token.keyword .or "OR".toList ∈ Operator.or.tokens := List.mem_singleton_self _
  have htokens := tokens_lexeme (Operator.standsAlone_tokens hmem)
  rwa [lexeme, String.ofList_toList] at htokens

/-- Behind a complete text and `OR` a plain word is one more term, an alternative. -/
theorem Complete.parse_or_eq_append {a word : String} {term : Term} (ha : Complete a)
    (hword : PlainWord word term) :
    parse (a ++ " OR " ++ word) =
      (parse a).append { terms := [{ term with operator := .or }] } := by
  have hspaces : a ++ " OR " ++ word = a ++ " " ++ "OR" ++ " " ++ word := by
    rw [← String.toList_inj]
    simp only [String.toList_append, List.append_assoc]
    rfl
  have htokens : tokens (a ++ " " ++ "OR") = tokens a ++ [.keyword .or "OR".toList] := by
    rw [tokens_append ha.closed (by decide) isBlank_of_mem_space, tokens_or]
  have hlast : (tokens (a ++ " " ++ "OR")).getLast? = some (.keyword .or "OR".toList) := by
    rw [htokens, List.getLast?_concat]
  have hclosed : Closed (tokens (a ++ " " ++ "OR")) := by
    intro last hmem
    rw [hlast] at hmem
    obtain rfl := Option.some.inj hmem
    exact id
  have hor : parse "OR" = {} := by
    rw [parse_eq_ofTokens, tokens_or]
    rfl
  have hbefore : parse (a ++ " " ++ "OR") = (parse a).append {} := by
    rw [ha.parse_eq_append, hor]
  rw [hspaces]
  apply Query.ext
  · rw [terms_append hclosed (by decide) isBlank_of_mem_space, hlast, hword.termsAfter_eq, hbefore]
    simp [append, operatorAfter]
  · rw [filters_append hclosed (by decide) isBlank_of_mem_space, hword.filters_eq, hbefore]
    simp [append]

end Query

end TaskQuery
