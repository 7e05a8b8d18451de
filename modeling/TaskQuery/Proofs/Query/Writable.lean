import TaskQuery.Proofs.Query.Composition
import TaskQuery.Proofs.Query.FilterWord

/-!
# Which queries can be written

Not every query is the query of a text: a phrase cannot contain a quote, a word that
looks like a filter cannot be asked for.  This file says which queries have a text
(`Query.Writable`) and gives one for each of them (`Query.canonical`).

## Strategy

A query is written as a sequence of tokens with single blanks between them.  Each of
these tokens is read back when it stands alone, and so is the whole sequence, since
texts with blanks between them are scanned one by one (`tokens_spaced`).  It remains to
see what the parser makes of the tokens of one term or one filter in front of others
(`ofTokens_term_append`, `ofTokens_filters`).  In the other direction, each term comes
from a token that satisfies its rule (`Token.Starts`), and the rule is what
`Query.Writable` asks for.
-/

namespace TaskQuery

open Text Token

/-! ## Queries that can be written -/

/-- A phrase that can stand between quotes. -/
structure Term.WritablePhrase (term : Term) : Prop where
  noStar : term.wildcard = false
  noQuote : '"' ∉ term.text.toList

/-- A word that can stand behind a dash. -/
structure Term.WritableWord (term : Term) : Prop where
  nonempty : term.text ≠ ""
  noBlank : ∀ c ∈ term.text.toList, isBlank c = false
  noStar : term.wildcard = false → term.text.toList.getLast? ≠ some '*'

/-- A word with the star that marks a wildcard. -/
def Term.starred (term : Term) : List Char :=
  term.text.toList ++ if term.wildcard then ['*'] else []

/-- A word that means itself without a dash in front: no other token starts where it
starts, and it is not a filter. -/
structure Term.NeedsNoDash (term : Term) : Prop where
  noDash : term.text.toList.head? ≠ some '-'
  noQuote : term.text.toList.head? ≠ some '"'
  noKeyword : ∀ operator : Operator, ¬ operator.SpelledAs term.starred
  noKeywordQuote : ∀ (operator : Operator) (spelling rest : List Char),
    term.starred = spelling ++ '"' :: rest → ¬ operator.SpelledAs spelling
  noFilter : FieldFilter.ofWord? term.starred = none

/-- A term that can be written. -/
structure Term.Writable (term : Term) : Prop where
  phrase : term.exactPhrase = true → term.WritablePhrase
  word : term.exactPhrase = false → term.WritableWord
  bareWord : term.exactPhrase = false → term.operator ≠ .not → term.NeedsNoDash

/-- A filter whose value is a part of a word and keeps its distance from the sign. -/
structure FieldFilter.Writable (filter : FieldFilter) : Prop where
  noBlank : ∀ c ∈ filter.value.toList, isBlank c = false
  admits : filter.comparison.Admits filter.value.toList

/-- The queries that some text has. -/
structure Query.Writable (query : Query) : Prop where
  terms : ∀ term ∈ query.terms, term.Writable
  filters : ∀ filter ∈ query.filters, filter.Writable

/-! ## The canonical text -/

/-- The keyword that sets an operator; `AND` needs none. -/
def Operator.tokens : Operator → List Token
  | .and => []
  | operator => [.keyword operator operator.name.toList]

/-- The tokens that a term is written with. -/
def Term.tokens (term : Term) : List Token :=
  if term.exactPhrase then term.operator.tokens ++ [.phrase term.text.toList true]
  else if term.operator = .not then [.word ('-' :: term.starred)]
  else term.operator.tokens ++ [.word term.starred]

/-- The word that a filter is written as. -/
def FieldFilter.word (filter : FieldFilter) : List Char :=
  filter.field.name.toList ++ ':' :: (filter.comparison.sign ++ filter.value.toList)

namespace Query

/-- The tokens that a query is written with, first its terms and then its filters. -/
def canonicalTokens (query : Query) : List Token :=
  query.terms.flatMap Term.tokens ++ query.filters.map fun filter => .word filter.word

/-- Tokens with single spaces between them. -/
def spaced (tokens : List Token) : String :=
  " ".intercalate (tokens.map fun token => String.ofList token.lexeme)

/-- The canonical text of a query. -/
def canonical (query : Query) : String :=
  spaced query.canonicalTokens

example :
    canonical {
      terms := [{ text := "tea", wildcard := true, operator := .or },
        { text := "green tea", exactPhrase := true, operator := .not },
        { text := "AND", operator := .not }]
      filters := [{ field := .dueDate, comparison := .lessThan, value := "2024-05-01" }] } =
    "OR tea* NOT \"green tea\" -AND dueDate:<2024-05-01" := by
  decide

end Query

/-! ## Tokens that are read back -/

namespace Token

/-- A token that may stand at the end of a text, whatever is put behind it. -/
structure StandsAlone (token : Token) : Prop where
  starts : token.Starts []
  closed : ¬ token.IsOpen

theorem StandsAlone.trimmed_lexeme {token : Token} (halone : token.StandsAlone) :
    Trimmed token.lexeme := by
  obtain ⟨hstarts, hclosed⟩ := halone
  cases token with
  | keyword operator spelling =>
      exact trimmed_of_no_blank (not_isBlank_of_spelledAs hstarts.spelled)
  | word text => exact trimmed_of_no_blank hstarts.noBlank
  | phrase inner closed =>
      cases closed with
      | false => exact absurd trivial hclosed
      | true =>
          -- the blanks of a phrase are between its quotes
          refine ⟨fun c hc => ?_, fun c hc => ?_⟩
          · obtain rfl : '"' = c := Option.some.inj hc
            decide
          · rw [Option.mem_def, lexeme, List.getLast?_concat] at hc
            obtain rfl : '"' = c := Option.some.inj hc
            decide

end Token

namespace Query

theorem tokens_lexeme {token : Token} (halone : token.StandsAlone) :
    tokens (String.ofList token.lexeme) = [token] := by
  have hscan := scan_lexeme_append halone.starts
  rw [List.append_nil, scan_nil] at hscan
  rw [tokens, String.toList_ofList, halone.trimmed_lexeme.trim_eq, hscan]

/-- Tokens that stand alone are read back from a text that has spaces between them. -/
theorem tokens_spaced {sequence : List Token} (halone : ∀ token ∈ sequence, token.StandsAlone) :
    tokens (spaced sequence) = sequence := by
  induction sequence with
  | nil => exact scan_nil
  | cons token rest ih =>
      have htoken := halone token (List.mem_cons_self ..)
      have hrest := ih fun other hother => halone other (List.mem_cons_of_mem token hother)
      cases rest with
      | nil => exact tokens_lexeme htoken
      | cons second more =>
          have hclosed : Closed (tokens (String.ofList token.lexeme)) := by
            rw [tokens_lexeme htoken]
            intro last hlast
            obtain rfl : token = last := Option.some.inj hlast
            exact htoken.closed
          have hspaced : spaced (token :: second :: more) =
              String.ofList token.lexeme ++ " " ++ spaced (second :: more) :=
            String.intercalate_cons_cons
          have hspace : ∀ c ∈ " ".toList, isBlank c = true := List.all_eq_true.mp (by decide)
          rw [hspaced, tokens_append hclosed (by decide) hspace, tokens_lexeme htoken, hrest]
          rfl

end Query

/-! ## The words of terms -/

namespace Term.WritableWord

variable {term : Term}

theorem text_ne_nil (hword : term.WritableWord) : term.text.toList ≠ [] := by
  simpa using hword.nonempty

theorem isBlank_starred (hword : term.WritableWord) : ∀ c ∈ term.starred, isBlank c = false := by
  intro c hc
  rcases List.mem_append.mp hc with hc | hc
  · exact hword.noBlank c hc
  · have hstar : c = '*' := by
      cases hwildcard : term.wildcard with
      | true => simpa [hwildcard] using hc
      | false => simp [hwildcard] at hc
    rw [hstar]
    decide

theorem head?_starred (hword : term.WritableWord) :
    term.starred.head? = term.text.toList.head? := by
  obtain ⟨c, rest, htext⟩ := List.exists_cons_of_ne_nil hword.text_ne_nil
  rw [starred, htext]
  rfl

theorem getLast?_starred (hword : term.WritableWord) :
    term.starred.getLast? = some '*' ↔ term.wildcard = true := by
  unfold starred
  cases hwildcard : term.wildcard with
  | true => simp
  | false => simpa using hword.noStar hwildcard

theorem unstarred_starred (hword : term.WritableWord) :
    unstarred term.starred = term.text.toList := by
  unfold unstarred
  by_cases hlast : term.starred.getLast? = some '*'
  · rw [if_pos hlast, starred, if_pos (hword.getLast?_starred.mp hlast), List.dropLast_concat]
  · have hwildcard : ¬ term.wildcard = true := fun h => hlast (hword.getLast?_starred.mpr h)
    rw [if_neg hlast, starred, if_neg hwildcard, List.append_nil]

/-- A word that is the starred text, or has it behind a dash, is read as the term. -/
theorem ofWord?_eq_some (hword : term.WritableWord) (hexact : term.exactPhrase = false)
    {pending : Operator} {word : List Char} (hunsigned : unsigned word = term.starred)
    (hoperator : (if word.head? = some '-' then .not else pending) = term.operator) :
    Term.ofWord? pending word = some term := by
  have hne : unstarred (unsigned word) ≠ [] := by
    rw [hunsigned, hword.unstarred_starred]
    exact hword.text_ne_nil
  have hwildcard : decide (term.starred.getLast? = some '*') = term.wildcard := by
    simp only [hword.getLast?_starred, Bool.decide_eq_true]
  rw [Term.ofWord?_eq_ite, if_neg hne, plainTerm, hunsigned, hword.unstarred_starred, hoperator,
    hwildcard, String.ofList_toList, ← hexact]

end Term.WritableWord

/-! ## The tokens of a query are read back -/

namespace Token

theorem standsAlone_word {word : List Char} (hne : word ≠ [])
    (hblank : ∀ c ∈ word, isBlank c = false) (hquote : word.head? ≠ some '"')
    (hkeyword : ¬ StartsWithKeyword word) : (Token.word word).StandsAlone where
  starts := by
    refine ⟨hne, hblank, by simp, hquote, ?_⟩
    rwa [List.append_nil]
  closed := id

end Token

theorem Operator.standsAlone_tokens {operator : Operator} {token : Token}
    (hmem : token ∈ operator.tokens) : token.StandsAlone := by
  have hkeyword : token = .keyword operator operator.name.toList := by
    cases operator with
    | and => exact absurd hmem List.not_mem_nil
    | or => exact List.mem_singleton.mp hmem
    | not => exact List.mem_singleton.mp hmem
  subst hkeyword
  refine ⟨⟨?_, by simp⟩, id⟩
  cases operator <;> decide

theorem Term.NeedsNoDash.not_startsWithKeyword {term : Term} (hbare : term.NeedsNoDash)
    (hword : term.WritableWord) : ¬ StartsWithKeyword term.starred := by
  rw [startsWithKeyword_iff_of_no_blank hword.isBlank_starred]
  rintro (⟨operator, hspelled⟩ | ⟨operator, spelling, rest, hsplit, hspelled⟩)
  · exact hbare.noKeyword operator hspelled
  · exact hbare.noKeywordQuote operator spelling rest hsplit hspelled

theorem Term.Writable.standsAlone {term : Term} (hterm : term.Writable) :
    ∀ token ∈ term.tokens, token.StandsAlone := by
  intro token hmem
  unfold Term.tokens at hmem
  by_cases hexact : term.exactPhrase = true
  · rw [if_pos hexact] at hmem
    rcases List.mem_append.mp hmem with hmem | hmem
    · exact Operator.standsAlone_tokens hmem
    · obtain rfl := List.mem_singleton.mp hmem
      exact ⟨(hterm.phrase hexact).noQuote, id⟩
  · rw [if_neg hexact] at hmem
    have hexact : term.exactPhrase = false := Bool.eq_false_iff.mpr hexact
    have hword := hterm.word hexact
    by_cases hnot : term.operator = .not
    · rw [if_pos hnot] at hmem
      obtain rfl := List.mem_singleton.mp hmem
      -- behind the dash any word will do
      refine standsAlone_word (List.cons_ne_nil _ _) ?_ (by simp)
        (not_startsWithKeyword_of_mark (Or.inr rfl) _)
      exact List.forall_mem_cons.mpr ⟨by decide, hword.isBlank_starred⟩
    · rw [if_neg hnot] at hmem
      rcases List.mem_append.mp hmem with hmem | hmem
      · exact Operator.standsAlone_tokens hmem
      · obtain rfl := List.mem_singleton.mp hmem
        have hbare := hterm.bareWord hexact hnot
        refine standsAlone_word ?_ hword.isBlank_starred ?_ (hbare.not_startsWithKeyword hword)
        · intro hnil
          exact hword.text_ne_nil (List.append_eq_nil_iff.mp hnil).1
        · rw [hword.head?_starred]
          exact hbare.noQuote

/-- The names of fields are longer than keywords and have no marks. -/
theorem Field.name_spec (field : Field) :
    (∀ c ∈ field.name.toList, isBlank c = false ∧ c ≠ '"') ∧ 3 < field.name.toList.length ∧
      ':' ∉ field.name.toList ∧ Field.ofName? field.name.toList = some field := by
  have hmarks : field.name.toList.all (fun c => !isBlank c && c != '"') = true := by
    cases field <;> decide
  refine ⟨fun c hc => ?_, ?_, ?_, ?_⟩
  · simpa using List.all_eq_true.mp hmarks c hc
  all_goals cases field <;> decide

theorem FieldFilter.Writable.standsAlone {filter : FieldFilter} (hfilter : filter.Writable) :
    (Token.word filter.word).StandsAlone := by
  obtain ⟨hname, hlong, -, -⟩ := filter.field.name_spec
  have hne : filter.field.name.toList ≠ [] := List.ne_nil_of_length_pos (by omega)
  refine standsAlone_word (List.append_ne_nil_of_left_ne_nil hne _) ?_ ?_
    (not_startsWithKeyword_of_run hname hlong _)
  · intro c hc
    rcases List.mem_append.mp hc with hc | hc
    · exact (hname c hc).1
    · rcases List.mem_cons.mp hc with rfl | hc
      · decide
      · rcases List.mem_append.mp hc with hc | hc
        · have hsign : filter.comparison.sign.all (!isBlank ·) = true := by
            cases filter.comparison <;> decide
          simpa using List.all_eq_true.mp hsign c hc
        · exact hfilter.noBlank c hc
  · rw [FieldFilter.word, List.head?_append_of_ne_nil _ hne]
    intro hquote
    exact (hname '"' (List.mem_of_mem_head? hquote)).2 rfl

theorem FieldFilter.Writable.ofWord?_word {filter : FieldFilter} (hfilter : filter.Writable) :
    FieldFilter.ofWord? filter.word = some filter := by
  obtain ⟨-, -, hcolon, hfield⟩ := filter.field.name_spec
  exact FieldFilter.ofWord?_eq_some_iff.mpr
    ⟨filter.field.name.toList, rfl, hcolon, hfield, hfilter.admits⟩

namespace Query

theorem ofTokens_operator_append (operator : Operator) (more : List Token) :
    ofTokens .and (operator.tokens ++ more) = ofTokens operator more := by
  cases operator <;> rfl

/-- The tokens of a term put the term in front of the query. -/
theorem ofTokens_term_append {term : Term} (hterm : term.Writable) (more : List Token) :
    ofTokens .and (term.tokens ++ more) = (ofTokens .and more).consTerm term := by
  unfold Term.tokens
  by_cases hexact : term.exactPhrase = true
  · have hphrase := hterm.phrase hexact
    rw [if_pos hexact, List.append_assoc, ofTokens_operator_append, List.cons_append, ofTokens,
      String.ofList_toList, ← hexact, ← hphrase.noStar, List.nil_append]
  · rw [if_neg hexact]
    have hexact : term.exactPhrase = false := Bool.eq_false_iff.mpr hexact
    have hword := hterm.word hexact
    by_cases hnot : term.operator = .not
    · have hread : Term.ofWord? .and ('-' :: term.starred) = some term :=
        hword.ofWord?_eq_some hexact rfl hnot.symm
      rw [if_pos hnot, List.cons_append, ofTokens, FieldFilter.ofWord?_dash, hread]
      rfl
    · have hbare := hterm.bareWord hexact hnot
      have hdash : term.starred.head? ≠ some '-' := by
        rw [hword.head?_starred]
        exact hbare.noDash
      have hread : Term.ofWord? term.operator term.starred = some term :=
        hword.ofWord?_eq_some hexact (if_neg hdash) (if_neg hdash)
      rw [if_neg hnot, List.append_assoc, ofTokens_operator_append, List.cons_append, ofTokens,
        hbare.noFilter, hread]
      rfl

theorem ofTokens_filters {filters : List FieldFilter}
    (hfilters : ∀ filter ∈ filters, filter.Writable) :
    ofTokens .and (filters.map fun filter => .word filter.word) = { filters } := by
  induction filters with
  | nil => rfl
  | cons filter rest ih =>
      have hrest := ih fun other hother => hfilters other (List.mem_cons_of_mem filter hother)
      rw [List.map_cons, ofTokens, (hfilters filter (List.mem_cons_self ..)).ofWord?_word, hrest]
      rfl

theorem ofTokens_terms_append {terms : List Term} (hterms : ∀ term ∈ terms, term.Writable)
    (more : List Token) :
    ofTokens .and (terms.flatMap Term.tokens ++ more) =
      { ofTokens .and more with terms := terms ++ (ofTokens .and more).terms } := by
  induction terms with
  | nil => rfl
  | cons term rest ih =>
      have hrest := ih fun other hother => hterms other (List.mem_cons_of_mem term hother)
      rw [List.flatMap_cons, List.append_assoc,
        ofTokens_term_append (hterms term (List.mem_cons_self ..)), hrest]
      rfl

/-- The canonical text of a query that can be written is read as the query. -/
theorem parse_canonical {query : Query} (hquery : query.Writable) :
    parse query.canonical = query := by
  have halone : ∀ token ∈ query.canonicalTokens, token.StandsAlone := by
    intro token hmem
    rcases List.mem_append.mp hmem with hmem | hmem
    · obtain ⟨term, hterm, htoken⟩ := List.mem_flatMap.mp hmem
      exact (hquery.terms term hterm).standsAlone token htoken
    · obtain ⟨filter, hfilter, rfl⟩ := List.mem_map.mp hmem
      exact (hquery.filters filter hfilter).standsAlone
  calc parse query.canonical
      = ofTokens .and (tokens query.canonical) := parse_eq_ofTokens _
    _ = ofTokens .and query.canonicalTokens := by rw [canonical, tokens_spaced halone]
    _ = query := by
      rw [canonicalTokens, ofTokens_terms_append hquery.terms, ofTokens_filters hquery.filters,
        List.append_nil]

end Query

/-! ## The query of a text can be written -/

namespace Token

theorem mem_of_mem_unsigned {word : List Char} {c : Char} (hc : c ∈ unsigned word) : c ∈ word := by
  unfold unsigned at hc
  split at hc
  · exact List.mem_of_mem_tail hc
  · exact hc

theorem mem_of_mem_unstarred {word : List Char} {c : Char} (hc : c ∈ unstarred word) :
    c ∈ word := by
  unfold unstarred at hc
  split at hc
  · exact List.dropLast_subset word hc
  · exact hc

/-- Putting the star back gives the word without its dash. -/
theorem starred_plainTerm (operator : Operator) (word : List Char) :
    (plainTerm operator word).starred = unsigned word := by
  simp only [Term.starred, plainTerm, String.toList_ofList, decide_eq_true_eq]
  unfold unstarred
  by_cases hlast : (unsigned word).getLast? = some '*'
  · obtain ⟨front, hfront⟩ := List.getLast?_eq_some_iff.mp hlast
    rw [if_pos hlast, if_pos hlast, hfront, List.dropLast_concat]
  · rw [if_neg hlast, if_neg hlast, List.append_nil]

/-- The term of a word that is more than marks is a word again. -/
theorem writableWord_plainTerm {word rest : List Char} (hstarts : WordBefore word rest)
    (hbare : word ∉ bareMarks) (operator : Operator) :
    (plainTerm operator word).WritableWord where
  nonempty := by
    rw [← unstarred_unsigned_eq_nil_iff hstarts.nonempty] at hbare
    simpa [plainTerm] using hbare
  noBlank := by
    intro c hc
    rw [plainTerm, String.toList_ofList] at hc
    exact hstarts.noBlank c (mem_of_mem_unsigned (mem_of_mem_unstarred hc))
  noStar := by
    intro hwildcard
    have hlast : ¬ (unsigned word).getLast? = some '*' := of_decide_eq_false hwildcard
    rwa [plainTerm, String.toList_ofList, unstarred, if_neg hlast]

theorem writable_plainTerm {word rest : List Char} (hstarts : WordBefore word rest)
    (hbare : word ∉ bareMarks) (hfilter : FieldFilter.ofWord? word = none) (operator : Operator) :
    (plainTerm operator word).Writable where
  phrase := fun hexact => absurd hexact Bool.false_ne_true
  word := fun _ => writableWord_plainTerm hstarts hbare operator
  bareWord := by
    intro _ hnot
    have hdash : word.head? ≠ some '-' := fun hdash => hnot (if_pos hdash)
    have hword := writableWord_plainTerm hstarts hbare operator
    -- without a dash the starred text is the word, for which its rule holds
    have hstarred : (plainTerm operator word).starred = word := by
      rw [starred_plainTerm, unsigned, if_neg hdash]
    have hkeyword := hstarts.noKeyword
    rw [startsWithKeyword_append_iff hstarts.noBlank hstarts.boundary,
      startsWithKeyword_iff_of_no_blank hstarts.noBlank] at hkeyword
    refine ⟨?_, ?_, ?_, ?_, ?_⟩
    · rwa [← hword.head?_starred, hstarred]
    · rw [← hword.head?_starred, hstarred]
      exact hstarts.noQuote
    · intro candidate hspelled
      rw [hstarred] at hspelled
      exact hkeyword (Or.inl ⟨candidate, hspelled⟩)
    · intro candidate spelling tail hsplit hspelled
      rw [hstarred] at hsplit
      exact hkeyword (Or.inr ⟨candidate, spelling, tail, hsplit, hspelled⟩)
    · rwa [hstarred]

theorem writable_of_termAfter? {token : Token} {rest : List Char} {previous : Option Token}
    {term : Term} (hstarts : token.Starts rest) (hterm : token.termAfter? previous = some term) :
    term.Writable := by
  cases token with
  | keyword operator spelling => simp [termAfter?] at hterm
  | phrase inner closed =>
      have hquote : '"' ∉ inner := by
        cases closed with
        | true => exact hstarts
        | false => exact hstarts.1
      obtain rfl := Option.some.inj hterm
      refine ⟨fun _ => ⟨rfl, ?_⟩, ?_, ?_⟩
      · rwa [String.toList_ofList]
      · intro hexact
        simp at hexact
      · intro hexact
        simp at hexact
  | word text =>
      rw [termAfter?] at hterm
      split at hterm
      · simp at hterm
      · rename_i hneither
        obtain ⟨hfilter, hbare⟩ := not_or.mp hneither
        obtain rfl := Option.some.inj hterm
        exact writable_plainTerm hstarts hbare (Option.not_isSome_iff_eq_none.mp hfilter) _

end Token

theorem FieldFilter.writable_of_ofWord? {word : List Char} {filter : FieldFilter}
    (hblank : ∀ c ∈ word, isBlank c = false) (hword : FieldFilter.ofWord? word = some filter) :
    filter.Writable := by
  obtain ⟨name, rfl, -, -, hadmits⟩ := FieldFilter.ofWord?_eq_some_iff.mp hword
  refine ⟨fun c hc => hblank c ?_, hadmits⟩
  simp [hc]

namespace Query

theorem writable_parse (text : String) : (parse text).Writable where
  terms := by
    intro term hterm
    rw [terms_parse] at hterm
    obtain ⟨⟨previous, token⟩, hpair, htoken⟩ := List.mem_filterMap.mp hterm
    obtain ⟨rest, hstarts⟩ := exists_starts_of_mem_scan (List.of_mem_zip hpair).2
    exact writable_of_termAfter? hstarts htoken
  filters := by
    intro filter hfilter
    rw [filters_parse] at hfilter
    obtain ⟨word, hword, hread⟩ := List.mem_filterMap.mp hfilter
    obtain ⟨token, htoken, hsome⟩ := List.mem_filterMap.mp hword
    cases token with
    | keyword operator spelling => simp [word?] at hsome
    | phrase inner closed => simp [word?] at hsome
    | word text =>
        obtain rfl := Option.some.inj hsome
        obtain ⟨rest, hstarts⟩ := exists_starts_of_mem_scan htoken
        exact FieldFilter.writable_of_ofWord? hstarts.noBlank hread

/-- **Which queries texts have.**  A query is the query of some text exactly if its
phrases contain no quote, its words are words that nothing else is read from and its
filter values keep apart from their signs; and then it is the query of its canonical
text. -/
theorem exists_parse_eq_iff (query : Query) :
    ((∃ text, parse text = query) ↔ query.Writable) ∧
      (query.Writable → parse query.canonical = query) := by
  refine ⟨⟨?_, ?_⟩, parse_canonical⟩
  · rintro ⟨text, rfl⟩
    exact writable_parse text
  · intro hquery
    exact ⟨query.canonical, parse_canonical hquery⟩

end Query

end TaskQuery
