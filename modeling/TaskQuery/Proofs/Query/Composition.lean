import TaskQuery.Proofs.Query.Reading
import TaskQuery.Proofs.Text.Trim

/-!
# Two search texts in one

Two search texts with blanks between them are read as one after the other, with a
single exception: a keyword at the end of the first text sets the operator of the first
term of the second, if the second text starts with that term and the term has no dash.

## Strategy

The scan is followed from the left.  Each token of the first text but a phrase without
closing quote satisfies its rule also in front of the longer rest, since what comes next
is either the same character as before or a blank (`Starts.append_gap`).  So the tokens
of the whole are the tokens of the parts (`tokens_append`).  The query of the tokens
then differs from the two queries in one place only, the token at the seam, because a
token says what it says by itself and the token just before it (`withPrevious_append`).
-/

namespace TaskQuery

open Text

namespace Token

/-! ## The tokens of a text with a gap in it -/

/-- A phrase that lacks its closing quote. -/
def IsOpen : Token → Prop
  | phrase _ false => True
  | _ => False

theorem exists_eq_phrase_of_isOpen {token : Token} (hopen : token.IsOpen) :
    ∃ inner, token = phrase inner false := by
  cases token with
  | keyword operator spelling => exact absurd hopen id
  | word text => exact absurd hopen id
  | phrase inner closed =>
      cases closed with
      | true => exact absurd hopen id
      | false => exact ⟨inner, rfl⟩

/-- A sequence of tokens that does not end inside a phrase. -/
def Closed (tokens : List Token) : Prop :=
  ∀ token ∈ tokens.getLast?, ¬ token.IsOpen

/-- Blanks and more text put behind a text leave the boundary of its parts alone. -/
theorem boundary_append_gap {P : Char → Prop} (hblanks : ∀ c, isBlank c = true → P c)
    {rest gap : List Char} (hrest : ∀ next ∈ rest.head?, P next) (hgap : gap ≠ [])
    (hblank : ∀ c ∈ gap, isBlank c = true) (more : List Char) :
    ∀ next ∈ (rest ++ (gap ++ more)).head?, P next := by
  intro next hnext
  cases rest with
  | cons c tail => exact hrest next hnext
  | nil =>
      obtain ⟨d, letters, rfl⟩ := List.exists_cons_of_ne_nil hgap
      have hsame : d = next := Option.some.inj hnext
      exact hblanks next (hblank next (hsame ▸ List.mem_cons_self ..))

/-- A token stays what it is when blanks and more text are put behind, unless it is a
phrase without closing quote. -/
theorem Starts.append_gap {token : Token} {rest gap : List Char} (hstarts : token.Starts rest)
    (hopen : ¬ token.IsOpen) (hgap : gap ≠ []) (hblank : ∀ c ∈ gap, isBlank c = true)
    (more : List Char) : token.Starts (rest ++ (gap ++ more)) := by
  cases token with
  | keyword operator spelling =>
      exact ⟨hstarts.spelled,
        boundary_append_gap (fun _ hc => Or.inl hc) hstarts.boundary hgap hblank more⟩
  | phrase inner closed =>
      cases closed with
      | true => exact hstarts
      | false => exact absurd trivial hopen
  | word text =>
      have hboundary := boundary_append_gap (fun _ hc => hc) hstarts.boundary hgap hblank more
      refine ⟨hstarts.nonempty, hstarts.noBlank, hboundary, hstarts.noQuote, ?_⟩
      rw [startsWithKeyword_append_iff hstarts.noBlank hboundary,
        ← startsWithKeyword_append_iff hstarts.noBlank hstarts.boundary]
      exact hstarts.noKeyword

/-- Behind a text that does not end inside a phrase, and a gap, the scan starts anew. -/
theorem scan_append_gap {source gap : List Char} (hclosed : Closed (scan source))
    (hgap : gap ≠ []) (hblank : ∀ c ∈ gap, isBlank c = true) (rest : List Char) :
    scan (source ++ (gap ++ rest)) = scan source ++ scan rest := by
  obtain ⟨pieces, hsplits⟩ := exists_splits source
  induction hsplits with
  | nil => rw [List.nil_append, scan_blanks_append hblank, scan_nil, List.nil_append]
  | @cons piece tail pieces hfits _ ih =>
      rw [List.append_assoc]
      -- blanks are passed over, and a token is read as before since it is not open
      cases piece with
      | blanks run =>
          rw [Piece.text, scan_blanks_append hfits.2.1] at hclosed ⊢
          rw [scan_blanks_append hfits.2.1]
          exact ih hclosed
      | token token =>
          have htoken : token.Starts tail := hfits
          rw [Piece.text, scan_lexeme_append htoken] at hclosed ⊢
          have hopen : ¬ token.IsOpen := by
            intro hopen
            -- behind an open phrase there is nothing, so it would be the last token
            obtain ⟨inner, rfl⟩ := exists_eq_phrase_of_isOpen hopen
            obtain ⟨-, rfl⟩ := htoken
            exact hclosed (phrase inner false) (by simp) trivial
          have htail : Closed (scan tail) := by
            intro last hlast
            refine hclosed last ?_
            rw [Option.mem_def, List.getLast?_cons, Option.mem_def.mp hlast]
            rfl
          rw [scan_lexeme_append (htoken.append_gap hopen hgap hblank rest), ih htail]
          rfl

/-! ## The token behind a keyword -/

/-- The tokens that a keyword says nothing about: another keyword, and a word that has a
dash, consists of marks only or is a filter. -/
def StopsOperator : Token → Prop
  | keyword _ _ => True
  | phrase _ _ => False
  | word text =>
      text.head? = some '-' ∨ text ∈ bareMarks ∨ (FieldFilter.ofWord? text).isSome = true

/-- The tokens whose term takes the operator of the keyword just before: a phrase, and
every other word. -/
def TakesOperator : Token → Prop
  | keyword _ _ => False
  | phrase _ _ => True
  | word text =>
      text.head? ≠ some '-' ∧ text ∉ bareMarks ∧ (FieldFilter.ofWord? text).isSome = false

theorem not_takesOperator_iff (token : Token) : ¬ token.TakesOperator ↔ token.StopsOperator := by
  cases token with
  | keyword operator spelling => simp [TakesOperator, StopsOperator]
  | phrase inner closed => simp [TakesOperator, StopsOperator]
  | word text =>
      simp only [TakesOperator, StopsOperator, not_and_or, not_not, ne_eq,
        Bool.not_eq_false]

/-- What the token just before is makes a difference to the operator only, and only
where a term takes it. -/
theorem termAfter?_of_takesOperator {token : Token} (htakes : token.TakesOperator) :
    ∃ term : Term, ∀ previous,
      token.termAfter? previous = some { term with operator := operatorAfter previous } := by
  cases token with
  | keyword operator spelling => exact absurd htakes id
  | phrase inner closed =>
      exact ⟨{ text := String.ofList inner, exactPhrase := true }, fun _ => rfl⟩
  | word text =>
      obtain ⟨hdash, hbare, hfilter⟩ := htakes
      refine ⟨plainTerm .and text, fun previous => ?_⟩
      simp [termAfter?, plainTerm, hdash, hbare, hfilter]

theorem termAfter?_of_stopsOperator {token : Token} (hstops : token.StopsOperator)
    (previous : Option Token) : token.termAfter? previous = token.termAfter? none := by
  cases token with
  | keyword operator spelling => rfl
  | phrase inner closed => exact absurd hstops id
  | word text =>
      rcases hstops with hdash | hbare | hfilter
      · simp [termAfter?, plainTerm, hdash]
      · simp [termAfter?, hbare]
      · simp [termAfter?, hfilter]

end Token

open Token

/-! ## The seam between two sequences of tokens -/

theorem withPrevious_append (previous : Option Token) (tokens more : List Token) :
    withPrevious previous (tokens ++ more) =
      withPrevious previous tokens ++ withPrevious (tokens.getLast?.or previous) more := by
  induction tokens generalizing previous with
  | nil => rfl
  | cons token tokens ih =>
      have hlast : (token :: tokens).getLast?.or previous = tokens.getLast?.or (some token) := by
        rw [List.getLast?_cons]
        cases tokens.getLast? <;> rfl
      rw [List.cons_append, withPrevious_cons, withPrevious_cons, ih, hlast, List.cons_append]

attribute [ext] Query

namespace Query

/-- Only the first token looks at what stands before it. -/
theorem termsAfter_of_stopsOperator {text : String}
    (hstops : ∀ first ∈ (tokens text).head?, first.StopsOperator) (previous : Option Token) :
    termsAfter previous text = termsAfter none text := by
  unfold termsAfter
  cases htokens : tokens text with
  | nil => rfl
  | cons first rest =>
      have hfirst : first.StopsOperator := hstops first (by rw [htokens]; rfl)
      simp only [withPrevious_cons, List.filterMap_cons, termAfter?_of_stopsOperator hfirst previous]

theorem termsAfter_of_takesOperator {text : String} {first : Token}
    (hfirst : (tokens text).head? = some first) (htakes : first.TakesOperator) :
    ∃ (term : Term) (rest : List Term), ∀ previous,
      termsAfter previous text = { term with operator := operatorAfter previous } :: rest := by
  obtain ⟨more, htokens⟩ := List.head?_eq_some_iff.mp hfirst
  obtain ⟨term, hterm⟩ := termAfter?_of_takesOperator htakes
  refine ⟨term, (withPrevious (some first) more).filterMap fun pair => pair.2.termAfter? pair.1,
    fun previous => ?_⟩
  simp only [termsAfter, htokens, withPrevious_cons, List.filterMap_cons, hterm]

theorem termsAfter_of_no_keyword {previous : Option Token} {text : String}
    (hnone : ¬ ∃ operator spelling, previous = some (.keyword operator spelling)) :
    termsAfter previous text = termsAfter none text := by
  have hoperator : operatorAfter previous = .and := by
    match previous, hnone with
    | none, _ => rfl
    | some (.phrase _ _), _ => rfl
    | some (.word _), _ => rfl
    | some (.keyword operator spelling), hnone => exact absurd ⟨operator, spelling, rfl⟩ hnone
  rw [← terms_ofTokens_tokens, ← terms_ofTokens_tokens, hoperator]
  rfl

/-! ## The tokens of two texts in one -/

/-- Between trimmed texts a gap of blanks separates the tokens, whatever `trim` takes
away when one of the two is empty. -/
theorem scan_trim_append {first gap second : List Char} (hfirst : Trimmed first)
    (hsecond : Trimmed second) (hclosed : Closed (Token.scan first)) (hgap : gap ≠ [])
    (hblank : ∀ c ∈ gap, isBlank c = true) :
    Token.scan (trim (first ++ (gap ++ second))) = Token.scan first ++ Token.scan second := by
  cases second with
  | nil =>
      rw [List.append_nil, trim_append_blanks hblank, hfirst.trim_eq, scan_nil, List.append_nil]
  | cons d letters =>
      cases first with
      | nil =>
          rw [List.nil_append, trim_blanks_append hblank, hsecond.trim_eq, scan_nil,
            List.nil_append]
      | cons c rest =>
          have htrimmed : Trimmed (c :: rest ++ (gap ++ d :: letters)) := by
            refine ⟨hfirst.head, fun last hlast => hsecond.last last ?_⟩
            rw [Option.mem_def] at hlast ⊢
            rw [← hlast, ← List.append_assoc, List.getLast?_append_cons]
          rw [htrimmed.trim_eq, scan_append_gap hclosed hgap hblank]

/-- The tokens of two texts with blanks between them are the tokens of the two. -/
theorem tokens_append {a s b : String} (hclosed : Closed (tokens a)) (hne : s ≠ "")
    (hblank : ∀ c ∈ s.toList, isBlank c = true) :
    tokens (a ++ s ++ b) = tokens a ++ tokens b := by
  obtain ⟨front, afterFirst, ha, hfront, hafter⟩ := exists_trim a.toList
  obtain ⟨beforeSecond, back, hb, hbefore, hback⟩ := exists_trim b.toList
  -- what `trim` leaves of the parts stands apart by more blanks than `s`
  have hgap : afterFirst ++ s.toList ++ beforeSecond ≠ [] := by simp [hne]
  have hall : ∀ c ∈ afterFirst ++ s.toList ++ beforeSecond, isBlank c = true := by
    intro c hc
    rcases List.mem_append.mp hc with hc | hc
    · exact (List.mem_append.mp hc).elim (hafter c) (hblank c)
    · exact hbefore c hc
  have hwhole : (a ++ s ++ b).toList = front ++ (trim a.toList ++
      ((afterFirst ++ s.toList ++ beforeSecond) ++ trim b.toList) ++ back) := by
    rw [String.toList_append, String.toList_append]
    conv_lhs => rw [ha, hb]
    simp only [List.append_assoc]
  calc tokens (a ++ s ++ b)
      = Token.scan (trim (trim a.toList ++
          ((afterFirst ++ s.toList ++ beforeSecond) ++ trim b.toList))) := by
        rw [tokens, hwhole, trim_blanks_append hfront, trim_append_blanks hback]
    _ = tokens a ++ tokens b :=
        scan_trim_append (trimmed_trim _) (trimmed_trim _) hclosed hgap hall

theorem terms_append {a s b : String} (hclosed : Closed (tokens a)) (hne : s ≠ "")
    (hblank : ∀ c ∈ s.toList, isBlank c = true) :
    (parse (a ++ s ++ b)).terms = (parse a).terms ++ termsAfter (tokens a).getLast? b := by
  have hpairs : withPrevious none (tokens a ++ tokens b) =
      withPrevious none (tokens a) ++ withPrevious (tokens a).getLast? (tokens b) := by
    rw [withPrevious_append, Option.or_none]
  calc (parse (a ++ s ++ b)).terms
      = (withPrevious none (tokens a ++ tokens b)).filterMap fun pair => pair.2.termAfter? pair.1 := by
        rw [terms_parse, termsAfter, tokens_append hclosed hne hblank]
    _ = termsAfter none a ++ termsAfter (tokens a).getLast? b := by
        rw [hpairs, List.filterMap_append, termsAfter, termsAfter]
    _ = (parse a).terms ++ termsAfter (tokens a).getLast? b := by rw [terms_parse]

theorem filters_append {a s b : String} (hclosed : Closed (tokens a)) (hne : s ≠ "")
    (hblank : ∀ c ∈ s.toList, isBlank c = true) :
    (parse (a ++ s ++ b)).filters = (parse a).filters ++ (parse b).filters := by
  simp only [filters_parse, tokens_append hclosed hne hblank, List.filterMap_append]

/-! ## The query of two texts in one -/

/-- **Search texts compose.**  Behind a text that does not end inside a phrase, and any
blanks, a second text is read as if it stood alone, but for one case: a keyword at the
end of the first text gives its operator to the first term of the second, if the first
token of the second text is a phrase or a word that is a term and has no dash.  It does
not reach past another keyword, a word with a dash, bare marks or a filter, and which
blanks stand between the texts does not matter. -/
theorem parse_append {a s b : String} (hclosed : Closed (tokens a)) (hne : s ≠ "")
    (hblank : ∀ c ∈ s.toList, isBlank c = true) :
    (parse (a ++ s ++ b)).filters = (parse a).filters ++ (parse b).filters ∧
      (∀ operator spelling first, (tokens a).getLast? = some (.keyword operator spelling) →
        (tokens b).head? = some first → first.TakesOperator →
        ∃ (term : Term) (rest : List Term), (parse b).terms = term :: rest ∧
          (parse (a ++ s ++ b)).terms =
            (parse a).terms ++ { term with operator := operator } :: rest) ∧
      ((¬ ∃ operator spelling first, (tokens a).getLast? = some (.keyword operator spelling) ∧
          (tokens b).head? = some first ∧ first.TakesOperator) →
        (parse (a ++ s ++ b)).terms = (parse a).terms ++ (parse b).terms) ∧
      ((∀ first ∈ (tokens b).head?, first.StopsOperator) →
        (parse (a ++ s ++ b)).terms = (parse a).terms ++ (parse b).terms) ∧
      ∀ other : String, other ≠ "" → (∀ c ∈ other.toList, isBlank c = true) →
        parse (a ++ other ++ b) = parse (a ++ s ++ b) := by
  have hterms := terms_append (b := b) hclosed hne hblank
  have hstopped : (∀ first ∈ (tokens b).head?, first.StopsOperator) →
      (parse (a ++ s ++ b)).terms = (parse a).terms ++ (parse b).terms := by
    intro hstops
    rw [hterms, termsAfter_of_stopsOperator hstops, terms_parse b]
  refine ⟨filters_append hclosed hne hblank, ?_, ?_, hstopped, ?_⟩
  · intro operator spelling first hlast hfirst htakes
    obtain ⟨term, rest, hafter⟩ := termsAfter_of_takesOperator hfirst htakes
    refine ⟨{ term with operator := .and }, rest, ?_, ?_⟩
    · rw [terms_parse, hafter none]
      rfl
    · rw [hterms, hlast, hafter]
      rfl
  · intro hnone
    by_cases hkeyword : ∃ operator spelling, (tokens a).getLast? = some (.keyword operator spelling)
    · obtain ⟨operator, spelling, hlast⟩ := hkeyword
      refine hstopped fun first hfirst => (not_takesOperator_iff first).mp fun htakes => ?_
      exact hnone ⟨operator, spelling, first, hlast, hfirst, htakes⟩
    · rw [hterms, terms_parse b, termsAfter_of_no_keyword hkeyword]
  · intro other hother hblanks
    have hsameTerms : (parse (a ++ other ++ b)).terms = (parse (a ++ s ++ b)).terms := by
      rw [terms_append hclosed hother hblanks, hterms]
    have hsameFilters : (parse (a ++ other ++ b)).filters = (parse (a ++ s ++ b)).filters := by
      rw [filters_append hclosed hother hblanks, filters_append hclosed hne hblank]
    exact Query.ext hsameTerms hsameFilters

/-- A keyword at the end of the first text is taken up by the word behind the blank. -/
theorem parse_append_dangling :
    Closed (tokens "rent OR") ∧
      ∃ (term : Term) (rest : List Term), (parse "milk -tea").terms = term :: rest ∧
        (parse ("rent OR" ++ " " ++ "milk -tea")).terms =
          (parse "rent OR").terms ++ { term with operator := .or } :: rest := by
  have hfirst : tokens "rent OR" = [.word "rent".toList, .keyword .or "OR".toList] := by
    decide +kernel
  have hsecond : tokens "milk -tea" = [.word "milk".toList, .word "-tea".toList] := by
    decide +kernel
  have hclosed : Closed (tokens "rent OR") := by
    rw [hfirst]
    intro token htoken
    obtain rfl : Token.keyword .or "OR".toList = token := Option.some.inj htoken
    exact id
  have htakes : (Token.word "milk".toList).TakesOperator := by
    refine ⟨by decide, by decide, by decide +kernel⟩
  have hblank : ∀ c ∈ " ".toList, isBlank c = true := List.all_eq_true.mp (by decide)
  exact ⟨hclosed, (parse_append hclosed (by decide) hblank).2.1 .or "OR".toList _
    (by rw [hfirst]; rfl) (by rw [hsecond]; rfl) htakes⟩

end Query

end TaskQuery
