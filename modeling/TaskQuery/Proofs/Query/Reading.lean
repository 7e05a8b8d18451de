import TaskQuery.Proofs.Query.Grammar

/-!
# What a search text says, token by token

`Query.ofTokens` goes through the tokens with a pending operator.  Here the same query
is described without one: each token says by itself, given only the token just before
it, whether it is a filter, a term or nothing (`Token.word?`, `Token.termAfter?`).  The
invariant that links the two is that the pending operator is always the operator of the
token just before, if that is a keyword, and `AND` otherwise.

Together with the grammar this describes the query of every text
(`Query.parse_eq_reading`).
-/

namespace TaskQuery

open Text

/-! ## What one token says -/

namespace Token

/-- The text of a word. -/
def word? : Token → Option (List Char)
  | word text => some text
  | _ => none

/-- The operator that the token just before hands on: a keyword its own, any other
token, and no token at all, `AND`. -/
def operatorAfter : Option Token → Operator
  | some (keyword operator _) => operator
  | _ => .and

/-- The words that consist of marks only. -/
def bareMarks : List (List Char) :=
  [['-'], ['*'], ['-', '*']]

/-- A word without the dash that may stand in front. -/
def unsigned (word : List Char) : List Char :=
  if word.head? = some '-' then word.tail else word

/-- A word without the star that may stand at its end. -/
def unstarred (word : List Char) : List Char :=
  if word.getLast? = some '*' then word.dropLast else word

/-- The term of a word that stands after the operator `pending`: a dash in front
excludes, a star at the end asks for the start of a word, and the rest is the text. -/
def plainTerm (pending : Operator) (word : List Char) : Term where
  text := String.ofList (unstarred (unsigned word))
  wildcard := (unsigned word).getLast? = some '*'
  operator := if word.head? = some '-' then .not else pending

/-- The term that a token stands for after the token just before it. -/
def termAfter? (previous : Option Token) : Token → Option Term
  | keyword _ _ => none
  | phrase inner _ =>
      some { text := String.ofList inner, exactPhrase := true, operator := operatorAfter previous }
  | word text =>
      if (FieldFilter.ofWord? text).isSome ∨ text ∈ bareMarks then none
      else some (plainTerm (operatorAfter previous) text)

end Token

open Token

/-! ## Words as terms -/

theorem cutStar_eq (word : List Char) :
    cutStar word = (unstarred word, decide (word.getLast? = some '*')) := by
  unfold cutStar unstarred
  by_cases hstar : word.getLast? = some '*'
  · rw [if_pos hstar, if_pos hstar, decide_eq_true hstar]
  · rw [if_neg hstar, if_neg hstar, decide_eq_false hstar]

theorem unstarred_eq_nil_iff (word : List Char) :
    unstarred word = [] ↔ word = [] ∨ word = ['*'] := by
  unfold unstarred
  by_cases hstar : word.getLast? = some '*'
  · obtain ⟨front, rfl⟩ := List.getLast?_eq_some_iff.mp hstar
    rw [if_pos hstar, List.dropLast_concat]
    simp
  · rw [if_neg hstar]
    refine ⟨Or.inl, ?_⟩
    rintro (rfl | rfl)
    · rfl
    · exact absurd rfl hstar

theorem Term.ofWord?_eq_ite (pending : Operator) (word : List Char) :
    Term.ofWord? pending word =
      if unstarred (unsigned word) = [] then none else some (plainTerm pending word) := by
  unfold Term.ofWord?
  split
  rename_i marked operator hmarked
  have hparts : marked = unsigned word ∧
      operator = if word.head? = some '-' then .not else pending := by
    split at hmarked
    · obtain ⟨rfl, rfl⟩ := Prod.mk.inj hmarked
      exact ⟨rfl, rfl⟩
    · rename_i hdash
      obtain ⟨rfl, rfl⟩ := Prod.mk.inj hmarked
      have hhead : word.head? ≠ some '-' := by
        intro hsome
        obtain ⟨tail, rfl⟩ := List.head?_eq_some_iff.mp hsome
        exact hdash tail rfl
      exact ⟨(if_neg hhead).symm, (if_neg hhead).symm⟩
  obtain ⟨rfl, rfl⟩ := hparts
  simp only [cutStar_eq, List.isEmpty_iff]
  rfl

/-- Nothing is left of the bare marks, and of them only. -/
theorem unstarred_unsigned_eq_nil_iff {word : List Char} (hword : word ≠ []) :
    unstarred (unsigned word) = [] ↔ word ∈ bareMarks := by
  rw [unstarred_eq_nil_iff]
  obtain ⟨c, rest, rfl⟩ := List.exists_cons_of_ne_nil hword
  by_cases hdash : c = '-'
  · simp [unsigned, bareMarks, hdash]
  · simp [unsigned, bareMarks, hdash]

/-- Every word but the bare marks is a term, the one without its marks. -/
theorem Term.ofWord?_eq (pending : Operator) {word : List Char} (hword : word ≠ []) :
    Term.ofWord? pending word =
      if word ∈ bareMarks then none else some (plainTerm pending word) := by
  rw [Term.ofWord?_eq_ite]
  simp only [unstarred_unsigned_eq_nil_iff hword]

/-! ## The query of a sequence of tokens -/

/-- Each token of a sequence with the one just before it. -/
def withPrevious (previous : Option Token) (tokens : List Token) : List (Option Token × Token) :=
  (previous :: tokens.map some).zip tokens

theorem withPrevious_cons (previous : Option Token) (token : Token) (tokens : List Token) :
    withPrevious previous (token :: tokens) =
      (previous, token) :: withPrevious (some token) tokens :=
  rfl

namespace Query

/-- The filters are those of the words, whatever operator is pending. -/
theorem filters_ofTokens (pending : Operator) (tokens : List Token) :
    (ofTokens pending tokens).filters =
      (tokens.filterMap Token.word?).filterMap FieldFilter.ofWord? := by
  induction tokens generalizing pending with
  | nil => rfl
  | cons token tokens ih =>
      cases token with
      | keyword operator spelling =>
          show (ofTokens operator tokens).filters = _
          exact ih operator
      | phrase inner closed =>
          show (ofTokens .and tokens).filters = _
          exact ih .and
      | word text =>
          have hword : Token.word? (.word text) = some text := rfl
          rw [ofTokens, List.filterMap_cons_some hword]
          cases hfilter : FieldFilter.ofWord? text with
          | some filter =>
              rw [List.filterMap_cons_some hfilter, ← ih .and]
              rfl
          | none =>
              -- a term, if the word is one, leaves the filters alone
              rw [List.filterMap_cons_none hfilter, ← ih .and]
              cases Term.ofWord? pending text <;> rfl

/-- The terms are what the tokens stand for, each with the one just before it.  The
pending operator is the one that the token just before hands on. -/
theorem terms_ofTokens {tokens : List Token} (hwords : ∀ text, .word text ∈ tokens → text ≠ [])
    (previous : Option Token) :
    (ofTokens (operatorAfter previous) tokens).terms =
      (withPrevious previous tokens).filterMap fun pair => pair.2.termAfter? pair.1 := by
  induction tokens generalizing previous with
  | nil => rfl
  | cons token tokens ih =>
      have hrest := ih (fun text htext => hwords text (List.mem_cons_of_mem token htext)) (some token)
      rw [withPrevious_cons]
      cases token with
      | keyword operator spelling =>
          -- the operator is pending for the rest because the keyword is just before it
          show (ofTokens operator tokens).terms = _
          exact hrest
      | phrase inner closed =>
          show _ :: (ofTokens .and tokens).terms = _
          exact congrArg (List.cons _) hrest
      | word text =>
          rw [ofTokens]
          cases hfilter : FieldFilter.ofWord? text with
          | some filter =>
              rw [List.filterMap_cons_none, ← hrest]
              · rfl
              · simp [termAfter?, hfilter]
          | none =>
              simp only [Term.ofWord?_eq _ (hwords text (List.mem_cons_self ..))]
              by_cases hbare : text ∈ bareMarks
              · rw [if_pos hbare, List.filterMap_cons_none, ← hrest]
                · rfl
                · simp [termAfter?, hbare]
              · rw [if_neg hbare, List.filterMap_cons_some, ← hrest]
                · rfl
                · simp [termAfter?, hfilter, hbare]

/-! ## The query of a text -/

theorem word_ne_nil_of_mem_tokens {text : String} {word : List Char}
    (hmem : .word word ∈ tokens text) : word ≠ [] := by
  obtain ⟨rest, hstarts⟩ := Token.exists_starts_of_mem_scan hmem
  exact hstarts.nonempty

theorem filters_parse (text : String) :
    (parse text).filters =
      ((tokens text).filterMap Token.word?).filterMap FieldFilter.ofWord? := by
  rw [parse_eq_ofTokens, filters_ofTokens]

/-- What the tokens of a text stand for behind the token `previous`. -/
def termsAfter (previous : Option Token) (text : String) : List Term :=
  (withPrevious previous (tokens text)).filterMap fun pair => pair.2.termAfter? pair.1

/-- The terms that are read with the operator of `previous` pending. -/
theorem terms_ofTokens_tokens (previous : Option Token) (text : String) :
    (ofTokens (operatorAfter previous) (tokens text)).terms = termsAfter previous text :=
  terms_ofTokens (fun _ hmem => word_ne_nil_of_mem_tokens hmem) previous

theorem terms_parse (text : String) : (parse text).terms = termsAfter none text := by
  rw [parse_eq_ofTokens]
  exact terms_ofTokens_tokens none text

/-- **The query of every text.**  A text without the blanks around it splits in exactly
one way into runs of blanks and tokens, and every character that is not blank lies in
exactly one of the tokens.  The filters of its query are those of the words, and the
terms are one for each phrase and one for each other word that is more than marks, in
order, with the operator of a dash or else of the keyword just before. -/
theorem parse_eq_reading (text : String) :
    ∃ pieces, (Splits (trim text.toList) pieces ∧
        ∀ other, Splits (trim text.toList) other → other = pieces) ∧
      (∀ position c, (trim text.toList)[position]? = some c → isBlank c = false →
        ∃! index, TokenCovers pieces position index) ∧
      Token.scan (trim text.toList) = pieces.filterMap Piece.token? ∧
      (parse text).filters =
        ((pieces.filterMap Piece.token?).filterMap Token.word?).filterMap FieldFilter.ofWord? ∧
      (parse text).terms =
        (withPrevious none (pieces.filterMap Piece.token?)).filterMap fun pair =>
          pair.2.termAfter? pair.1 := by
  obtain ⟨pieces, hsplits⟩ := exists_splits (trim text.toList)
  refine ⟨pieces, ⟨hsplits, fun other hother => hother.unique hsplits⟩, ?_, hsplits.scan_eq, ?_, ?_⟩
  · intro position c hc hblank
    obtain ⟨index, hcovers⟩ := hsplits.exists_tokenCovers hc hblank
    exact ⟨index, hcovers, fun other hother => hother.unique hcovers⟩
  · rw [← hsplits.scan_eq]
    exact filters_parse text
  · rw [← hsplits.scan_eq]
    exact terms_parse text

end Query

end TaskQuery
