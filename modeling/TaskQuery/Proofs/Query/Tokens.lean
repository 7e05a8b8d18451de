import Mathlib.Data.List.TakeWhile
import TaskQuery.Proofs.Query.Keyword
import TaskQuery.Query.Parser

/-!
# Tokens of a search text

The parser goes over a text from place to place and adds to the query what it reads.  Here
the same query is found in two passes without places: the text is first taken apart into
tokens (`Token.scan`), and the tokens are then turned into a query from right to left
(`Query.ofTokens`).  Everything else about queries is proved of the two passes, and
`Query.parse_eq_ofTokens` carries it over to the parser.

Reading a token leaves less text than there was, so the scan ends.  The parser has a step by
one place for the case that a word is empty.  `Token.wordFrom_ne_nil` says that this case does
not occur: the parser has skipped the blanks, and only at a blank is a word empty.
-/

namespace TaskQuery

open Text

/-- A piece of a search text that means something on its own. -/
inductive Token where
  /-- A keyword and the letters it was spelled with. -/
  | keyword (operator : Operator) (spelling : List Char)
  /-- The text of a phrase, and whether a closing quote follows it. -/
  | phrase (inner : List Char) (closed : Bool)
  | word (text : List Char)
deriving DecidableEq

/-! ## The tokens of a text -/

namespace Token

/-- The characters that a token takes up in the text. -/
def lexeme : Token → List Char
  | keyword _ spelling => spelling
  | phrase inner true => '"' :: inner ++ ['"']
  | phrase inner false => '"' :: inner
  | word text => text

/-- The token that a text starts with, and the text after it.  The text is not
to start with a blank. -/
def first (c : Char) (rest : List Char) : Token × List Char :=
  match keyword? (c :: rest) with
  | some (operator, spelling, after) => (keyword operator spelling, after)
  | none =>
    if c = '"' then
      match cutAt '"' rest with
      | (inner, some after) => (phrase inner true, after)
      | (inner, none) => (phrase inner false, [])
    else (word (c :: rest.takeWhile (!isBlank ·)), rest.dropWhile (!isBlank ·))

/-- The text after the first token is shorter than the text. -/
theorem length_first_le (c : Char) (rest : List Char) :
    (first c rest).2.length ≤ rest.length := by
  unfold first
  split
  · rename_i operator spelling after hfound
    obtain ⟨hsource, hkeyword⟩ := keyword?_eq_some_iff.mp hfound
    have hlength := congrArg List.length hsource
    have hpositive := List.length_pos_iff.mpr (spelling_ne_nil hkeyword.spelled)
    rw [List.length_cons, List.length_append] at hlength
    show after.length ≤ rest.length
    omega
  · split
    · split
      · rename_i inner after hcut
        exact Nat.le_of_lt (length_lt_of_cutAt hcut)
      · simp
    · exact (List.dropWhile_suffix _).length_le

/-- The tokens of a text. -/
def scan (source : List Char) : List Token :=
  match _start : source.dropWhile isBlank with
  | [] => []
  | c :: rest =>
    let step := first c rest
    step.1 :: scan step.2
termination_by source.length
decreasing_by
  have shorter := length_first_le c rest
  have := (List.dropWhile_suffix isBlank (l := source)).length_le
  rw [_start, List.length_cons] at this
  omega

theorem scan_of_dropWhile_eq_nil {source : List Char} (hdrop : source.dropWhile isBlank = []) :
    scan source = [] := by
  rw [scan]
  split
  · rfl
  · rename_i c rest hcons
    rw [hdrop] at hcons
    simp at hcons

theorem scan_of_dropWhile_eq_cons {source : List Char} {c : Char} {rest : List Char}
    (hdrop : source.dropWhile isBlank = c :: rest) :
    scan source = (first c rest).1 :: scan (first c rest).2 := by
  rw [scan]
  split
  · rename_i hnil
    rw [hdrop] at hnil
    simp at hnil
  · rename_i d tail hcons
    obtain ⟨rfl, rfl⟩ := List.cons.inj (hdrop.symm.trans hcons)
    rfl

end Token

/-! ## The query of a sequence of tokens -/

namespace Query

/-- The query with one more term in front. -/
def consTerm (term : Term) (query : Query) : Query :=
  { query with terms := term :: query.terms }

/-- The query with one more filter in front. -/
def consFilter (filter : FieldFilter) (query : Query) : Query :=
  { query with filters := filter :: query.filters }

/-- The query of a sequence of tokens, where `pending` is the operator of the
keyword just before it. -/
def ofTokens (pending : Operator) : List Token → Query
  | [] => {}
  | .keyword operator _ :: tokens => ofTokens operator tokens
  | .phrase inner _ :: tokens =>
    (ofTokens .and tokens).consTerm
      { text := String.ofList inner, exactPhrase := true, operator := pending }
  | .word word :: tokens =>
    let rest := ofTokens .and tokens
    match FieldFilter.ofWord? word with
    | some filter => rest.consFilter filter
    | none =>
      match Term.ofWord? pending word with
      | some term => rest.consTerm term
      | none => rest

end Query

/-! ## What stands at a place is the first token of the rest -/

namespace Token

variable {source : List Char} {start : ℕ}

theorem drop_length_takeWhile (keep : Char → Bool) (text : List Char) :
    text.drop (text.takeWhile keep).length = text.dropWhile keep := by
  conv_lhs =>
    arg 2
    rw [← List.takeWhile_append_dropWhile (p := keep) (l := text)]
  exact List.drop_left ..

theorem drop_skipBlanks (source : List Char) (place : ℕ) :
    source.drop (skipBlanks source place) = (source.drop place).dropWhile isBlank := by
  rw [skipBlanks, ← List.drop_drop, drop_length_takeWhile]

variable {c : Char} {rest : List Char}

/-- Where blanks were skipped there is none. -/
theorem not_isBlank_of_skipBlanks {place : ℕ}
    (hrest : source.drop (skipBlanks source place) = c :: rest) : isBlank c = false := by
  rw [drop_skipBlanks] at hrest
  have hhead := List.head?_dropWhile_not isBlank (source.drop place)
  rw [hrest] at hhead
  simpa using hhead

/-- The scan of what is left goes on where blanks were skipped. -/
theorem scan_drop {place : ℕ} (hrest : source.drop (skipBlanks source place) = c :: rest) :
    scan (source.drop place) = (first c rest).1 :: scan (first c rest).2 :=
  scan_of_dropWhile_eq_cons (by rw [← drop_skipBlanks, hrest])

theorem first_of_keywordFrom?_eq_some (hrest : source.drop start = c :: rest)
    {operator : Operator} {stop : ℕ}
    (hfound : keywordFrom? source start = some (operator, stop)) :
    ∃ spelling, first c rest = (keyword operator spelling, source.drop stop) := by
  obtain ⟨⟨candidate, spelling, after⟩, hkeyword, hsame⟩ := Option.map_eq_some_iff.mp hfound
  obtain ⟨rfl, rfl⟩ := Prod.mk.inj hsame
  rw [hrest] at hkeyword
  have hafter : source.drop (start + spelling.length) = after := by
    rw [← List.drop_drop, hrest, (keyword?_eq_some_iff.mp hkeyword).1, List.drop_left]
  rw [first, hkeyword, hafter]
  exact ⟨spelling, rfl⟩

theorem keyword?_of_keywordFrom?_eq_none (hrest : source.drop start = c :: rest)
    (hnone : keywordFrom? source start = none) : keyword? (c :: rest) = none := by
  rw [← hrest]
  exact Option.map_eq_none_iff.mp hnone

theorem first_of_quote (hrest : source.drop start = '"' :: rest)
    (hnone : keyword? ('"' :: rest) = none) :
    ∃ closed, first '"' rest =
      (phrase (phraseFrom source start).1 closed, source.drop (phraseFrom source start).2) := by
  have hinner : source.drop (start + 1) = rest := by
    rw [← List.drop_drop, hrest]
    rfl
  rw [first, hnone]
  unfold phraseFrom
  rw [hinner, if_pos rfl]
  cases hcut : cutAt '"' rest with
  | mk inner behind =>
      cases behind with
      | none => exact ⟨false, by rw [List.drop_length]⟩
      | some after =>
          have hafter : source.drop (start + inner.length + 2) = after := by
            have hplace : start + inner.length + 2 = start + 1 + (inner.length + 1) := by omega
            rw [hplace, ← List.drop_drop, hinner, (cutAt_eq_some_iff.mp hcut).1,
              ← List.drop_drop, List.drop_left]
            rfl
          exact ⟨true, by rw [hafter]⟩

/-- No word is empty where there is no blank. -/
theorem wordFrom_ne_nil (hrest : source.drop start = c :: rest) (hblank : isBlank c = false) :
    (wordFrom source start).1 ≠ [] := by
  rw [wordFrom, hrest, List.takeWhile_cons_of_pos (by rw [hblank]; rfl)]
  exact List.cons_ne_nil _ _

theorem first_of_no_mark (hrest : source.drop start = c :: rest) (hblank : isBlank c = false)
    (hnone : keyword? (c :: rest) = none) (hquote : c ≠ '"') :
    first c rest = (word (wordFrom source start).1, source.drop (wordFrom source start).2) := by
  have hword : (!isBlank c) = true := by
    rw [hblank]
    rfl
  rw [first, hnone]
  unfold wordFrom
  dsimp only
  rw [if_neg hquote, ← List.drop_drop, hrest, drop_length_takeWhile]
  simp only [List.takeWhile_cons, List.dropWhile_cons, hword, ↓reduceIte]

end Token

/-! ## The parser and the two passes -/

namespace Query

/-- The query of two queries one after the other. -/
def append (first second : Query) : Query where
  terms := first.terms ++ second.terms
  filters := first.filters ++ second.filters

theorem append_empty (query : Query) : query.append {} = query := by
  simp [append]

theorem append_consTerm (first second : Query) (term : Term) :
    first.append (second.consTerm term) = (first.addTerm term).append second := by
  simp [append, consTerm, addTerm]

theorem append_consFilter (first second : Query) (filter : FieldFilter) :
    first.append (second.consFilter filter) = (first.addFilter filter).append second := by
  simp [append, consFilter, addFilter]

/-- A word adds to a query what it says as a token. -/
theorem append_ofTokens_word (query : Query) (pending : Operator) (word : List Char)
    (tokens : List Token) :
    query.append (ofTokens pending (.word word :: tokens)) =
      (query.addWord pending word).append (ofTokens .and tokens) := by
  rw [ofTokens, addWord]
  cases FieldFilter.ofWord? word with
  | some filter => exact append_consFilter ..
  | none =>
      cases Term.ofWord? pending word with
      | some term => exact append_consTerm ..
      | none => rfl

/-- From every place on, the parser adds what the tokens of the rest say. -/
theorem parseFrom_eq (source : List Char) (place : ℕ) (pending : Operator) (found : Query) :
    parseFrom source place pending found =
      found.append (ofTokens pending (Token.scan (source.drop place))) := by
  fun_induction parseFrom source place pending found with
  | case1 place pending found start inside operator stop hkeyword ih =>
      have hrest := List.drop_eq_getElem_cons inside
      obtain ⟨spelling, hfirst⟩ := Token.first_of_keywordFrom?_eq_some hrest hkeyword
      rw [ih, Token.scan_drop hrest, hfirst, ofTokens]
  | case2 place pending found start inside hnone hquote phrase term ih =>
      have hrest := List.drop_eq_getElem_cons inside
      rw [hquote] at hrest
      have hkeyword := Token.keyword?_of_keywordFrom?_eq_none hrest hnone
      obtain ⟨closed, hfirst⟩ := Token.first_of_quote hrest hkeyword
      rw [ih, Token.scan_drop hrest, hfirst, ofTokens, append_consTerm]
  | case3 place pending found start inside hnone hquote word hempty ih =>
      -- the step by one place is never made
      have hrest := List.drop_eq_getElem_cons inside
      have hword := Token.wordFrom_ne_nil hrest (Token.not_isBlank_of_skipBlanks hrest)
      exact absurd (List.isEmpty_iff.mp hempty) hword
  | case4 place pending found start inside hnone hquote word hempty ih =>
      have hrest := List.drop_eq_getElem_cons inside
      have hkeyword := Token.keyword?_of_keywordFrom?_eq_none hrest hnone
      have hfirst := Token.first_of_no_mark hrest (Token.not_isBlank_of_skipBlanks hrest)
        hkeyword hquote
      rw [ih, Token.scan_drop hrest, hfirst, append_ofTokens_word]
  | case5 place pending found start hend =>
      have hrest : source.drop start = [] := List.drop_eq_nil_of_le (Nat.not_lt.mp hend)
      rw [Token.scan_of_dropWhile_eq_nil (by rw [← Token.drop_skipBlanks, hrest]), ofTokens,
        append_empty]

/-- The tokens of a search text. -/
def tokens (text : String) : List Token :=
  Token.scan (trim text.toList)

/-- **The parser and the two passes.**  The query of a text is that of its tokens. -/
theorem parse_eq_ofTokens (text : String) : parse text = ofTokens .and (tokens text) := by
  unfold parse tokens
  dsimp only
  split
  · rename_i hempty
    rw [List.isEmpty_iff.mp hempty, Token.scan_of_dropWhile_eq_nil rfl]
    rfl
  · rw [parseFrom_eq, List.drop_zero, append, List.nil_append, List.nil_append]

end Query

end TaskQuery
