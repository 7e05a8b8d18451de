import Mathlib.Data.List.TakeWhile
import TaskQuery.Proofs.Query.Tokens

/-!
# The grammar of search texts

A search text without the blanks around it is a sequence of pieces: runs of blanks and
tokens.  This file says which sequences of pieces a text splits into (`Splits`),
without a cursor, and shows that there is exactly one, the one whose tokens
`Token.scan` returns.

## Strategy

The rule for one token, `Token.Starts`, speaks only of the token and the text after
it.  `first_of_starts` says that a token that satisfies its rule is the one that
`Token.first` reads, and `first_starts` that what `Token.first` reads satisfies its
rule.  So the reader decides the rule, two tokens cannot both start a text
(`Starts.unique`), and both the existence and the uniqueness of a split are inductions
with one step each.
-/

namespace TaskQuery

open Text

namespace Token

/-! ## The rule for one token -/

/-- A word with its boundary: a maximal run of characters that are not blank, where no
keyword and no phrase starts. -/
structure WordBefore (text rest : List Char) : Prop where
  nonempty : text ≠ []
  noBlank : ∀ c ∈ text, isBlank c = false
  boundary : ∀ next ∈ rest.head?, isBlank next = true
  noQuote : text.head? ≠ some '"'
  noKeyword : ¬ StartsWithKeyword (text ++ rest)

/-- Whether a token may start the text that consists of its characters and `rest`.  A
phrase reaches to the next quote, or to the end if there is none. -/
def Starts : Token → List Char → Prop
  | keyword operator spelling, rest => KeywordBefore operator spelling rest
  | phrase inner true, _ => '"' ∉ inner
  | phrase inner false, rest => '"' ∉ inner ∧ rest = []
  | word text, rest => WordBefore text rest

/-- No token is empty, and none starts with a blank. -/
theorem exists_lexeme_eq_cons {token : Token} {rest : List Char} (hstarts : token.Starts rest) :
    ∃ c tail, token.lexeme = c :: tail ∧ isBlank c = false := by
  cases token with
  | keyword operator spelling =>
      obtain ⟨c, letters, rfl⟩ := List.exists_cons_of_ne_nil (spelling_ne_nil hstarts.spelled)
      exact ⟨c, letters, rfl, not_isBlank_of_spelledAs hstarts.spelled c (List.mem_cons_self ..)⟩
  | phrase inner closed =>
      cases closed with
      | true => exact ⟨'"', inner ++ ['"'], rfl, by decide⟩
      | false => exact ⟨'"', inner, rfl, by decide⟩
  | word text =>
      obtain ⟨c, tail, rfl⟩ := List.exists_cons_of_ne_nil hstarts.nonempty
      exact ⟨c, tail, rfl, hstarts.noBlank c (List.mem_cons_self ..)⟩

/-! ## Words -/

theorem takeWhile_word {text rest : List Char} (htext : ∀ c ∈ text, isBlank c = false)
    (hrest : ∀ next ∈ rest.head?, isBlank next = true) :
    (text ++ rest).takeWhile (!isBlank ·) = text ∧ (text ++ rest).dropWhile (!isBlank ·) = rest := by
  have hall : ∀ c ∈ text, (!isBlank c) = true := fun c hc => by rw [htext c hc]; rfl
  rw [List.takeWhile_append_of_pos hall, List.dropWhile_append_of_pos hall]
  cases rest with
  | nil => simp
  | cons next tail =>
      have hnext : isBlank next = true := hrest next rfl
      simp [hnext]

/-- A text that starts with neither a blank nor a keyword nor a quote starts with a
word. -/
theorem wordBefore_takeWhile {c : Char} {rest : List Char} (hblank : isBlank c = false)
    (hkeyword : ¬ StartsWithKeyword (c :: rest)) (hquote : c ≠ '"') :
    WordBefore (c :: rest.takeWhile (!isBlank ·)) (rest.dropWhile (!isBlank ·)) where
  nonempty := List.cons_ne_nil _ _
  noBlank := by
    intro x hx
    rcases List.mem_cons.mp hx with rfl | hx
    · exact hblank
    · simpa using List.mem_takeWhile_imp hx
  boundary := by
    intro next hnext
    have := List.head?_dropWhile_not (fun c => !isBlank c) rest
    rw [Option.mem_def.mp hnext] at this
    simpa using this
  noQuote := by simpa using hquote
  noKeyword := by
    rw [List.cons_append, List.takeWhile_append_dropWhile]
    exact hkeyword

/-! ## The reader follows the rule -/

/-- What `first` reads makes up the text and satisfies its rule. -/
theorem first_starts {c : Char} (hblank : isBlank c = false) (rest : List Char) :
    c :: rest = (first c rest).1.lexeme ++ (first c rest).2 ∧
      (first c rest).1.Starts (first c rest).2 := by
  unfold first
  split
  · rename_i operator spelling after hfound
    exact keyword?_eq_some_iff.mp hfound
  · rename_i hnone
    by_cases hquote : c = '"'
    · subst hquote
      rw [if_pos rfl]
      split
      · rename_i inner after hcut
        obtain ⟨rfl, hinner⟩ := cutAt_eq_some_iff.mp hcut
        exact ⟨by simp [lexeme], hinner⟩
      · rename_i inner hcut
        obtain ⟨rfl, hinner⟩ := cutAt_eq_none_iff.mp hcut
        exact ⟨by simp [lexeme], hinner, rfl⟩
    · rw [if_neg hquote]
      refine ⟨?_, wordBefore_takeWhile hblank (keyword?_eq_none_iff.mp hnone) hquote⟩
      exact congrArg (c :: ·) List.takeWhile_append_dropWhile.symm

/-- At a quote no keyword is found. -/
theorem keyword?_quote (rest : List Char) : keyword? ('"' :: rest) = none :=
  keyword?_eq_none_iff.mpr (not_startsWithKeyword_of_mark (Or.inl rfl) rest)

theorem first_closed_phrase {inner : List Char} (hinner : '"' ∉ inner) (rest : List Char) :
    first '"' (inner ++ '"' :: rest) = (phrase inner true, rest) := by
  rw [first, keyword?_quote, cutAt_eq_some_iff.mpr ⟨rfl, hinner⟩]
  rfl

theorem first_open_phrase {inner : List Char} (hinner : '"' ∉ inner) :
    first '"' inner = (phrase inner false, []) := by
  rw [first, keyword?_quote, cutAt_eq_none_iff.mpr ⟨rfl, hinner⟩]
  rfl

theorem first_word {c : Char} {letters rest : List Char} (hword : WordBefore (c :: letters) rest) :
    first c (letters ++ rest) = (word (c :: letters), rest) := by
  have hnone : keyword? (c :: (letters ++ rest)) = none :=
    keyword?_eq_none_iff.mpr hword.noKeyword
  have hquote : c ≠ '"' := by simpa using hword.noQuote
  obtain ⟨htake, hdrop⟩ := takeWhile_word
    (fun x hx => hword.noBlank x (List.mem_cons_of_mem c hx)) hword.boundary
  rw [first, hnone]
  simp only [if_neg hquote, htake, hdrop]

/-- A token that satisfies its rule is the one that `first` reads. -/
theorem first_of_starts {token : Token} {rest : List Char} (hstarts : token.Starts rest)
    {c : Char} {tail : List Char} (heq : token.lexeme ++ rest = c :: tail) :
    first c tail = (token, rest) := by
  cases token with
  | keyword operator spelling =>
      have hfound : keyword? (c :: tail) = some (operator, spelling, rest) :=
        keyword?_eq_some_iff.mpr ⟨heq.symm, hstarts⟩
      rw [first, hfound]
  | phrase inner closed =>
      cases closed with
      | true =>
          have hparts : '"' :: (inner ++ '"' :: rest) = c :: tail := by
            rw [← heq]
            simp [lexeme]
          obtain ⟨rfl, rfl⟩ := List.cons.inj hparts
          exact first_closed_phrase hstarts rest
      | false =>
          obtain ⟨hinner, rfl⟩ := hstarts
          have hparts : '"' :: inner = c :: tail := by
            rw [← heq]
            simp [lexeme]
          obtain ⟨rfl, rfl⟩ := List.cons.inj hparts
          exact first_open_phrase hinner
  | word text =>
      obtain ⟨d, letters, rfl⟩ := List.exists_cons_of_ne_nil hstarts.nonempty
      have hparts : d :: (letters ++ rest) = c :: tail := heq
      obtain ⟨rfl, rfl⟩ := List.cons.inj hparts
      exact first_word hstarts

/-- Only one token can start a text. -/
theorem Starts.unique {token other : Token} {rest tail : List Char}
    (hstarts : token.Starts rest) (hother : other.Starts tail)
    (heq : token.lexeme ++ rest = other.lexeme ++ tail) : token = other ∧ rest = tail := by
  obtain ⟨c, letters, hlexeme, -⟩ := exists_lexeme_eq_cons hstarts
  have hcons : token.lexeme ++ rest = c :: (letters ++ rest) := by
    rw [hlexeme]
    rfl
  have hfirst := first_of_starts hstarts hcons
  have hsecond := first_of_starts hother (heq ▸ hcons)
  exact Prod.mk.inj (hfirst.symm.trans hsecond)

/-! ## The scan of a whole text -/

/-- Only the text after the blanks in front counts. -/
theorem scan_eq_of_dropWhile_eq {source other : List Char}
    (hdrop : source.dropWhile isBlank = other.dropWhile isBlank) : scan source = scan other := by
  cases hother : other.dropWhile isBlank with
  | nil => rw [scan_of_dropWhile_eq_nil hother, scan_of_dropWhile_eq_nil (hdrop.trans hother)]
  | cons c rest =>
      rw [scan_of_dropWhile_eq_cons hother, scan_of_dropWhile_eq_cons (hdrop.trans hother)]

@[simp] theorem scan_nil : scan [] = [] :=
  scan_of_dropWhile_eq_nil rfl

/-- Blanks in front of a text are passed over. -/
theorem scan_blanks_append {run : List Char} (hrun : ∀ c ∈ run, isBlank c = true)
    (rest : List Char) : scan (run ++ rest) = scan rest :=
  scan_eq_of_dropWhile_eq (List.dropWhile_append_of_pos hrun)

/-- A token that satisfies its rule comes first in the scan. -/
theorem scan_lexeme_append {token : Token} {rest : List Char} (hstarts : token.Starts rest) :
    scan (token.lexeme ++ rest) = token :: scan rest := by
  obtain ⟨c, letters, hlexeme, hblank⟩ := exists_lexeme_eq_cons hstarts
  have hcons : token.lexeme ++ rest = c :: (letters ++ rest) := by
    rw [hlexeme]
    rfl
  have hdrop : (token.lexeme ++ rest).dropWhile isBlank = c :: (letters ++ rest) := by
    rw [hcons, List.dropWhile_cons_of_neg (by simp [hblank])]
  rw [scan_of_dropWhile_eq_cons hdrop, first_of_starts hstarts hcons]

end Token

/-! ## Splitting a text into pieces -/

/-- A run of blanks or a token. -/
inductive Piece where
  | blanks (run : List Char)
  | token (token : Token)
deriving DecidableEq

namespace Piece

/-- The characters of a piece. -/
def text : Piece → List Char
  | .blanks run => run
  | .token found => found.lexeme

/-- The token that a piece is. -/
def token? : Piece → Option Token
  | .blanks _ => none
  | .token found => some found

/-- Whether a piece may start the text that consists of its characters and `rest`.  A
run of blanks is not empty and ends where the blanks end. -/
def Fits : Piece → List Char → Prop
  | .blanks run, rest =>
      run ≠ [] ∧ (∀ c ∈ run, isBlank c = true) ∧ ∀ next ∈ rest.head?, isBlank next = false
  | .token found, rest => found.Starts rest

theorem text_ne_nil {piece : Piece} {rest : List Char} (hfits : piece.Fits rest) :
    piece.text ≠ [] := by
  cases piece with
  | blanks run => exact hfits.1
  | token token =>
      obtain ⟨c, tail, hlexeme, -⟩ := Token.exists_lexeme_eq_cons hfits
      rw [text, hlexeme]
      exact List.cons_ne_nil c tail

theorem takeWhile_blanks {run rest : List Char} (hfits : (blanks run).Fits rest) :
    (run ++ rest).takeWhile isBlank = run := by
  obtain ⟨-, hrun, hrest⟩ := hfits
  rw [List.takeWhile_append_of_pos hrun]
  cases rest with
  | nil => simp
  | cons next tail =>
      have hnext : isBlank next = false := hrest next rfl
      simp [hnext]

/-- Where a token starts there is no run of blanks. -/
theorem not_blanks_of_token {token : Token} {run rest tail : List Char}
    (htoken : token.Starts rest) (hblanks : (blanks run).Fits tail) :
    token.lexeme ++ rest ≠ run ++ tail := by
  intro heq
  obtain ⟨c, letters, hlexeme, hc⟩ := Token.exists_lexeme_eq_cons htoken
  obtain ⟨d, more, rfl⟩ := List.exists_cons_of_ne_nil hblanks.1
  rw [hlexeme] at heq
  have hsame : c = d := (List.cons.inj heq).1
  have hd : isBlank d = true := hblanks.2.1 d (List.mem_cons_self ..)
  rw [← hsame, hc] at hd
  simp at hd

/-- Only one piece can start a text. -/
theorem Fits.unique {piece other : Piece} {rest tail : List Char} (hfits : piece.Fits rest)
    (hother : other.Fits tail) (heq : piece.text ++ rest = other.text ++ tail) :
    piece = other ∧ rest = tail := by
  cases piece with
  | blanks run =>
      cases other with
      | blanks more =>
          have heq : run ++ rest = more ++ tail := heq
          have hrun : run = more := by
            rw [← takeWhile_blanks hfits, heq, takeWhile_blanks hother]
          subst hrun
          exact ⟨rfl, List.append_cancel_left heq⟩
      | token token => exact absurd heq.symm (not_blanks_of_token hother hfits)
  | token token =>
      cases other with
      | blanks more => exact absurd heq (not_blanks_of_token hfits hother)
      | token second =>
          obtain ⟨rfl, hrest⟩ := Token.Starts.unique hfits hother heq
          exact ⟨rfl, hrest⟩

end Piece

/-- A text as a sequence of pieces, each of which fits in front of the rest. -/
inductive Splits : List Char → List Piece → Prop
  | nil : Splits [] []
  | cons {piece : Piece} {rest : List Char} {pieces : List Piece} :
      piece.Fits rest → Splits rest pieces → Splits (piece.text ++ rest) (piece :: pieces)

namespace Splits

/-- A text splits in at most one way. -/
theorem unique {source : List Char} {pieces other : List Piece} (hsplits : Splits source pieces)
    (hother : Splits source other) : pieces = other := by
  induction hsplits generalizing other with
  | nil =>
      generalize hsource : ([] : List Char) = source at hother
      cases hother with
      | nil => rfl
      | cons hfits _ =>
          have hnil := (List.append_eq_nil_iff.mp hsource.symm).1
          exact absurd hnil (Piece.text_ne_nil hfits)
  | @cons piece rest pieces hfits _ ih =>
      generalize hsource : piece.text ++ rest = source at hother
      cases hother with
      | nil =>
          have hnil := (List.append_eq_nil_iff.mp hsource).1
          exact absurd hnil (Piece.text_ne_nil hfits)
      | cons hsecond hrest =>
          obtain ⟨rfl, rfl⟩ := hfits.unique hsecond hsource
          rw [ih hrest]

/-- The tokens of a split are those of the scan. -/
theorem scan_eq {source : List Char} {pieces : List Piece} (hsplits : Splits source pieces) :
    Token.scan source = pieces.filterMap Piece.token? := by
  induction hsplits with
  | nil => exact Token.scan_nil
  | @cons piece rest pieces hfits _ ih =>
      cases piece with
      | blanks run =>
          rw [Piece.text, Token.scan_blanks_append hfits.2.1, ih]
          rfl
      | token token =>
          rw [Piece.text, Token.scan_lexeme_append hfits, ih]
          rfl

theorem exists_starts_of_token_mem {source : List Char} {pieces : List Piece}
    (hsplits : Splits source pieces) {token : Token} (hmem : .token token ∈ pieces) :
    ∃ rest, token.Starts rest := by
  induction hsplits with
  | nil => simp at hmem
  | @cons piece rest pieces hfits _ ih =>
      rcases List.mem_cons.mp hmem with rfl | hmem
      · exact ⟨rest, hfits⟩
      · exact ih hmem

end Splits

/-! ## Which piece a character lies in -/

/-- The number of characters in front of the piece with an index. -/
def offset (pieces : List Piece) (index : ℕ) : ℕ :=
  ((pieces.take index).flatMap Piece.text).length

theorem offset_succ_cons (piece : Piece) (pieces : List Piece) (index : ℕ) :
    offset (piece :: pieces) (index + 1) = piece.text.length + offset pieces index := by
  rw [offset, List.take_succ_cons, List.flatMap_cons, List.length_append]
  rfl

theorem offset_mono (pieces : List Piece) {index later : ℕ} (hle : index ≤ later) :
    offset pieces index ≤ offset pieces later := by
  obtain ⟨count, rfl⟩ := Nat.exists_eq_add_of_le hle
  rw [offset, offset, List.take_add, List.flatMap_append, List.length_append]
  exact Nat.le_add_right _ _

/-- The token with an index in a split reaches over a position of the text. -/
def TokenCovers (pieces : List Piece) (position index : ℕ) : Prop :=
  (∃ token, pieces[index]? = some (.token token)) ∧
    offset pieces index ≤ position ∧ position < offset pieces (index + 1)

theorem TokenCovers.unique {pieces : List Piece} {position index other : ℕ}
    (hindex : TokenCovers pieces position index) (hother : TokenCovers pieces position other) :
    index = other := by
  obtain ⟨-, hlow, hhigh⟩ := hindex
  obtain ⟨-, hlow', hhigh'⟩ := hother
  rcases Nat.lt_trichotomy index other with hlt | heq | hgt
  · have : offset pieces (index + 1) ≤ offset pieces other := offset_mono pieces hlt
    omega
  · exact heq
  · have : offset pieces (other + 1) ≤ offset pieces index := offset_mono pieces hgt
    omega

/-- Every character that is not blank lies in a token. -/
theorem Splits.exists_tokenCovers {source : List Char} {pieces : List Piece}
    (hsplits : Splits source pieces) {position : ℕ} {c : Char} (hc : source[position]? = some c)
    (hblank : isBlank c = false) : ∃ index, TokenCovers pieces position index := by
  induction hsplits generalizing position with
  | nil => simp at hc
  | @cons piece rest pieces hfits _ ih =>
      -- the character lies in the first piece, which is no run of blanks, or behind it
      rcases Nat.lt_or_ge position piece.text.length with hlt | hge
      · rw [List.getElem?_append_left hlt] at hc
        refine ⟨0, ?_, Nat.zero_le _, ?_⟩
        · cases piece with
          | blanks run =>
              have hrun : isBlank c = true := hfits.2.1 c (List.mem_of_getElem? hc)
              rw [hblank] at hrun
              simp at hrun
          | token token => exact ⟨token, rfl⟩
        · rw [offset_succ_cons]
          exact Nat.lt_add_right _ hlt
      · rw [List.getElem?_append_right hge] at hc
        obtain ⟨index, htoken, hlow, hhigh⟩ := ih hc
        refine ⟨index + 1, htoken, ?_, ?_⟩
        · rw [offset_succ_cons]
          omega
        · rw [offset_succ_cons]
          omega

/-! ## Every text splits -/

/-- Every text splits into pieces. -/
theorem exists_splits (source : List Char) : ∃ pieces, Splits source pieces := by
  induction hlength : source.length using Nat.strong_induction_on generalizing source with
  | _ length ih =>
      cases source with
      | nil => exact ⟨[], .nil⟩
      | cons c tail =>
          -- one piece off the front leaves a shorter text, whichever piece it is
          suffices hpiece : ∃ piece rest, c :: tail = Piece.text piece ++ rest ∧ piece.Fits rest by
            obtain ⟨piece, rest, heq, hfits⟩ := hpiece
            have hpositive := List.length_pos_iff.mpr (Piece.text_ne_nil hfits)
            have hshorter : rest.length < length := by
              rw [← hlength, heq, List.length_append]
              omega
            obtain ⟨pieces, hsplits⟩ := ih rest.length hshorter rest rfl
            exact ⟨piece :: pieces, heq ▸ .cons hfits hsplits⟩
          cases hc : isBlank c with
          | true =>
              refine ⟨.blanks (c :: tail.takeWhile isBlank), tail.dropWhile isBlank, ?_,
                List.cons_ne_nil _ _, ?_, ?_⟩
              · exact congrArg (c :: ·) List.takeWhile_append_dropWhile.symm
              · intro x hx
                rcases List.mem_cons.mp hx with rfl | hx
                · exact hc
                · exact List.mem_takeWhile_imp hx
              · intro next hnext
                have := List.head?_dropWhile_not isBlank tail
                rw [Option.mem_def.mp hnext] at this
                simpa using this
          | false =>
              obtain ⟨heq, hstarts⟩ := Token.first_starts hc tail
              exact ⟨.token (Token.first c tail).1, (Token.first c tail).2, heq, hstarts⟩

/-- Every token of a scan satisfies its rule where it stands. -/
theorem Token.exists_starts_of_mem_scan {source : List Char} {token : Token}
    (hmem : token ∈ Token.scan source) : ∃ rest, token.Starts rest := by
  obtain ⟨pieces, hsplits⟩ := exists_splits source
  rw [hsplits.scan_eq] at hmem
  obtain ⟨piece, hpiece, htoken⟩ := List.mem_filterMap.mp hmem
  cases piece with
  | blanks run => simp [Piece.token?] at htoken
  | token found =>
      obtain rfl : found = token := Option.some.inj htoken
      exact hsplits.exists_starts_of_token_mem hpiece

end TaskQuery
