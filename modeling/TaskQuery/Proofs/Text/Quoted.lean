import Mathlib.Algebra.Group.Nat.Defs
import TaskQuery.Json.Reader
import TaskQuery.Text.Basic
import TaskQuery.Text.Quoted

/-!
# Reading quoted texts back

A quoted text stands on one line, whatever the text was (`isLineEnd_of_mem_quote`), and it can
be read back without knowing where it ends: of two texts that start with a quoted text, if they
are equal, the quoted texts are, and so is what follows them (`quote_append_inj`).

## Strategy

The ways to write a character are listed once (`WrittenAs`), and what is needed of them is
proved by cases.  One character of a quoted text is read by `readChar`, which takes its escape
off the front of whatever follows (`WrittenAs.readChar_append`).  Codes have as many digits as
the letter in front of them says, so they need no mark at their end.  The quote in use is escaped
wherever it stands in the text, so no character is written in a way that starts with it
(`WrittenAs.exists_eq_cons`): where the text is over, and only there, the quote follows.
-/

namespace TaskQuery.Text

/-! ## Hexadecimal digits -/

/-- The number that hexadecimal digits write. -/
def hexValue (digits : List Char) : ℕ :=
  digits.foldl (fun value digit => 16 * value + (Json.hexDigit? digit).getD 0) 0

theorem hexDigit?_digitChar : ∀ n < 16, Json.hexDigit? (Nat.digitChar n) = some n := by
  decide

theorem hexValue_append_digitChar (digits : List Char) {n : ℕ} (hn : n < 16) :
    hexValue (digits ++ [Nat.digitChar n]) = 16 * hexValue digits + n := by
  unfold hexValue
  rw [List.foldl_append, List.foldl_cons, List.foldl_nil, hexDigit?_digitChar n hn,
    Option.getD_some]

/-- The digits of a number are one digit, or those of its sixteenth and the one that is left. -/
theorem hexDigits_induction {motive : ℕ → List Char → Prop}
    (hsingle : ∀ n < 16, motive n [Nat.digitChar n])
    (hmore : ∀ n digits, motive n digits → ∀ last < 16,
      motive (16 * n + last) (digits ++ [Nat.digitChar last])) (n : ℕ) :
    motive n (hexDigits n) := by
  induction n using Nat.strongRecOn with
  | ind n ih =>
      by_cases hsmall : n < 16
      · have hdigit : hexDigits n = [Nat.digitChar n] := Nat.toDigits_of_lt_base hsmall
        rw [hdigit]
        exact hsingle n hsmall
      · have hdigits : hexDigits n = hexDigits (n / 16) ++ [Nat.digitChar (n % 16)] :=
          Nat.toDigits_of_base_le (by decide) (Nat.le_of_not_lt hsmall)
        have hlast := hmore (n / 16) _ (ih (n / 16) (by omega)) (n % 16) (Nat.mod_lt n (by decide))
        rw [Nat.div_add_mod] at hlast
        rw [hdigits]
        exact hlast

theorem hexValue_hexDigits (n : ℕ) : hexValue (hexDigits n) = n := by
  apply hexDigits_induction (motive := fun n digits => hexValue digits = n)
  · intro n hn
    exact (hexValue_append_digitChar [] hn).trans (Nat.zero_add n)
  · intro n digits hvalue last hlast
    rw [hexValue_append_digitChar digits hlast, hvalue]

theorem hexValue_hexPadded (width n : ℕ) : hexValue (hexPadded width n) = n := by
  have hzeros (count : ℕ) (digits : List Char) :
      hexValue (List.replicate count '0' ++ digits) = hexValue digits := by
    induction count with
    | zero => rfl
    | succ count ih => exact ih
  exact (hzeros _ _).trans (hexValue_hexDigits n)

theorem length_hexPadded {width n : ℕ} (hwidth : 0 < width) (hfits : n < 16 ^ width) :
    (hexPadded width n).length = width := by
  have hlength : (hexDigits n).length ≤ width :=
    (Nat.length_toDigits_le_iff (by decide) hwidth).mpr hfits
  dsimp only [hexPadded]
  rw [List.length_append, List.length_replicate]
  omega

/-! ## How a character is written -/

/-- The two quotes that a text may stand in. -/
def IsQuote (mark : Char) : Prop :=
  mark = '\'' ∨ mark = '"'

theorem isQuote_quoteFor (text : List Char) : IsQuote (quoteFor text) := by
  unfold quoteFor
  split
  · exact Or.inr rfl
  · exact Or.inl rfl

/-- The ways in which a character may be written between quotes `mark`. -/
inductive WrittenAs (mark : Char) : Char → List Char → Prop
  | mark : WrittenAs mark mark ['\\', mark]
  | backslash : WrittenAs mark '\\' ['\\', '\\']
  | lineFeed : WrittenAs mark '\n' ['\\', 'n']
  | carriageReturn : WrittenAs mark '\r' ['\\', 'r']
  | tab : WrittenAs mark '\t' ['\\', 't']
  | plain {c : Char} (hmark : c ≠ mark) (hbackslash : c ≠ '\\')
      (hprintable : isPrintable c = true) : WrittenAs mark c [c]
  | code (c : Char) : WrittenAs mark c (escapeCode c)

theorem writtenAs_escapeChar (mark c : Char) : WrittenAs mark c (escapeChar mark c) := by
  unfold escapeChar
  split
  · rename_i hescaped
    rcases hescaped with rfl | rfl
    · exact .mark
    · exact .backslash
  · rename_i hplain
    obtain ⟨hmark, hbackslash⟩ := not_or.mp hplain
    split
    · rename_i hfeed
      exact hfeed ▸ .lineFeed
    · split
      · rename_i hreturn
        exact hreturn ▸ .carriageReturn
      · split
        · rename_i htab
          exact htab ▸ .tab
        · split
          · rename_i hprintable
            exact .plain hmark hbackslash hprintable
          · exact .code c

variable {mark c : Char} {written : List Char}

/-- The quote in use never stands where the text goes on. -/
theorem WrittenAs.exists_eq_cons (hmark : IsQuote mark) (hwritten : WrittenAs mark c written) :
    ∃ first rest, written = first :: rest ∧ first ≠ mark := by
  have hbackslash : '\\' ≠ mark := by
    rcases hmark with rfl | rfl <;> decide
  cases hwritten with
  | plain hplain => exact ⟨c, [], rfl, hplain⟩
  | code c =>
      unfold escapeCode
      dsimp only
      split
      · exact ⟨_, _, rfl, hbackslash⟩
      · split <;> exact ⟨_, _, rfl, hbackslash⟩
  | _ => exact ⟨_, _, rfl, hbackslash⟩

/-! ## Reading one character -/

/-- Takes the code of a character off the front of a text. -/
def takeCode (width : ℕ) (text : List Char) : Char × List Char :=
  (Char.ofNat (hexValue (text.take width)), text.drop width)

/-- Reads an escape behind its backslash. -/
def readEscape : List Char → Option (Char × List Char)
  | [] => none
  | 'n' :: rest => some ('\n', rest)
  | 'r' :: rest => some ('\r', rest)
  | 't' :: rest => some ('\t', rest)
  | 'x' :: rest => some (takeCode 2 rest)
  | 'u' :: rest => some (takeCode 4 rest)
  | 'U' :: rest => some (takeCode 8 rest)
  | c :: rest => some (c, rest)

/-- Reads one character of a quoted text, escaped or not. -/
def readChar : List Char → Option (Char × List Char)
  | [] => none
  | '\\' :: rest => readEscape rest
  | c :: rest => some (c, rest)

theorem takeCode_hexPadded {width : ℕ} (hwidth : 0 < width) {c : Char}
    (hfits : c.toNat < 16 ^ width) (rest : List Char) :
    takeCode width (hexPadded width c.toNat ++ rest) = (c, rest) := by
  have hlength := length_hexPadded hwidth hfits
  unfold takeCode
  rw [List.take_left' hlength, List.drop_left' hlength, hexValue_hexPadded, Char.ofNat_toNat]

theorem readChar_escapeCode (c : Char) (rest : List Char) :
    readChar (escapeCode c ++ rest) = some (c, rest) := by
  have hlargest : c.toNat < 16 ^ 8 := by
    have hvalid : c.toNat.isValidChar := c.valid
    unfold Nat.isValidChar at hvalid
    omega
  unfold escapeCode
  dsimp only
  split
  · rename_i hsmall
    exact congrArg some (takeCode_hexPadded (by decide) hsmall rest)
  · split
    · rename_i hmedium
      exact congrArg some (takeCode_hexPadded (by decide) hmedium rest)
    · exact congrArg some (takeCode_hexPadded (by decide) hlargest rest)

/-- A character is read back from the way it is written, whatever follows it. -/
theorem WrittenAs.readChar_append (hmark : IsQuote mark) (hwritten : WrittenAs mark c written)
    (rest : List Char) : readChar (written ++ rest) = some (c, rest) := by
  cases hwritten with
  | mark => rcases hmark with rfl | rfl <;> rfl
  | backslash | lineFeed | carriageReturn | tab => rfl
  | plain _ hbackslash =>
      rw [List.singleton_append, readChar]
      exact hbackslash
  | code c => exact readChar_escapeCode c rest

/-! ## Reading a whole text -/

/-- A text is over where the quote in use comes, so it can be read without knowing what
follows. -/
theorem escaped_append_inj (hmark : IsQuote mark) {text other rest tail : List Char}
    (heq : text.flatMap (escapeChar mark) ++ mark :: rest =
      other.flatMap (escapeChar mark) ++ mark :: tail) : text = other ∧ rest = tail := by
  induction text generalizing other with
  | nil =>
      cases other with
      | nil => exact ⟨rfl, (List.cons.inj heq).2⟩
      | cons c other =>
          obtain ⟨first, letters, hfirst, hne⟩ :=
            (writtenAs_escapeChar mark c).exists_eq_cons hmark
          rw [List.flatMap_cons, hfirst] at heq
          exact absurd (List.cons.inj heq).1.symm hne
  | cons c text ih =>
      have hread := (writtenAs_escapeChar mark c).readChar_append hmark
      rw [List.flatMap_cons, List.append_assoc] at heq
      cases other with
      | nil =>
          obtain ⟨first, letters, hfirst, hne⟩ :=
            (writtenAs_escapeChar mark c).exists_eq_cons hmark
          rw [hfirst] at heq
          exact absurd (List.cons.inj heq).1 hne
      | cons d other =>
          have hother := (writtenAs_escapeChar mark d).readChar_append hmark
          rw [List.flatMap_cons, List.append_assoc] at heq
          have hboth := congrArg readChar heq
          rw [hread, hother] at hboth
          obtain ⟨rfl, hrest⟩ := Prod.mk.inj (Option.some.inj hboth)
          obtain ⟨rfl, htail⟩ := ih hrest
          exact ⟨rfl, htail⟩

/-- A quoted text is read back, whatever follows it. -/
theorem quote_append_inj {text other rest tail : List Char}
    (heq : quote text ++ rest = quote other ++ tail) : text = other ∧ rest = tail := by
  unfold quote at heq
  simp only [List.cons_append, List.append_assoc] at heq
  obtain ⟨hmark, hescaped⟩ := List.cons.inj heq
  rw [← hmark] at hescaped
  exact escaped_append_inj (isQuote_quoteFor text) hescaped

/-! ## A quoted text is printable -/

theorem isPrintable_digitChar : ∀ n < 16, isPrintable (Nat.digitChar n) = true := by
  decide

theorem isPrintable_of_mem_hexDigits (n : ℕ) : ∀ c ∈ hexDigits n, isPrintable c = true := by
  apply hexDigits_induction (motive := fun _ digits => ∀ c ∈ digits, isPrintable c = true)
  · intro n hn
    exact List.forall_mem_singleton.mpr (isPrintable_digitChar n hn)
  · intro _ digits hdigits last hlast
    rw [List.forall_mem_append, List.forall_mem_singleton]
    exact ⟨hdigits, isPrintable_digitChar last hlast⟩

theorem isPrintable_of_mem_hexPadded {width n : ℕ} (hc : c ∈ hexPadded width n) :
    isPrintable c = true := by
  rcases List.mem_append.mp hc with hzero | hdigit
  · rw [List.eq_of_mem_replicate hzero]
    decide
  · exact isPrintable_of_mem_hexDigits n c hdigit

theorem isPrintable_of_mem_escapeCode {d : Char} (hd : d ∈ escapeCode c) :
    isPrintable d = true := by
  have hcode (letter : Char) (hletter : isPrintable letter = true) (width : ℕ)
      (hmem : d ∈ '\\' :: letter :: hexPadded width c.toNat) : isPrintable d = true := by
    rcases List.mem_cons.mp hmem with rfl | hmem
    · decide
    · rcases List.mem_cons.mp hmem with rfl | hmem
      · exact hletter
      · exact isPrintable_of_mem_hexPadded hmem
  unfold escapeCode at hd
  dsimp only at hd
  split at hd
  · exact hcode 'x' (by decide) 2 hd
  · split at hd
    · exact hcode 'u' (by decide) 4 hd
    · exact hcode 'U' (by decide) 8 hd

theorem WrittenAs.isPrintable_of_mem (hmark : IsQuote mark) (hwritten : WrittenAs mark c written) :
    ∀ d ∈ written, isPrintable d = true := by
  have hquote : isPrintable mark = true := by
    rcases hmark with rfl | rfl <;> decide
  cases hwritten with
  | mark => exact List.forall_mem_cons.mpr ⟨by decide, List.forall_mem_singleton.mpr hquote⟩
  | backslash | lineFeed | carriageReturn | tab => exact List.all_eq_true.mp (by decide)
  | plain _ _ hprintable => exact List.forall_mem_singleton.mpr hprintable
  | code c => exact fun d hd => isPrintable_of_mem_escapeCode hd

/-- Whatever a text was, every character of the quoted text can be seen. -/
theorem isPrintable_of_mem_quote {text : List Char} (hc : c ∈ quote text) :
    isPrintable c = true := by
  have hmark : IsQuote (quoteFor text) := isQuote_quoteFor text
  have hquote : isPrintable (quoteFor text) = true := by
    rcases hmark with h | h <;> rw [h] <;> decide
  rcases List.mem_append.mp hc with hfront | hlast
  · rcases List.mem_cons.mp hfront with rfl | hinner
    · exact hquote
    · obtain ⟨d, -, hd⟩ := List.mem_flatMap.mp hinner
      exact (writtenAs_escapeChar _ d).isPrintable_of_mem hmark c hd
  · rw [List.mem_singleton.mp hlast]
    exact hquote

/-- No line end can be seen. -/
theorem not_isLineEnd_of_isPrintable (hc : isPrintable c = true) : isLineEnd c = false := by
  unfold isPrintable at hc
  unfold isLineEnd
  split at hc
  · have hlow : 0x20 ≤ c.toNat := of_decide_eq_true hc
    simp only [Bool.or_eq_false_iff, Bool.and_eq_false_imp, decide_eq_true_eq,
      decide_eq_false_iff_not, beq_eq_false_iff_ne]
    omega
  · rename_i hhigh
    have hrange : ∀ range ∈ unprintableRanges, ¬ (range.1 ≤ c.toNat ∧ c.toNat ≤ range.2) := by
      simpa using hc
    have hnext := hrange (0x7F, 0xA0) (by decide)
    have hseparator := hrange (0x2028, 0x202F) (by decide +kernel)
    simp only [Bool.or_eq_false_iff, Bool.and_eq_false_imp, decide_eq_true_eq,
      decide_eq_false_iff_not, beq_eq_false_iff_ne]
    omega

theorem isLineEnd_of_mem_quote {text : List Char} (hc : c ∈ quote text) : isLineEnd c = false :=
  not_isLineEnd_of_isPrintable (isPrintable_of_mem_quote hc)

end TaskQuery.Text
