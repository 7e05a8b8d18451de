/-!
# Characters and pieces of texts

Blanks, the decimal digits of all scripts, cuts at a character and lines.
-/

namespace TaskQuery.Text

/-!
## Blank characters

The blanks are the white space of every script: the tabs, line ends and spaces
of ASCII together with its four separators, and the spaces and separators
beyond it.  Texts are trimmed at blanks and cut into words at blanks.
-/

/-- Whether a character is white space. -/
def isBlank (c : Char) : Bool :=
  let code := c.toNat
  (decide (0x09 ≤ code) && decide (code ≤ 0x0D)) || (decide (0x1C ≤ code) && decide (code ≤ 0x20))
    || code == 0x85 || code == 0xA0 || code == 0x1680
    || (decide (0x2000 ≤ code) && decide (code ≤ 0x200A))
    || code == 0x2028 || code == 0x2029 || code == 0x202F || code == 0x205F || code == 0x3000

/-- The text without the blanks it starts with. -/
def trimStart (text : List Char) : List Char :=
  text.dropWhile isBlank

/-- The text without the blanks it ends with. -/
def trimEnd (text : List Char) : List Char :=
  (text.reverse.dropWhile isBlank).reverse

/-- The text without the blanks at both ends. -/
def trim (text : List Char) : List Char :=
  trimEnd (trimStart text)

/-- The text of a string without the blanks at both ends. -/
def trimmed (text : String) : String :=
  String.ofList (trim text.toList)

/-! ### Words -/

/-- The pieces between the characters that satisfy `isBreak`; one more piece
than there are breaks, and some may be empty. -/
def splitAt (isBreak : Char → Bool) : List Char → List (List Char)
  | [] => [[]]
  | c :: rest =>
    if isBreak c then [] :: splitAt isBreak rest
    else
      match splitAt isBreak rest with
      | [] => [[c]]
      | piece :: pieces => (c :: piece) :: pieces

/-- The maximal runs of characters that are not blank. -/
def words (text : List Char) : List (List Char) :=
  (splitAt isBlank text).filter fun piece => !piece.isEmpty

/-!
## Decimal digits of every script

Each script with decimal digits of its own has them as ten code points in a
row, zero first.  `decimalDigit?` reads one such digit.
-/

/-- The digit zero of each script beyond ASCII. -/
def scriptZeros : List Nat := [
    0x660, 0x6F0, 0x7C0, 0x966, 0x9E6, 0xA66, 0xAE6, 0xB66, 0xBE6, 0xC66, 0xCE6, 0xD66, 0xDE6,
    0xE50, 0xED0, 0xF20, 0x1040, 0x1090, 0x17E0, 0x1810, 0x1946, 0x19D0, 0x1A80, 0x1A90, 0x1B50,
    0x1BB0, 0x1C40, 0x1C50, 0xA620, 0xA8D0, 0xA900, 0xA9D0, 0xA9F0, 0xAA50, 0xABF0, 0xFF10,
    0x104A0, 0x10D30, 0x11066, 0x110F0, 0x11136, 0x111D0, 0x112F0, 0x11450, 0x114D0, 0x11650,
    0x116C0, 0x11730, 0x118E0, 0x11950, 0x11C50, 0x11D50, 0x11DA0, 0x16A60, 0x16AC0, 0x16B50,
    0x1D7CE, 0x1D7D8, 0x1D7E2, 0x1D7EC, 0x1D7F6, 0x1E140, 0x1E2F0, 0x1E950, 0x1FBF0]

/-- The value of an ASCII digit. -/
def asciiDigit? (c : Char) : Option Nat :=
  if '0' ≤ c ∧ c ≤ '9' then some (c.toNat - '0'.toNat) else none

/-- The value of a decimal digit of any script. -/
def decimalDigit? (c : Char) : Option Nat :=
  if c.toNat < 0x80 then asciiDigit? c
  else (scriptZeros.find? fun base => decide (base ≤ c.toNat) && decide (c.toNat < base + 10)).map
    fun base => c.toNat - base

/-!
## Cutting a text at a mark

A phrase ends at a double quote, a field name at a colon, the name of an option at an
equals sign: the first one counts, and there may be none.
-/

/-- Cuts a text at the first character `mark`: what stands before it, and what stands
after it if there is one. -/
def cutAt (mark : Char) : List Char → List Char × Option (List Char)
  | [] => ([], none)
  | c :: rest =>
    if c = mark then ([], some rest)
    else
      let (front, after) := cutAt mark rest
      (c :: front, after)

/-- What stands before the first mark has no mark, and nothing but the mark is lost. -/
theorem cutAt_spec (mark : Char) (text : List Char) :
    mark ∉ (cutAt mark text).1 ∧
      text = (cutAt mark text).1 ++
        match (cutAt mark text).2 with
        | some after => mark :: after
        | none => [] := by
  induction text with
  | nil => exact ⟨List.not_mem_nil, rfl⟩
  | cons c rest ih =>
      by_cases hc : c = mark
      · subst hc
        simp [cutAt]
      · rw [cutAt, if_neg hc]
        exact ⟨List.not_mem_cons_of_ne_of_not_mem (Ne.symm hc) ih.1, congrArg (c :: ·) ih.2⟩

theorem cutAt_eq_some_iff {mark : Char} {text front after : List Char} :
    cutAt mark text = (front, some after) ↔ text = front ++ mark :: after ∧ mark ∉ front := by
  constructor
  · intro hcut
    have hspec := cutAt_spec mark text
    rw [hcut] at hspec
    exact ⟨hspec.2, hspec.1⟩
  · rintro ⟨rfl, hfront⟩
    induction front with
    | nil => simp [cutAt]
    | cons c rest ih =>
        have hc : c ≠ mark := (List.ne_of_not_mem_cons hfront).symm
        rw [List.cons_append, cutAt, if_neg hc, ih (List.not_mem_of_not_mem_cons hfront)]

theorem cutAt_eq_none_iff {mark : Char} {text front : List Char} :
    cutAt mark text = (front, none) ↔ text = front ∧ mark ∉ front := by
  constructor
  · intro hcut
    have hspec := cutAt_spec mark text
    rw [hcut] at hspec
    exact ⟨hspec.2.trans (List.append_nil _), hspec.1⟩
  · rintro ⟨rfl, htext⟩
    induction text with
    | nil => rfl
    | cons c rest ih =>
        have hc : c ≠ mark := (List.ne_of_not_mem_cons htext).symm
        rw [cutAt, if_neg hc, ih (List.not_mem_of_not_mem_cons htext)]

/-- What stands after the mark is shorter than the text. -/
theorem length_lt_of_cutAt {mark : Char} {text front after : List Char}
    (hcut : cutAt mark text = (front, some after)) : after.length < text.length := by
  rw [(cutAt_eq_some_iff.mp hcut).1, List.length_append, List.length_cons]
  omega

/-!
## Lines

A line ends at a line feed, a carriage return (with the line feed that may
follow it), a vertical tab, a form feed, one of the separators U+001C to U+001E,
U+0085, U+2028 or U+2029.  A text that ends in a line end has no line after it.
-/

/-- Whether a character ends a line. -/
def isLineEnd (c : Char) : Bool :=
  let code := c.toNat
  (decide (0x0A ≤ code) && decide (code ≤ 0x0D)) || (decide (0x1C ≤ code) && decide (code ≤ 0x1E))
    || code == 0x85 || code == 0x2028 || code == 0x2029

/-- Puts a character in front of the first line. -/
def consToFirst (c : Char) : List (List Char) → List (List Char)
  | [] => [[c]]
  | line :: lines => (c :: line) :: lines

/-- The lines of a text, without their ends. -/
def lines : List Char → List (List Char)
  | [] => []
  | '\r' :: '\n' :: rest => [] :: lines rest
  | c :: rest => if isLineEnd c then [] :: lines rest else consToFirst c (lines rest)

/-- The same text with every line end of a file, `\r\n` or `\r`, as a line
feed. -/
def unifyLineEnds : List Char → List Char
  | [] => []
  | '\r' :: '\n' :: rest => '\n' :: unifyLineEnds rest
  | c :: rest => (if c = '\r' then '\n' else c) :: unifyLineEnds rest

/-- The pieces of a text between line feeds. -/
def splitAtLineFeeds : List Char → List (List Char)
  | [] => [[]]
  | c :: rest => if c = '\n' then [] :: splitAtLineFeeds rest else consToFirst c (splitAtLineFeeds rest)

end TaskQuery.Text
