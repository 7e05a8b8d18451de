import TaskQuery.Query.Basic
import TaskQuery.Text.Basic
import TaskQuery.Text.Case

/-!
# What stands at a place of a search text

Between the blanks of a search text there are keywords, phrases and words.  At a place
that is not blank stands, in this order of preference,

* a keyword: `AND`, `OR` or `NOT` in any letter case, up to the end of the text, a
  blank or a double quote;
* a phrase: from a double quote to the next one, or to the end of the text if
  there is none;
* a word: everything up to the next blank.

Each is read with the place at which the text goes on behind it.
-/

namespace TaskQuery.Token

open Text

/-! ## Blanks -/

/-- The first place from the given one on that is not blank, or the end of the text. -/
def skipBlanks (source : List Char) (place : Nat) : Nat :=
  place + ((source.drop place).takeWhile isBlank).length

/-! ## Keywords -/

/-- Whether a keyword may end in front of this text. -/
def endsKeyword : List Char → Bool
  | [] => true
  | c :: _ => isBlank c || c == '"'

/-- The operators in the order in which their keywords are tried. -/
def keywords : List Operator :=
  [.and, .or, .not]

/-- Takes the keyword of one operator off the front of a text: its spelling and
the text after it. -/
def keywordOf? (operator : Operator) (source : List Char) : Option (List Char × List Char) :=
  let name := operator.name.toList
  let spelling := source.take name.length
  let rest := source.drop name.length
  if upper spelling = name ∧ endsKeyword rest then some (spelling, rest) else none

/-- Takes a keyword off the front of a text. -/
def keyword? (source : List Char) : Option (Operator × List Char × List Char) :=
  keywords.findSome? fun operator => (keywordOf? operator source).map fun found => (operator, found)

/-- The keyword at a place, and the place behind it. -/
def keywordFrom? (source : List Char) (place : Nat) : Option (Operator × Nat) :=
  (keyword? (source.drop place)).map fun found => (found.1, place + found.2.1.length)

/-! ## Phrases and words -/

/-- The text of the phrase whose opening quote is at a place, and the place behind the
phrase. -/
def phraseFrom (source : List Char) (place : Nat) : List Char × Nat :=
  match cutAt '"' (source.drop (place + 1)) with
  | (inner, some _) => (inner, place + inner.length + 2)
  | (inner, none) => (inner, source.length)

/-- The word from a place on, and the place behind it.  It is empty at a blank. -/
def wordFrom (source : List Char) (place : Nat) : List Char × Nat :=
  let word := (source.drop place).takeWhile (!isBlank ·)
  (word, place + word.length)

/-! ## What is read is behind its place -/

theorem lt_of_keywordFrom? {source : List Char} {place : Nat} {operator : Operator} {stop : Nat}
    (inside : place < source.length)
    (found : keywordFrom? source place = some (operator, stop)) : place < stop := by
  obtain ⟨⟨candidate, spelling, rest⟩, isKeyword, same⟩ := Option.map_eq_some_iff.1 found
  obtain ⟨rfl, rfl⟩ : candidate = operator ∧ place + spelling.length = stop := by
    simpa using same
  unfold keyword? at isKeyword
  obtain ⟨tried, _, hit⟩ := List.exists_of_findSome?_eq_some isKeyword
  obtain ⟨pair, fits, again⟩ := Option.map_eq_some_iff.1 hit
  obtain ⟨rfl, rfl⟩ : tried = candidate ∧ pair = (spelling, rest) := by
    simpa using again
  dsimp only [keywordOf?] at fits
  split at fits
  · simp only [Option.some.injEq, Prod.mk.injEq] at fits
    have positive : 0 < tried.name.toList.length := by cases tried <;> decide
    rw [← fits.1, List.length_take, List.length_drop]
    omega
  · simp at fits

theorem lt_phraseFrom {source : List Char} {place : Nat} (inside : place < source.length) :
    place < (phraseFrom source place).2 := by
  unfold phraseFrom
  split
  · exact Nat.lt_of_le_of_lt (Nat.le_add_right ..) (Nat.lt_add_of_pos_right (by decide))
  · exact inside

theorem lt_wordFrom {source : List Char} {place : Nat}
    (nonempty : (wordFrom source place).1.isEmpty = false) :
    place < (wordFrom source place).2 := by
  have := List.length_pos_iff.2 (List.isEmpty_eq_false_iff.1 nonempty)
  exact Nat.lt_add_of_pos_right this

end TaskQuery.Token
