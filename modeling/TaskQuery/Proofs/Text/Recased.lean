import Mathlib.Data.List.Forall2
import TaskQuery.Proofs.Text.AsciiCase
import TaskQuery.Text.Basic

/-!
# Texts that differ in the case of ASCII letters

A text is recased if some of its ASCII letters are written in the other case
(`Recased`).  Rather than comparing what two recased texts go through, this file gives
each text one representative, in which all ASCII letters are small (`caseless`).  Recased
texts have the same one, and every operation on texts either takes no notice of it
(folding, capital and small forms) or carries it along (trimming and cutting).

## Strategy

Whatever looks at single characters, be it a table or a test, is compared on the codes of
ASCII, and beyond ASCII a character is its own small form: `apply_toLower`.  Of a list of
ranges only those that start in ASCII are compared (`any_inRange_toLower`).  A mark is
recognised in either form because the small form of a letter is a letter
(`toLower_eq_iff`).  The rest follows the recursion of each operation.
-/

namespace TaskQuery.Text

/-! ## Characters -/

/-- What takes no notice of the case of ASCII letters takes none at all. -/
theorem apply_toLower {α : Type} {f : Char → α}
    (hascii : ∀ code < 0x80, f (Char.ofNat code).toLower = f (Char.ofNat code)) (c : Char) :
    f c.toLower = f c := by
  rcases Nat.lt_or_ge c.toNat 0x80 with hlt | hge
  · exact of_ascii c hlt hascii
  · rw [toLower_eq_self hge]

/-- The small form of a character is the character itself or a letter. -/
theorem toLower_eq_self_or_isAlpha (c : Char) :
    c.toLower = c ∨ c.isAlpha = true ∧ c.toLower.isAlpha = true := by
  have hascii : ∀ code < 0x80, (Char.ofNat code).toLower = Char.ofNat code ∨
      (Char.ofNat code).isAlpha = true ∧ (Char.ofNat code).toLower.isAlpha = true := by
    decide
  rcases Nat.lt_or_ge c.toNat 0x80 with hlt | hge
  · exact of_ascii c hlt hascii
  · exact Or.inl (toLower_eq_self hge)

/-- Only a mark has a mark as its small form. -/
theorem toLower_eq_iff {mark : Char} (hmark : mark.isAlpha = false) {c : Char} :
    c.toLower = mark ↔ c = mark := by
  constructor
  · rintro rfl
    rcases toLower_eq_self_or_isAlpha c with hself | ⟨-, halpha⟩
    · exact hself.symm
    · rw [hmark] at halpha
      exact absurd halpha Bool.false_ne_true
  · rintro rfl
    rcases toLower_eq_self_or_isAlpha c with hself | ⟨halpha, -⟩
    · exact hself
    · rw [hmark] at halpha
      exact absurd halpha Bool.false_ne_true

theorem isBlank_toLower (c : Char) : isBlank c.toLower = isBlank c :=
  apply_toLower (by decide) c

theorem isBlank_comp_toLower : isBlank ∘ Char.toLower = isBlank :=
  funext isBlank_toLower

theorem foldChar_toLower (c : Char) : foldChar c.toLower = foldChar c :=
  apply_toLower (by decide) c

theorem upperChar_toLower (c : Char) : upperChar c.toLower = upperChar c :=
  apply_toLower (by decide) c

theorem toLower_toLower (c : Char) : c.toLower.toLower = c.toLower :=
  apply_toLower (by decide) c

theorem toNat_toLower_lt {c : Char} (hc : c.toNat < 0x80) : c.toLower.toNat < 0x80 := by
  have hascii : ∀ code < 0x80, (Char.ofNat code).toLower.toNat < 0x80 := by
    decide
  exact of_ascii c hc hascii

/-! ## Ranges of characters -/

/-- Whether the code of a character is in a range. -/
def inRange (c : Char) (range : ℕ × ℕ) : Bool :=
  decide (range.1 ≤ c.toNat) && decide (c.toNat ≤ range.2)

/-- For a character of ASCII only the ranges that start there matter. -/
theorem any_inRange_eq {c : Char} (hc : c.toNat < 0x80) (ranges : List (ℕ × ℕ)) :
    ranges.any (inRange c) = (ranges.filter fun range => range.1 < 0x80).any (inRange c) := by
  rw [List.any_filter]
  congr 1
  funext range
  by_cases hstart : range.1 < 0x80
  · simp [hstart]
  · -- a range that starts beyond ASCII does not reach back to it
    have hbeyond : ¬ range.1 ≤ c.toNat := by omega
    simp [inRange, hstart, hbeyond]

/-- Ranges contain both forms of a letter or neither if those do that start in ASCII. -/
theorem any_inRange_toLower {ranges : List (ℕ × ℕ)} (low : List (ℕ × ℕ))
    (hlow : (ranges.filter fun range => range.1 < 0x80) = low)
    (hascii : ∀ code < 0x80, low.any (inRange (Char.ofNat code).toLower) =
      low.any (inRange (Char.ofNat code))) (c : Char) :
    ranges.any (inRange c.toLower) = ranges.any (inRange c) := by
  rcases Nat.lt_or_ge c.toNat 0x80 with hlt | hge
  · rw [any_inRange_eq hlt, any_inRange_eq (toNat_toLower_lt hlt), hlow]
    exact of_ascii c hlt hascii
  · rw [toLower_eq_self hge]

theorem isCased_toLower (c : Char) : isCased c.toLower = isCased c :=
  any_inRange_toLower [(0x41, 0x5A), (0x61, 0x7A)] (by decide +kernel) (by decide) c

theorem isCaseIgnorable_toLower (c : Char) : isCaseIgnorable c.toLower = isCaseIgnorable c :=
  any_inRange_toLower [(0x27, 0x27), (0x2E, 0x2E), (0x3A, 0x3A), (0x5E, 0x5E), (0x60, 0x60)]
    (by decide +kernel) (by decide) c

/-! ## The case forms of a text -/

theorem fold_map_toLower (text : List Char) : fold (text.map Char.toLower) = fold text := by
  rw [fold, fold, List.flatMap_map]
  exact congrArg (text.flatMap ·) (funext foldChar_toLower)

theorem upper_map_toLower (text : List Char) : upper (text.map Char.toLower) = upper text := by
  rw [upper, upper, List.flatMap_map]
  exact congrArg (text.flatMap ·) (funext upperChar_toLower)

theorem meetsCased_map_toLower (neighbours : List Char) :
    meetsCased (neighbours.map Char.toLower) = meetsCased neighbours := by
  have hignorable : isCaseIgnorable ∘ Char.toLower = isCaseIgnorable :=
    funext isCaseIgnorable_toLower
  unfold meetsCased
  rw [List.dropWhile_map, hignorable]
  cases neighbours.dropWhile isCaseIgnorable with
  | nil => rfl
  | cons c rest => exact isCased_toLower c

/-- A letter of ASCII has its small form whatever stands around it, and the neighbours of a
sigma count by whether they have a case at all. -/
theorem lowerChar_map_toLower (before : List Char) (c : Char) (after : List Char) :
    lowerChar (before.map Char.toLower) c.toLower (after.map Char.toLower) =
      lowerChar before c after := by
  rcases Nat.lt_or_ge c.toNat 0x80 with hlt | hge
  · rw [lowerChar, if_pos (toNat_toLower_lt hlt), toLower_toLower, lowerChar, if_pos hlt]
  · rw [toLower_eq_self hge]
    unfold lowerChar
    rw [meetsCased_map_toLower, meetsCased_map_toLower]

theorem lowerAfter_map_toLower (before text : List Char) :
    lowerAfter (before.map Char.toLower) (text.map Char.toLower) = lowerAfter before text := by
  induction text generalizing before with
  | nil => rfl
  | cons c rest ih =>
      rw [List.map_cons, lowerAfter, lowerAfter, lowerChar_map_toLower, ← ih (c :: before)]
      rfl

theorem lower_map_toLower (text : List Char) : lower (text.map Char.toLower) = lower text :=
  lowerAfter_map_toLower [] text

/-! ## Trimming and cutting -/

theorem trim_map_toLower (text : List Char) :
    trim (text.map Char.toLower) = (trim text).map Char.toLower := by
  unfold trim trimEnd trimStart
  rw [List.dropWhile_map, isBlank_comp_toLower, ← List.map_reverse, List.dropWhile_map,
    isBlank_comp_toLower, List.map_reverse]

theorem cutAt_map_toLower {mark : Char} (hmark : mark.isAlpha = false) (text : List Char) :
    cutAt mark (text.map Char.toLower) =
      ((cutAt mark text).1.map Char.toLower, (cutAt mark text).2.map (·.map Char.toLower)) := by
  induction text with
  | nil => rfl
  | cons c rest ih =>
      rw [List.map_cons, cutAt, cutAt, ih]
      simp only [toLower_eq_iff hmark]
      by_cases hc : c = mark
      · rw [if_pos hc, if_pos hc]
        rfl
      · rw [if_neg hc, if_neg hc]
        rfl

theorem head?_map_toLower_eq_some_iff {mark : Char} (hmark : mark.isAlpha = false)
    {text : List Char} : (text.map Char.toLower).head? = some mark ↔ text.head? = some mark := by
  rw [List.head?_map]
  cases text.head? with
  | none => simp
  | some c => simp [toLower_eq_iff hmark]

theorem getLast?_map_toLower_eq_some_iff {mark : Char} (hmark : mark.isAlpha = false)
    {text : List Char} :
    (text.map Char.toLower).getLast? = some mark ↔ text.getLast? = some mark := by
  rw [List.getLast?_map]
  cases text.getLast? with
  | none => simp
  | some c => simp [toLower_eq_iff hmark]

/-! ## Strings -/

/-- A string with all its ASCII letters small. -/
def caseless (text : String) : String :=
  String.ofList (text.toList.map Char.toLower)

@[simp] theorem toList_caseless (text : String) :
    (caseless text).toList = text.toList.map Char.toLower :=
  String.toList_ofList

theorem folded_caseless (text : String) : folded (caseless text) = folded text := by
  rw [folded, toList_caseless, fold_map_toLower]
  rfl

/-- A string that differs from another in the case of some ASCII letters, if at all. -/
def Recased (text other : String) : Prop :=
  List.Forall₂ (fun c d => d = c ∨ d = c.toLower ∨ d = c.toUpper) text.toList other.toList

instance (text other : String) : Decidable (Recased text other) :=
  inferInstanceAs (Decidable (List.Forall₂ _ _ _))

/-- The two forms of a letter have one small form. -/
theorem toLower_toUpper (c : Char) : c.toUpper.toLower = c.toLower := by
  have hascii : ∀ code < 0x80, (Char.ofNat code).toUpper.toLower = (Char.ofNat code).toLower := by
    decide
  rcases Nat.lt_or_ge c.toNat 0x80 with hlt | hge
  · exact of_ascii c hlt hascii
  · rw [toUpper_eq_self hge]

theorem Recased.caseless_eq {text other : String} (hother : Recased text other) :
    caseless other = caseless text := by
  have hletters : other.toList.map Char.toLower = text.toList.map Char.toLower := by
    unfold Recased at hother
    generalize text.toList = letters, other.toList = recased at hother
    induction hother with
    | nil => rfl
    | @cons c d rest others hd _ ih =>
        have hsame : d.toLower = c.toLower := by
          rcases hd with rfl | rfl | rfl
          · rfl
          · exact toLower_toLower c
          · exact toLower_toUpper c
        rw [List.map_cons, List.map_cons, hsame, ih]
  rw [caseless, caseless, hletters]

end TaskQuery.Text
