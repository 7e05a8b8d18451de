import Mathlib.Tactic.ByContra
import Mathlib.Tactic.SplitIfs
import TaskQuery.Text.Case

/-!
# Words of ASCII letters under a change of case

A change of case moves letters of every script, and some letters become several.
The words that a search text is looked through for (keywords and field names) are
nevertheless recognised exactly up to ASCII case, because no letter beyond ASCII
becomes letters of these words alone.  For one table of case changes and one stock
of letters this is a finite check on the table, `CaseTable.Avoids`; everything else
follows from it for all texts.
-/

namespace TaskQuery.Text

/-! ## ASCII letters -/

/-- A property of the characters of ASCII is a finite check on their codes. -/
@[elab_as_elim]
theorem of_ascii {motive : Char → Prop} (c : Char) (hc : c.toNat < 0x80)
    (hascii : ∀ code < 0x80, motive (Char.ofNat code)) : motive c := by
  rw [← Char.ofNat_toNat c]
  exact hascii c.toNat hc

theorem toUpper_eq_self {c : Char} (hc : 0x80 ≤ c.toNat) : c.toUpper = c := by
  have hnot : ¬ ('a'.val ≤ c.val ∧ c.val ≤ 'z'.val) := by
    rintro ⟨-, hle⟩
    have : c.toNat ≤ 'z'.toNat := UInt32.le_iff_toNat_le.mp hle
    have : 'z'.toNat = 0x7A := rfl
    omega
  exact dif_neg hnot

theorem toLower_eq_self {c : Char} (hc : 0x80 ≤ c.toNat) : c.toLower = c := by
  have hnot : ¬ ('A'.val ≤ c.val ∧ c.val ≤ 'Z'.val) := by
    rintro ⟨-, hle⟩
    have : c.toNat ≤ 'Z'.toNat := UInt32.le_iff_toNat_le.mp hle
    have : 'Z'.toNat = 0x5A := rfl
    omega
  exact dif_neg hnot

/-- A character is its own capital form or the small form of it. -/
theorem eq_toUpper_or_eq_toLower (c : Char) : c = c.toUpper ∨ c = c.toUpper.toLower := by
  have hascii : ∀ code < 0x80, Char.ofNat code = (Char.ofNat code).toUpper ∨
      Char.ofNat code = (Char.ofNat code).toUpper.toLower := by
    decide
  rcases Nat.lt_or_ge c.toNat 0x80 with hlt | hge
  · exact of_ascii c hlt hascii
  · exact Or.inl (toUpper_eq_self hge).symm

theorem upperChar_of_ascii {c : Char} (hc : c.toNat < 0x80) : upperChar c = [c.toUpper] :=
  if_pos hc

theorem upper_of_ascii {text : List Char} (hascii : ∀ c ∈ text, c.toNat < 0x80) :
    upper text = text.map Char.toUpper := by
  induction text with
  | nil => rfl
  | cons c rest ih =>
      have hrest : upper rest = rest.map Char.toUpper :=
        ih fun x hx => hascii x (List.mem_cons_of_mem c hx)
      have hc : upperChar c = [c.toUpper] := upperChar_of_ascii (hascii c (List.mem_cons_self ..))
      rw [upper, List.flatMap_cons, hc, ← upper, hrest]
      rfl

/-! ## Tables that keep away from a stock of letters -/

/-- No run of a table reaches one of the letters, and no expansion consists of such
letters alone. -/
def CaseTable.Avoids (table : CaseTable) (letters : List Char) : Prop :=
  (∀ run ∈ table.runs, ∀ code ∈ letters.map Char.toNat,
      (code : Int) < run.first + run.shift ∨ run.last + run.shift < code) ∧
    ∀ entry ∈ table.expansions, ∃ code ∈ entry.2, Char.ofNat code ∉ letters

instance (table : CaseTable) (letters : List Char) : Decidable (table.Avoids letters) :=
  inferInstanceAs (Decidable (_ ∧ _))

theorem toNat_ofNat_eq_or_zero (code : Nat) :
    (Char.ofNat code).toNat = code ∨ (Char.ofNat code).toNat = 0 := by
  by_cases hvalid : code.isValidChar
  · have hchar : Char.ofNat code = Char.ofNatAux code hvalid := dif_pos hvalid
    rw [hchar]
    exact Or.inl rfl
  · have hchar : Char.ofNat code = Char.ofNat 0 := dif_neg hvalid
    rw [hchar]
    exact Or.inr rfl

/-- A letter that a run moves does not become one of the letters it avoids. -/
theorem CaseTable.Avoids.ofNat_notMem {table : CaseTable} {letters : List Char}
    (havoids : table.Avoids letters) (hletters : ∀ letter ∈ letters, 0 < letter.toNat)
    {run : CaseRun} (hrun : run ∈ table.runs) {code : Nat} (hcode : run.contains code = true) :
    Char.ofNat ((code : Int) + run.shift).toNat ∉ letters := by
  intro hmem
  have hpositive := hletters _ hmem
  have hbetween : run.first ≤ code ∧ code ≤ run.last := by
    simp only [CaseRun.contains, Bool.and_eq_true, decide_eq_true_eq] at hcode
    exact hcode.1
  have haway := havoids.1 run hrun _ (List.mem_map_of_mem hmem)
  rcases toNat_ofNat_eq_or_zero ((code : Int) + run.shift).toNat with hsame | hzero
  · rw [hsame] at haway hpositive
    omega
  · omega

/-- Beyond ASCII, what a character becomes is never made of the avoided letters
alone. -/
theorem CaseTable.Avoids.exists_mem_apply {table : CaseTable} {letters : List Char}
    (havoids : table.Avoids letters)
    (hletters : ∀ letter ∈ letters, 0 < letter.toNat ∧ letter.toNat < 0x80)
    {c : Char} (hc : 0x80 ≤ c.toNat) : ∃ x ∈ table.apply c, x ∉ letters := by
  unfold CaseTable.apply
  split
  · rename_i codes hlookup
    obtain ⟨before, after, hentries, -⟩ := List.lookup_eq_some_iff.mp hlookup
    have hentry : (c.toNat, codes) ∈ table.expansions := by
      rw [hentries]
      exact List.mem_append_right _ (List.mem_cons_self ..)
    obtain ⟨code, hcode, hnot⟩ := havoids.2 _ hentry
    exact ⟨Char.ofNat code, List.mem_map_of_mem hcode, hnot⟩
  · split
    · rename_i run hfind
      have hcontains : run.contains c.toNat = true :=
        List.find?_some (p := fun candidate : CaseRun => candidate.contains c.toNat) hfind
      refine ⟨_, List.mem_singleton_self _, ?_⟩
      exact havoids.ofNat_notMem (fun letter hletter => (hletters letter hletter).1)
        (List.mem_of_find?_eq_some hfind) hcontains
    · refine ⟨c, List.mem_singleton_self c, fun hmem => ?_⟩
      have := (hletters c hmem).2
      omega

/-! ## Changes of case that keep away from a word -/

/-- If a change of case takes ASCII letters one by one and makes more than avoided letters of
every character beyond ASCII, a word of such letters comes from its ASCII spellings only. -/
theorem change_eq_iff {letters word : List Char} {change : List Char → List Char}
    {letter : Char → Char}
    (hletters : ∀ letter ∈ letters, 0 < letter.toNat ∧ letter.toNat < 0x80)
    (hword : ∀ c ∈ word, c ∈ letters)
    (hchange : ∀ {text}, (∀ c ∈ text, c.toNat < 0x80) → change text = text.map letter)
    (hbeyond : ∀ {text c}, c ∈ text → 0x80 ≤ c.toNat → ∃ x ∈ change text, x ∉ letters)
    (hself : ∀ {c}, 0x80 ≤ c.toNat → letter c = c) (text : List Char) :
    change text = word ↔ text.map letter = word := by
  constructor
  · intro heq
    have hascii : ∀ c ∈ text, c.toNat < 0x80 := by
      intro c hc
      by_contra hlarge
      obtain ⟨x, hx, hnot⟩ := hbeyond hc (Nat.le_of_not_lt hlarge)
      rw [heq] at hx
      exact hnot (hword x hx)
    rw [← heq, hchange hascii]
  · intro heq
    have hascii : ∀ c ∈ text, c.toNat < 0x80 := by
      intro c hc
      by_contra hlarge
      have hmem : letter c ∈ word := heq ▸ List.mem_map_of_mem hc
      rw [hself (Nat.le_of_not_lt hlarge)] at hmem
      exact hlarge (hletters c (hword c hmem)).2
    rw [hchange hascii, heq]

/-! ## Capital letters -/

/-- A word of letters that the table of capitals avoids is the capital form of its
ASCII spellings only. -/
theorem upper_eq_iff {letters word : List Char} (havoids : upperTable.Avoids letters)
    (hletters : ∀ letter ∈ letters, 0 < letter.toNat ∧ letter.toNat < 0x80)
    (hword : ∀ c ∈ word, c ∈ letters) (text : List Char) :
    upper text = word ↔ text.map Char.toUpper = word := by
  refine change_eq_iff hletters hword upper_of_ascii ?_ toUpper_eq_self text
  intro text c hc hlarge
  obtain ⟨x, hx, hnot⟩ := havoids.exists_mem_apply hletters hlarge
  have hupper : x ∈ upperChar c := by
    rw [upperChar, if_neg (Nat.not_lt.mpr hlarge)]
    exact hx
  exact ⟨x, List.mem_flatMap.mpr ⟨c, hc, hupper⟩, hnot⟩

/-! ## Small letters -/

/-- In ASCII the neighbours of a character do not matter for its small form. -/
theorem lowerAfter_of_ascii {text : List Char} (hascii : ∀ c ∈ text, c.toNat < 0x80)
    (before : List Char) : lowerAfter before text = text.map Char.toLower := by
  induction text generalizing before with
  | nil => rfl
  | cons c rest ih =>
      obtain ⟨hc, hrest⟩ := List.forall_mem_cons.mp hascii
      have hlower : lowerChar before c rest = [c.toLower] := if_pos hc
      rw [lowerAfter, hlower, ih hrest]
      rfl

/-- Each character of a text has its small form somewhere in that of the text. -/
theorem exists_lowerChar_subset {text : List Char} {c : Char} (hc : c ∈ text)
    (before : List Char) :
    ∃ front back, ∀ x ∈ lowerChar front c back, x ∈ lowerAfter before text := by
  induction text generalizing before with
  | nil => exact absurd hc List.not_mem_nil
  | cons first rest ih =>
      rcases List.mem_cons.mp hc with rfl | hrest
      · exact ⟨before, rest, fun x hx => List.mem_append_left _ hx⟩
      · obtain ⟨front, back, hsubset⟩ := ih hrest (first :: before)
        exact ⟨front, back, fun x hx => List.mem_append_right _ (hsubset x hx)⟩

/-- A word of letters that the table of small letters avoids is the small form of its ASCII
spellings only. -/
theorem lower_eq_iff {letters word : List Char} (havoids : lowerTable.Avoids letters)
    (hletters : ∀ letter ∈ letters, 0 < letter.toNat ∧ letter.toNat < 0x80)
    (hword : ∀ c ∈ word, c ∈ letters) (text : List Char) :
    lower text = word ↔ text.map Char.toLower = word := by
  refine change_eq_iff hletters hword (fun hascii => lowerAfter_of_ascii hascii []) ?_
    toLower_eq_self text
  intro text c hc hlarge
  obtain ⟨front, back, hsubset⟩ := exists_lowerChar_subset hc []
  -- the two small forms of a sigma are no ASCII letters, and all others are in the table
  obtain ⟨x, hx, hnot⟩ : ∃ x ∈ lowerChar front c back, x ∉ letters := by
    have hfinal : 'ς' ∉ letters := fun hmem => absurd (hletters _ hmem).2 (by decide)
    have hinner : 'σ' ∉ letters := fun hmem => absurd (hletters _ hmem).2 (by decide)
    unfold lowerChar
    rw [if_neg (Nat.not_lt.mpr hlarge)]
    split_ifs
    · exact ⟨'ς', List.mem_singleton_self _, hfinal⟩
    · exact ⟨'σ', List.mem_singleton_self _, hinner⟩
    · exact havoids.exists_mem_apply hletters hlarge
  exact ⟨x, hsubset x hx, hnot⟩

end TaskQuery.Text
