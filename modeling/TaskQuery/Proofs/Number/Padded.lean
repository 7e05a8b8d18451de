import Mathlib.Algebra.Group.Nat.Defs
import Mathlib.Data.List.TakeWhile
import TaskQuery.Calendar.DateTime

/-!
# Reading numbers of a fixed width

Days and times are written with numbers of a fixed width, zeros in front.  A number that
fits into its width is read back by `Number.takeNumber?`, whatever follows it
(`takeNumber?_paddedNumber_append`); that it fits is the only condition.
-/

namespace TaskQuery.Number

/-! ## Digits -/

theorem isDigit_eq_true_iff {c : Char} : isDigit c = true ↔ 0x30 ≤ c.toNat ∧ c.toNat ≤ 0x39 := by
  simp only [isDigit, Bool.and_eq_true, decide_eq_true_eq]
  exact Iff.rfl

theorem isDigit_of_mem_toDigits {n : ℕ} {c : Char} (hc : c ∈ Nat.toDigits 10 n) :
    isDigit c = true :=
  isDigit_eq_true_iff.mpr
    (Char.isDigit_iff_toNat.mp (Nat.isDigit_of_mem_toDigits (by omega) (by omega) hc))

theorem digitsValue_eq_ofDigitChars (digits : List Char) :
    digitsValue digits = Nat.ofDigitChars 10 digits 0 :=
  Nat.ofDigitChars_eq_foldl.symm

/-! ## Zeros in front -/

theorem isDigit_of_mem_paddedNumber {width n : ℕ} {c : Char} (hc : c ∈ paddedNumber width n) :
    isDigit c = true := by
  rcases List.mem_append.mp hc with hzero | hdigit
  · rw [List.eq_of_mem_replicate hzero]
    rfl
  · exact isDigit_of_mem_toDigits hdigit

theorem digitsValue_paddedNumber (width n : ℕ) : digitsValue (paddedNumber width n) = n := by
  rw [digitsValue_eq_ofDigitChars]
  dsimp only [paddedNumber]
  rw [Nat.ofDigitChars_append, Nat.ofDigitChars_replicate_zero, Nat.mul_zero,
    Nat.ofDigitChars_ten_toDigits]

theorem length_paddedNumber {width n : ℕ} (hwidth : 0 < width) (hfits : n < 10 ^ width) :
    (paddedNumber width n).length = width := by
  have hlength := (Nat.length_toDigits_le_iff (by omega) hwidth).mpr hfits
  dsimp only [paddedNumber]
  rw [List.length_append, List.length_replicate]
  omega

/-! ## Reading back -/

theorem takeNumber?_paddedNumber_append {width n : ℕ} (hwidth : 0 < width)
    (hfits : n < 10 ^ width) (rest : List Char) :
    takeNumber? width (paddedNumber width n ++ rest) = some (n, rest) := by
  have hlength := length_paddedNumber hwidth hfits
  have htake : (paddedNumber width n ++ rest).take width = paddedNumber width n :=
    List.take_left' hlength
  have hdigits : (paddedNumber width n).takeWhile isDigit = paddedNumber width n :=
    List.takeWhile_eq_self_iff.mpr fun c hc => isDigit_of_mem_paddedNumber hc
  dsimp only [takeNumber?, takeDigits?]
  rw [htake, hdigits, if_neg (by omega), digitsValue_paddedNumber, List.drop_left' rfl]

/-- A run of digits ends where no digit follows. -/
theorem cutDigits_append {digits rest : List Char} (hdigits : ∀ c ∈ digits, isDigit c = true)
    (hrest : ∀ next ∈ rest.head?, isDigit next = false) :
    cutDigits (digits ++ rest) = (digits, rest) := by
  unfold cutDigits
  rw [List.takeWhile_append_of_pos hdigits, List.dropWhile_append_of_pos hdigits]
  cases rest with
  | nil => simp
  | cons next tail =>
      have hnext : isDigit next = false := hrest next rfl
      simp [hnext]

theorem cutDigits_paddedNumber_append {width n : ℕ} {rest : List Char}
    (hrest : ∀ next ∈ rest.head?, isDigit next = false) :
    cutDigits (paddedNumber width n ++ rest) = (paddedNumber width n, rest) :=
  cutDigits_append (fun _ hc => isDigit_of_mem_paddedNumber hc) hrest

/-- A padded number is not empty and starts with a digit. -/
theorem exists_paddedNumber_eq_cons (width n : ℕ) :
    ∃ c digits, paddedNumber width n = c :: digits ∧ isDigit c = true := by
  have hne : paddedNumber width n ≠ [] := by
    intro hnil
    exact Nat.toDigits_ne_nil (List.append_eq_nil_iff.mp hnil).2
  obtain ⟨c, digits, hcons⟩ := List.exists_cons_of_ne_nil hne
  have hmem : c ∈ paddedNumber width n := by
    rw [hcons]
    exact List.mem_cons_self ..
  exact ⟨c, digits, hcons, isDigit_of_mem_paddedNumber hmem⟩

end TaskQuery.Number
