import Mathlib.Tactic.IntervalCases
import TaskQuery.Calendar.Date
import TaskQuery.Proofs.Calendar.DayNumber
import TaskQuery.Proofs.Number.Padded
import TaskQuery.Proofs.Text.Recased

/-!
# Reading a written day

A day is written `YYYY-MM-DD`, and a filter value may write it in several other ways.  This
file shows that the written form is among them, for every day of the years 1 to 9999: it is
read as the day itself, also behind the case folding that a filter value goes through
(`Date.ofDayText?_isoChars`, `Date.fold_isoChars`).

Year, month and day are read by separate rules.  The year is any four digits, so its lemma
is about digits; the months and days of a month are few, and theirs are finite checks.
-/

namespace TaskQuery

open Number Text

/-! ## Digits -/

theorem decimalDigit?_of_isDigit {c : Char} (hc : isDigit c = true) :
    decimalDigit? c = some (c.toNat - '0'.toNat) := by
  obtain ⟨hlower, hupper⟩ := isDigit_eq_true_iff.mp hc
  have hascii : c.toNat < 0x80 := by omega
  have hrange : '0' ≤ c ∧ c ≤ '9' := by
    unfold isDigit at hc
    simpa using hc
  unfold decimalDigit? asciiDigit?
  rw [if_pos hascii, if_pos hrange]

theorem toLower_of_isDigit {c : Char} (hc : isDigit c = true) : c.toLower = c := by
  have hascii : ∀ code < 0x80, isDigit (Char.ofNat code) = true →
      (Char.ofNat code).toLower = Char.ofNat code := by
    decide
  have hupper := (isDigit_eq_true_iff.mp hc).2
  exact of_ascii (motive := fun c => isDigit c = true → c.toLower = c) c (by omega) hascii hc

/-! ## The parts of a day -/

/-- The year of a written day is read from its four digits. -/
theorem exists_fourDigits?_eq {year : ℕ} (hyear : year ≤ 9999) :
    ∃ a b c d, paddedNumber 4 year = [a, b, c, d] ∧ fourDigits? a b c d = some year := by
  have hlength : (paddedNumber 4 year).length = 4 :=
    length_paddedNumber (by omega) (by omega)
  have hdigit : ∀ c ∈ paddedNumber 4 year, isDigit c = true :=
    fun c hc => isDigit_of_mem_paddedNumber hc
  have hvalue := digitsValue_paddedNumber 4 year
  generalize paddedNumber 4 year = digits at hlength hdigit hvalue
  obtain ⟨a, b, c, d, rfl⟩ : ∃ a b c d, digits = [a, b, c, d] := by
    rcases digits with _ | ⟨a, _ | ⟨b, _ | ⟨c, _ | ⟨d, _ | ⟨e, rest⟩⟩⟩⟩⟩
    · simp at hlength
    · simp at hlength
    · simp at hlength
    · simp at hlength
    · exact ⟨a, b, c, d, rfl⟩
    · simp at hlength
  simp only [List.forall_mem_cons] at hdigit
  obtain ⟨ha, hb, hc, hd, -⟩ := hdigit
  refine ⟨a, b, c, d, rfl, ?_⟩
  unfold fourDigits?
  rw [decimalDigit?_of_isDigit ha, decimalDigit?_of_isDigit hb, decimalDigit?_of_isDigit hc,
    decimalDigit?_of_isDigit hd]
  simp only [digitsValue, List.foldl_cons, List.foldl_nil] at hvalue
  simp only [Option.bind_eq_bind, Option.bind_some, Option.pure_def, Option.some.injEq]
  omega

theorem takeMonth?_paddedNumber_append {month : ℕ} (hfirst : 1 ≤ month) (hlast : month ≤ 12)
    (rest : List Char) :
    takeMonth? (paddedNumber 2 month ++ '-' :: rest) = some (month, rest) := by
  interval_cases month <;> rfl

theorem monthDay?_paddedNumber {day : ℕ} (hfirst : 1 ≤ day) (hlast : day ≤ 31) :
    monthDay? (paddedNumber 2 day) = some day := by
  have hdays : ∀ day ≤ 31, 1 ≤ day → monthDay? (paddedNumber 2 day) = some day := by
    decide
  exact hdays day hlast hfirst

namespace Date

/-! ## The whole day -/

/-- A written day is read as the day that was written. -/
theorem ofDayText?_isoChars (date : Date) : ofDayText? date.isoChars = some date := by
  obtain ⟨year, month, day, hvalid⟩ := date
  obtain ⟨⟨-, hyear⟩, ⟨hmonth, hlastMonth⟩, hday, hlastDay⟩ := id hvalid
  obtain ⟨a, b, c, d, hdigits, hread⟩ := exists_fourDigits?_eq hyear
  have hlong := daysInMonth_le year month
  have htext : isoChars ⟨year, month, day, hvalid⟩ =
      a :: b :: c :: d :: '-' :: (paddedNumber 2 month ++ '-' :: paddedNumber 2 day) := by
    simp [isoChars, hdigits]
  rw [htext, ofDayText?, hread, Option.bind_eq_bind, Option.bind_some,
    takeMonth?_paddedNumber_append hmonth hlastMonth, Option.bind_eq_bind, Option.bind_some]
  dsimp only
  rw [monthDay?_paddedNumber hday (by omega), Option.bind_some]
  exact of?_eq_some hvalid

theorem length_isoChars (date : Date) : date.isoChars.length = 10 := by
  obtain ⟨year, month, day, hvalid⟩ := date
  obtain ⟨⟨-, hyear⟩, ⟨-, hmonth⟩, -, hday⟩ := id hvalid
  have hlong := daysInMonth_le year month
  simp only [isoChars, List.length_append, List.length_cons]
  rw [length_paddedNumber (by omega) (by omega), length_paddedNumber (by omega) (by omega),
    length_paddedNumber (by omega) (by omega)]

/-- A written day consists of digits and hyphens. -/
theorem isDigit_or_eq_hyphen_of_mem_isoChars {date : Date} {c : Char} (hc : c ∈ date.isoChars) :
    isDigit c = true ∨ c = '-' := by
  have hnumber : ∀ {width n : ℕ} {c : Char}, c ∈ paddedNumber width n →
      isDigit c = true ∨ c = '-' := fun hc => Or.inl (isDigit_of_mem_paddedNumber hc)
  unfold isoChars at hc
  rcases List.mem_append.mp hc with hc | hc
  · rcases List.mem_append.mp hc with hc | hc
    · exact hnumber hc
    · exact (List.mem_cons.mp hc).elim Or.inr hnumber
  · exact (List.mem_cons.mp hc).elim Or.inr hnumber

/-- There are no letters in a written day whose case could be folded. -/
theorem fold_isoChars (date : Date) : fold date.isoChars = date.isoChars := by
  have hfold : ∀ c ∈ date.isoChars, foldChar c = [c] := by
    intro c hc
    rcases isDigit_or_eq_hyphen_of_mem_isoChars hc with hdigit | rfl
    · have hupper := (isDigit_eq_true_iff.mp hdigit).2
      unfold foldChar
      rw [if_pos (by omega), toLower_of_isDigit hdigit]
    · rfl
  calc fold date.isoChars
      = date.isoChars.flatMap fun c => [c] := List.flatMap_congr hfold
    _ = date.isoChars := List.flatMap_singleton' _

end Date

end TaskQuery
