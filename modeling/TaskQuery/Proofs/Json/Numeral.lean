import TaskQuery.Json.Document
import TaskQuery.Json.Reader
import TaskQuery.Proofs.Number.Padded
import TaskQuery.Proofs.Number.Shortest

/-!
# Numbers read back

A number is written in one of several layouts, and where it ends is only seen by what
follows.  This file shows that the reader takes exactly the number off the front, in every
layout and in front of whatever cannot continue a number (`EndsNumber`): a whole number that
is not long (`readPlain_printInt`) and every floating-point number, those that are no numbers
and the infinities included (`readPlain_printFloat`).

The layouts of a decimal come down to two, with a point (`readNumber_point`) and with an
exponent (`readNumber_exponent`).  What is read is not always the decimal that was written,
since a whole number gets a zero after its point; it has the same value, which is enough for
the number to come back.
-/

namespace TaskQuery

namespace Number

/-! ## Rows of digits -/

theorem digitsValue_toDigits (n : ℕ) : digitsValue (Nat.toDigits 10 n) = n := by
  rw [digitsValue_eq_ofDigitChars, Nat.ofDigitChars_ten_toDigits]

theorem digitsValue_zeros_append (count : ℕ) (digits : List Char) :
    digitsValue (List.replicate count '0' ++ digits) = digitsValue digits := by
  rw [digitsValue_eq_ofDigitChars, digitsValue_eq_ofDigitChars, Nat.ofDigitChars_append,
    Nat.ofDigitChars_replicate_zero, Nat.mul_zero]

theorem digitsValue_append_zeros (digits : List Char) (count : ℕ) :
    digitsValue (digits ++ List.replicate count '0') = digitsValue digits * 10 ^ count := by
  rw [digitsValue_eq_ofDigitChars, digitsValue_eq_ofDigitChars, Nat.ofDigitChars_append,
    Nat.ofDigitChars_replicate_zero, Nat.mul_comm]

theorem isDigit_of_mem_zeros {count : ℕ} {c : Char} (hc : c ∈ List.replicate count '0') :
    isDigit c = true := by
  rw [List.eq_of_mem_replicate hc]
  rfl

/-- A number that is not zero does not start with a zero. -/
theorem head?_toDigits_ne_zero {n : ℕ} (hn : 0 < n) : (Nat.toDigits 10 n).head? ≠ some '0' := by
  induction n using Nat.strong_induction_on with
  | _ n ih =>
      rw [Nat.toDigits_eq_if (by omega)]
      split_ifs with hsmall
      · simp only [List.head?_cons, ne_eq, Option.some.injEq, Nat.digitChar_eq_zero]
        omega
      · rw [List.head?_append_of_ne_nil _ Nat.toDigits_ne_nil]
        exact ih (n / 10) (by omega) (by omega)

/-- The digits of an exponent are its number in two places. -/
theorem exponentDigits_eq_paddedNumber (n : ℕ) : exponentDigits n = paddedNumber 2 n := by
  have hlength : (Nat.toDigits 10 n).length ≤ 1 ↔ n < 10 :=
    Nat.length_toDigits_le_iff (by omega) (by omega)
  unfold exponentDigits paddedNumber
  dsimp only
  split_ifs with hsmall
  · rw [Nat.toDigits_of_lt_base hsmall]
    rfl
  · have hnone : 2 - (Nat.toDigits 10 n).length = 0 := by omega
    rw [hnone, List.replicate_zero, List.nil_append]

end Number

namespace Json

open Number

/-! ## The parts of a number -/

/-- Whether a number ends in front of a text: what follows cannot be a part of it. -/
def EndsNumber (rest : List Char) : Prop :=
  ∀ next ∈ rest.head?, isDigit next = false ∧ next ≠ '.' ∧ next ≠ 'e' ∧ next ≠ 'E'

theorem endsNumber_nil : EndsNumber [] := by
  rintro next ⟨⟩

theorem endsNumber_comma (rest : List Char) : EndsNumber (',' :: rest) := by
  rintro next ⟨⟩
  decide

theorem endsNumber_newLine (depth : ℕ) (rest : List Char) :
    EndsNumber (newLine depth ++ rest) := by
  rintro next ⟨⟩
  decide

theorem cutFraction_append {digits rest : List Char} (hne : digits ≠ [])
    (hdigits : ∀ c ∈ digits, isDigit c = true)
    (hrest : ∀ next ∈ rest.head?, isDigit next = false) :
    cutFraction ('.' :: (digits ++ rest)) = (some digits, rest) := by
  obtain ⟨c, more, rfl⟩ := List.exists_cons_of_ne_nil hne
  simp only [cutFraction, cutDigits_append hdigits hrest]

theorem cutFraction_of_ne {rest : List Char} (hrest : ∀ next ∈ rest.head?, next ≠ '.') :
    cutFraction rest = (none, rest) := by
  cases rest with
  | nil => rfl
  | cons next tail =>
      have hnext : next ≠ '.' := hrest next rfl
      simp [cutFraction, hnext]

theorem cutExponent_of_ne {rest : List Char}
    (hrest : ∀ next ∈ rest.head?, next ≠ 'e' ∧ next ≠ 'E') : cutExponent rest = (none, rest) := by
  cases rest with
  | nil => rfl
  | cons next tail =>
      obtain ⟨hlower, hupper⟩ := hrest next rfl
      simp [cutExponent, hlower, hupper]

/-- An exponent as it is written: a letter, a sign and digits. -/
def exponentText (power : ℤ) : List Char :=
  'e' :: (if power < 0 then '-' else '+') :: exponentDigits power.natAbs

theorem cutExponent_append (power : ℤ) {rest : List Char}
    (hrest : ∀ next ∈ rest.head?, isDigit next = false) :
    cutExponent (exponentText power ++ rest) = (some power, rest) := by
  have hdigits : cutDigits (exponentDigits power.natAbs ++ rest) =
      (paddedNumber 2 power.natAbs, rest) := by
    rw [exponentDigits_eq_paddedNumber, cutDigits_paddedNumber_append hrest]
  obtain ⟨c, more, hcons, -⟩ := exists_paddedNumber_eq_cons 2 power.natAbs
  have hvalue : digitsValue (c :: more) = power.natAbs := by
    rw [← hcons, digitsValue_paddedNumber]
  unfold exponentText
  split_ifs with hnegative
  · simp only [List.cons_append, cutExponent, cutSign, hdigits, hcons, hvalue, true_or, if_true]
    rw [← Int.eq_neg_natAbs_of_nonpos hnegative.le]
  · simp only [List.cons_append, cutExponent, cutSign, hdigits, hcons, hvalue, true_or, if_true,
      Bool.false_eq_true, if_false]
    rw [Int.natAbs_of_nonneg (by omega)]

/-! ## Whole numbers and decimals -/

section Number

variable {whole fraction rest : List Char}

/-- A row of digits that may stand before the point: none but zero itself starts with a
zero. -/
structure Leads (whole : List Char) : Prop where
  ne_nil : whole ≠ []
  isDigit : ∀ c ∈ whole, isDigit c = true
  no_zero : whole.head? = some '0' → whole.length = 1

/-- The reader cuts off the digits in front and goes on with what follows them. -/
theorem readNumber_leads (hwhole : Leads whole)
    (hrest : ∀ next ∈ rest.head?, isDigit next = false) (negative : Bool)
    {fraction : Option (List Char)} {power : Option ℤ} {middle after : List Char}
    (hfraction : cutFraction rest = (fraction, middle))
    (hpower : cutExponent middle = (power, after)) :
    readNumber negative (whole ++ rest) =
      if fraction.isNone && power.isNone then
        if mostDigits < whole.length then .error (.tooManyDigits whole.length)
        else .ok (.int (if negative then -digitsValue whole else digitsValue whole), after)
      else .ok (.float (Binary64.ofDecimal negative (digitsValue (whole ++ fraction.getD []))
        (power.getD 0 - (fraction.getD []).length)), after) := by
  have hstart : (whole.isEmpty || (whole.head? == some '0' && whole.length != 1)) = false := by
    rw [List.isEmpty_eq_false_iff.mpr hwhole.ne_nil, Bool.false_or]
    by_cases hzero : whole.head? = some '0'
    · simp [hwhole.no_zero hzero]
    · simp [hzero]
  unfold readNumber
  rw [cutDigits_append hwhole.isDigit hrest]
  simp only [hstart, hfraction, hpower, Bool.false_eq_true, if_false]

theorem EndsNumber.not_digit (hends : EndsNumber rest) :
    ∀ next ∈ rest.head?, isDigit next = false :=
  fun next hnext => (hends next hnext).1

theorem EndsNumber.cutFraction_eq (hends : EndsNumber rest) : cutFraction rest = (none, rest) :=
  cutFraction_of_ne fun next hnext => (hends next hnext).2.1

theorem EndsNumber.cutExponent_eq (hends : EndsNumber rest) : cutExponent rest = (none, rest) :=
  cutExponent_of_ne fun next hnext => (hends next hnext).2.2

/-- A number without point and exponent is whole. -/
theorem readNumber_whole (hwhole : Leads whole) (hshort : whole.length ≤ mostDigits)
    (hends : EndsNumber rest) (negative : Bool) :
    readNumber negative (whole ++ rest) =
      .ok (.int (if negative then -digitsValue whole else digitsValue whole), rest) := by
  rw [readNumber_leads hwhole hends.not_digit negative hends.cutFraction_eq hends.cutExponent_eq]
  exact if_neg (Nat.not_lt.mpr hshort)

theorem readNumber_point (hwhole : Leads whole) (hne : fraction ≠ [])
    (hfraction : ∀ c ∈ fraction, isDigit c = true) (hends : EndsNumber rest) (negative : Bool) :
    readNumber negative (whole ++ '.' :: (fraction ++ rest)) =
      .ok (.float (Binary64.ofDecimal negative (digitsValue (whole ++ fraction))
        (-fraction.length)), rest) := by
  have hpoint : ∀ next ∈ ('.' :: (fraction ++ rest)).head?, isDigit next = false := by
    rintro next ⟨⟩
    rfl
  rw [readNumber_leads hwhole hpoint negative
    (cutFraction_append hne hfraction hends.not_digit) hends.cutExponent_eq]
  simp

theorem leads_zero : Leads ['0'] := by
  refine ⟨List.cons_ne_nil _ _, fun c hc => ?_, fun _ => rfl⟩
  rw [List.mem_singleton.mp hc]
  rfl

theorem readNumber_zero (hends : EndsNumber rest) (negative : Bool) :
    readNumber negative ('0' :: '.' :: '0' :: rest) =
      .ok (.float (.signedZero negative), rest) :=
  readNumber_point leads_zero (List.cons_ne_nil _ _) leads_zero.isDigit hends negative

theorem readNumber_exponent (hwhole : Leads whole) (hends : EndsNumber rest) (negative : Bool)
    (power : ℤ) :
    readNumber negative (whole ++ (exponentText power ++ rest)) =
      .ok (.float (Binary64.ofDecimal negative (digitsValue whole) power), rest) := by
  have hletter : ∀ next ∈ (exponentText power ++ rest).head?,
      isDigit next = false ∧ next ≠ '.' := by
    rintro next ⟨⟩
    exact ⟨rfl, by decide⟩
  rw [readNumber_leads hwhole (fun next hnext => (hletter next hnext).1) negative
    (cutFraction_of_ne fun next hnext => (hletter next hnext).2)
    (cutExponent_append power hends.not_digit)]
  simp

theorem readNumber_point_exponent (hwhole : Leads whole) (hne : fraction ≠ [])
    (hfraction : ∀ c ∈ fraction, isDigit c = true) (hends : EndsNumber rest) (negative : Bool)
    (power : ℤ) :
    readNumber negative (whole ++ '.' :: (fraction ++ (exponentText power ++ rest))) =
      .ok (.float (Binary64.ofDecimal negative (digitsValue (whole ++ fraction))
        (power - fraction.length)), rest) := by
  have hpoint : ∀ next ∈ ('.' :: (fraction ++ (exponentText power ++ rest))).head?,
      isDigit next = false := by
    rintro next ⟨⟩
    rfl
  have hletter : ∀ next ∈ (exponentText power ++ rest).head?, isDigit next = false := by
    rintro next ⟨⟩
    rfl
  rw [readNumber_leads hwhole hpoint negative (cutFraction_append hne hfraction hletter)
    (cutExponent_append power hends.not_digit)]
  simp

end Number

/-! ## The layouts of a decimal -/

/-- A row of digits that writes a number and does not start with a zero. -/
structure Writes (digits : List Char) (n : ℕ) : Prop where
  ne_nil : digits ≠ []
  isDigit : ∀ c ∈ digits, isDigit c = true
  value : digitsValue digits = n
  head?_ne : digits.head? ≠ some '0'

theorem writes_toDigits {n : ℕ} (hn : 0 < n) : Writes (Nat.toDigits 10 n) n where
  ne_nil := Nat.toDigits_ne_nil
  isDigit _ hc := isDigit_of_mem_toDigits hc
  value := digitsValue_toDigits n
  head?_ne := head?_toDigits_ne_zero hn

/-- The digits with a point after the first, unless it is the only one. -/
def pointAfterFirst : List Char → List Char
  | [] => []
  | [digit] => [digit]
  | digit :: more => digit :: '.' :: more

section Layout

variable {digits : List Char} {n : ℕ} (hwrites : Writes digits n) {rest : List Char}
  (hends : EndsNumber rest) (negative : Bool)

include hwrites hends

/-- Zeros between the point and the first digit. -/
theorem readNumber_small (count : ℕ) :
    readNumber negative ('0' :: '.' :: List.replicate count '0' ++ digits ++ rest) =
      .ok (.float (Binary64.ofDecimal negative n (-(count + digits.length : ℕ))), rest) := by
  have hfraction : ∀ c ∈ List.replicate count '0' ++ digits, isDigit c = true := by
    intro c hc
    rcases List.mem_append.mp hc with hzero | hdigit
    · exact isDigit_of_mem_zeros hzero
    · exact hwrites.isDigit c hdigit
  have hread := readNumber_point leads_zero
    (List.append_ne_nil_of_right_ne_nil _ hwrites.ne_nil) hfraction hends negative
  have hvalue : digitsValue (['0'] ++ (List.replicate count '0' ++ digits)) = n := by
    rw [← List.append_assoc, ← List.replicate_one, List.replicate_append_replicate,
      digitsValue_zeros_append, hwrites.value]
  rw [hvalue, List.length_append, List.length_replicate] at hread
  simpa using hread

/-- Zeros between the last digit and the point. -/
theorem readNumber_large (count : ℕ) :
    readNumber negative (digits ++ List.replicate count '0' ++ ['.', '0'] ++ rest) =
      .ok (.float (Binary64.ofDecimal negative (n * 10 ^ (count + 1)) (-1)), rest) := by
  have hwhole : Leads (digits ++ List.replicate count '0') := by
    refine ⟨List.append_ne_nil_of_left_ne_nil hwrites.ne_nil _, fun c hc => ?_, fun hzero => ?_⟩
    · rcases List.mem_append.mp hc with hdigit | hzero
      · exact hwrites.isDigit c hdigit
      · exact isDigit_of_mem_zeros hzero
    · rw [List.head?_append_of_ne_nil _ hwrites.ne_nil] at hzero
      exact absurd hzero hwrites.head?_ne
  have hread := readNumber_point hwhole (List.cons_ne_nil _ _) leads_zero.isDigit hends negative
  have hvalue : digitsValue (digits ++ List.replicate count '0' ++ ['0']) =
      n * 10 ^ (count + 1) := by
    rw [← List.replicate_one, List.append_assoc, List.replicate_append_replicate,
      digitsValue_append_zeros, hwrites.value]
  rw [hvalue] at hread
  simpa using hread

/-- The point between two digits. -/
theorem readNumber_inside {count : ℕ} (hpositive : 0 < count) (hcount : count < digits.length) :
    readNumber negative (digits.take count ++ '.' :: digits.drop count ++ rest) =
      .ok (.float (Binary64.ofDecimal negative n (-(digits.length - count : ℕ))), rest) := by
  have hwhole : Leads (digits.take count) := by
    refine ⟨?_, fun c hc => hwrites.isDigit c (List.mem_of_mem_take hc), fun hzero => ?_⟩
    · rw [ne_eq, List.take_eq_nil_iff]
      exact not_or.mpr ⟨by omega, hwrites.ne_nil⟩
    · rw [List.head?_take, if_neg (by omega)] at hzero
      exact absurd hzero hwrites.head?_ne
  have hfraction : ∀ c ∈ digits.drop count, isDigit c = true :=
    fun c hc => hwrites.isDigit c (List.mem_of_mem_drop hc)
  have hne : digits.drop count ≠ [] := by
    rw [ne_eq, List.drop_eq_nil_iff]
    omega
  have hread := readNumber_point hwhole hne hfraction hends negative
  rw [List.take_append_drop, hwrites.value, List.length_drop] at hread
  simpa using hread

/-- One digit before the point, and an exponent. -/
theorem readNumber_scientific (power : ℤ) :
    readNumber negative (pointAfterFirst digits ++ exponentText power ++ rest) =
      .ok (.float (Binary64.ofDecimal negative n (power - (digits.length - 1 : ℕ))), rest) := by
  cases digits with
  | nil => exact absurd rfl hwrites.ne_nil
  | cons digit more =>
      have hwhole : Leads [digit] :=
        ⟨by simp, by simpa using hwrites.isDigit digit (List.mem_cons_self ..), fun _ => rfl⟩
      cases more with
      | nil =>
          have hread := readNumber_exponent hwhole hends negative power
          rw [hwrites.value] at hread
          simpa [pointAfterFirst] using hread
      | cons next more =>
          have hfraction : ∀ c ∈ next :: more, isDigit c = true :=
            fun c hc => hwrites.isDigit c (List.mem_cons_of_mem _ hc)
          have hread := readNumber_point_exponent hwhole (List.cons_ne_nil _ _) hfraction hends
            negative power
          have hvalue : digitsValue ([digit] ++ next :: more) = n := hwrites.value
          rw [hvalue] at hread
          simpa [pointAfterFirst] using hread

end Layout

/-- However a decimal is laid out, what is read has its value. -/
theorem exists_readNumber_layout {decimal : Decimal} (hpositive : 0 < decimal.digits)
    {rest : List Char} (hends : EndsNumber rest) (negative : Bool) :
    ∃ written : Decimal, written.value = decimal.value ∧
      readNumber negative (decimal.layout ++ rest) =
        .ok (.float (Binary64.ofDecimal negative written.digits written.exponent), rest) := by
  have hwrites := writes_toDigits hpositive
  unfold Decimal.layout
  dsimp only
  generalize Nat.toDigits 10 decimal.digits = digits at hwrites ⊢
  have hlength : 0 < digits.length := List.length_pos_iff.mpr hwrites.ne_nil
  by_cases hplace : -4 < decimal.exponent + digits.length ∧ decimal.exponent + digits.length ≤ 16
  · rw [if_pos hplace]
    by_cases hsmall : decimal.exponent + digits.length ≤ 0
    · refine ⟨decimal, rfl, ?_⟩
      rw [if_pos hsmall, readNumber_small hwrites hends,
        show (-(((-(decimal.exponent + digits.length)).toNat + digits.length : ℕ) : ℤ)) =
          decimal.exponent by omega]
    · rw [if_neg hsmall]
      by_cases hlarge : digits.length ≤ (decimal.exponent + digits.length).toNat
      · obtain ⟨power, hpower⟩ := Int.eq_ofNat_of_zero_le (a := decimal.exponent) (by omega)
        refine ⟨⟨decimal.digits * 10 ^ (power + 1), -1⟩, ?_, ?_⟩
        · unfold Decimal.value
          dsimp only
          rw [hpower, Nat.cast_mul, Nat.cast_pow, zpow_neg_one, zpow_natCast, pow_succ]
          norm_num
          ring
        · rw [if_pos hlarge, readNumber_large hwrites hends, show
            (decimal.exponent + digits.length).toNat - digits.length = power by omega]
      · refine ⟨decimal, rfl, ?_⟩
        rw [if_neg hlarge, readNumber_inside hwrites hends negative (by omega) (by omega),
          show -((digits.length - (decimal.exponent + digits.length).toNat : ℕ) : ℤ) =
            decimal.exponent by omega]
  · refine ⟨decimal, rfl, ?_⟩
    have hread := readNumber_scientific hwrites hends negative
      (decimal.exponent + digits.length - 1)
    rw [show decimal.exponent + digits.length - 1 - ((digits.length - 1 : ℕ) : ℤ) =
      decimal.exponent by omega] at hread
    rw [if_neg hplace]
    exact hread

/-! ## Numbers with their signs -/

theorem exists_digit_of_readNumber {negative : Bool} {text : List Char} {found : Json × List Char}
    (hread : readNumber negative text = .ok found) :
    ∃ c more, text = c :: more ∧ isDigit c = true := by
  cases text with
  | nil => cases hread
  | cons c more =>
      refine ⟨c, more, rfl, ?_⟩
      by_contra hc
      simp [readNumber, cutDigits, hc] at hread

/-- No word starts as a number does. -/
theorem readWord?_signed {c : Char} (hc : isDigit c = true) (more : List Char) (negative : Bool) :
    readWord? ((if negative then ['-'] else []) ++ c :: more) = none := by
  have hne : ∀ letter, isDigit letter = false → letter ≠ c := by
    rintro letter hletter rfl
    rw [hc] at hletter
    cases hletter
  cases negative with
  | true => simp [readWord?, wordValues, takeWord?, hne 'I' rfl]
  | false =>
      simp [readWord?, wordValues, takeWord?, hne 'n' rfl, hne 't' rfl, hne 'f' rfl, hne 'N' rfl,
        hne 'I' rfl, hne '-' rfl]

theorem readPlain_signed {negative : Bool} {text : List Char} {found : Json × List Char}
    (hread : readNumber negative text = .ok found) :
    readPlain ((if negative then ['-'] else []) ++ text) = .ok found := by
  obtain ⟨c, more, rfl, hc⟩ := exists_digit_of_readNumber hread
  unfold readPlain
  rw [readWord?_signed hc more negative]
  cases negative with
  | true => exact hread
  | false =>
      have hminus : c ≠ '-' := by
        rintro rfl
        cases hc
      simpa [hminus] using hread

theorem isLong_eq_false_iff {n : ℤ} : isLong n = false ↔ n.natAbs < 10 ^ mostDigits := by
  unfold isLong
  generalize mostDigits = digits
  rw [decide_eq_false_iff_not, Nat.not_le, Nat.pow_eq]

/-- A whole number that is not long is read back. -/
theorem readPlain_printInt {n : ℤ} (hshort : isLong n = false) {rest : List Char}
    (hends : EndsNumber rest) : readPlain (printInt n ++ rest) = .ok (.int n, rest) := by
  have hwhole : Leads (Nat.toDigits 10 n.natAbs) := by
    refine ⟨Nat.toDigits_ne_nil, fun c hc => isDigit_of_mem_toDigits hc, fun hzero => ?_⟩
    by_cases hn : 0 < n.natAbs
    · exact absurd hzero (head?_toDigits_ne_zero hn)
    · rw [Nat.eq_zero_of_not_pos hn]
      rfl
  have hlength : (Nat.toDigits 10 n.natAbs).length ≤ mostDigits :=
    (Nat.length_toDigits_le_iff (by omega) (by decide)).mpr (isLong_eq_false_iff.mp hshort)
  have hread := readPlain_signed (readNumber_whole hwhole hlength hends (decide (n < 0)))
  have hvalue : (if decide (n < 0) = true then
      -(digitsValue (Nat.toDigits 10 n.natAbs) : ℤ) else digitsValue (Nat.toDigits 10 n.natAbs)) =
      n := by
    rw [digitsValue_toDigits]
    split_ifs with hnegative
    · have := of_decide_eq_true hnegative
      omega
    · have := mt decide_eq_true hnegative
      omega
  rw [hvalue, ← List.append_assoc] at hread
  simpa [printInt] using hread

/-- Every floating-point number is read back. -/
theorem readPlain_printFloat (x : Binary64) {rest : List Char} (hends : EndsNumber rest) :
    readPlain (printFloat x ++ rest) = .ok (.float x, rest) := by
  cases x with
  | nan => rfl
  | infinite negative => cases negative <;> rfl
  | finite negative significand exponent canonical =>
      have htext : printFloat (.finite negative significand exponent canonical) ++ rest =
          (if negative then ['-'] else []) ++ ((if significand = 0 then ['0', '.', '0']
            else (shortestDecimal significand exponent).layout) ++ rest) :=
        List.append_assoc ..
      rw [htext]
      refine readPlain_signed ?_
      by_cases hzero : significand = 0
      · have hleast : exponent = 0 := by
          refine canonical.2.2.resolve_right (Nat.not_le.mpr ?_)
          rw [hzero]
          decide
        subst hzero hleast
        exact readNumber_zero hends negative
      · have hpos : 0 < significand := Nat.pos_of_ne_zero hzero
        obtain ⟨written, hvalue, hread⟩ := exists_readNumber_layout
          (shortestDecimal_digits_pos canonical hpos) hends negative
        rw [if_neg hzero, hread, ofDecimal_of_value_eq canonical hpos hvalue]

end Json

end TaskQuery
