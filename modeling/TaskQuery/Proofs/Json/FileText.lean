import TaskQuery.Proofs.Json.RoundTrip
import TaskQuery.Proofs.Text.Lines

/-!
# Documents in files

Where a file is read, its line ends become line feeds, also those that belong to a string.  The
text of a document has no carriage return (`Faithful.not_mem_print`): strings escape it, and
numbers and brackets have no use for it.  So reading a document from a file is reading its
text (`unifyLineEnds_toText`).
-/

namespace TaskQuery

namespace Number

theorem not_mem_of_digits {digits : List Char} (hdigits : ∀ c ∈ digits, isDigit c = true) :
    '\r' ∉ digits := by
  intro hmem
  exact absurd (hdigits _ hmem) (by decide)

theorem not_mem_layout (decimal : Decimal) : '\r' ∉ decimal.layout := by
  have hdigits : '\r' ∉ Nat.toDigits 10 decimal.digits :=
    not_mem_of_digits fun c hc => isDigit_of_mem_toDigits hc
  have hexponent : ∀ n, '\r' ∉ exponentDigits n := by
    intro n
    rw [exponentDigits_eq_paddedNumber]
    exact not_mem_of_digits fun c hc => isDigit_of_mem_paddedNumber hc
  unfold Decimal.layout
  dsimp only
  generalize Nat.toDigits 10 decimal.digits = digits at hdigits ⊢
  have hpoint : '\r' ∉ Json.pointAfterFirst digits := by
    cases digits with
    | nil => exact List.not_mem_nil
    | cons digit more => cases more <;> simpa [Json.pointAfterFirst] using hdigits
  split_ifs
  · simp [hdigits]
  · simp [hdigits]
  · simp [mt List.mem_of_mem_take hdigits, mt List.mem_of_mem_drop hdigits]
  · change '\r' ∉ Json.pointAfterFirst digits ++ _
    simp [hpoint, hexponent]
  · change '\r' ∉ Json.pointAfterFirst digits ++ _
    simp [hpoint, hexponent]

end Number

namespace Json

open Number Text

theorem not_mem_printInt (n : ℤ) : '\r' ∉ printInt n := by
  have hdigits : '\r' ∉ Nat.toDigits 10 n.natAbs :=
    not_mem_of_digits fun c hc => isDigit_of_mem_toDigits hc
  unfold printInt
  split_ifs <;> simp [hdigits]

theorem not_mem_printFloat (x : Binary64) : '\r' ∉ printFloat x := by
  cases x with
  | nan => decide
  | infinite negative => cases negative <;> decide
  | finite negative significand exponent canonical =>
      have hlayout := not_mem_layout (shortestDecimal significand exponent)
      have hsigned : ∀ text, '\r' ∉ text → '\r' ∉ (if negative then ['-'] else []) ++ text := by
        intro text htext
        split_ifs <;> simp [htext]
      refine hsigned _ ?_
      split_ifs
      · decide
      · exact hlayout

theorem not_mem_printChar (c : Char) : '\r' ∉ printChar c := by
  unfold printChar
  split_ifs with hquote hbackslash hfeed hreturn htab hback hform hcontrol
  · decide
  · decide
  · decide
  · decide
  · decide
  · decide
  · decide
  · have hdigits : ∀ code < 0x20, '\r' ∉ codeEscape (Char.ofNat code) := by decide
    have hcode := hdigits c.toNat hcontrol
    rwa [Char.ofNat_toNat] at hcode
  · simpa using Ne.symm hreturn

theorem not_mem_printString (text : String) : '\r' ∉ printString text := by
  simp [printString, not_mem_printChar]

theorem not_mem_newLine (depth : ℕ) : '\r' ∉ newLine depth := by
  simp [newLine]

theorem not_mem_itemsText {items : List Json}
    (hitems : ∀ item ∈ items, ∀ depth, '\r' ∉ item.print depth) (depth : ℕ) :
    '\r' ∉ itemsText depth items := by
  induction items with
  | nil => exact List.not_mem_nil
  | cons item items ih =>
      obtain ⟨hitem, hlater⟩ := List.forall_mem_cons.mp hitems
      cases items with
      | nil => simp [itemsText, printItems, hitem]
      | cons next items =>
          rw [itemsText, printItems_cons]
          simp [hitem, not_mem_newLine, ih hlater]

theorem not_mem_membersText {members : List (String × Json)}
    (hmembers : ∀ member ∈ members, ∀ depth, '\r' ∉ member.2.print depth) (depth : ℕ) :
    '\r' ∉ membersText depth members := by
  induction members with
  | nil => exact List.not_mem_nil
  | cons member members ih =>
      obtain ⟨key, value⟩ := member
      obtain ⟨hvalue, hlater⟩ := List.forall_mem_cons.mp hmembers
      cases members with
      | nil => simp [membersText, printMembers, hvalue, not_mem_printString]
      | cons next members =>
          rw [membersText, printMembers_cons]
          simp [hvalue, not_mem_newLine, not_mem_printString, ih hlater]

/-- The text of a document has no carriage return. -/
theorem Faithful.not_mem_print {document : Json} (hfaithful : Faithful document) :
    ∀ depth, '\r' ∉ document.print depth := by
  induction hfaithful with
  | null =>
      intro depth
      change '\r' ∉ "null".toList
      decide
  | bool value =>
      intro depth
      cases value with
      | true =>
          change '\r' ∉ "true".toList
          decide
      | false =>
          change '\r' ∉ "false".toList
          decide
  | @int value _ => exact fun _ => not_mem_printInt value
  | float value => exact fun _ => not_mem_printFloat value
  | string value => exact fun _ => not_mem_printString value
  | @array items _ ih =>
      intro depth
      cases items with
      | nil =>
          change '\r' ∉ ['[', ']']
          decide
      | cons item items =>
          rw [print_array_cons]
          simp [not_mem_newLine, not_mem_itemsText ih]
  | @object members _ _ ih =>
      intro depth
      cases members with
      | nil =>
          change '\r' ∉ ['{', '}']
          decide
      | cons member members =>
          rw [print_object_cons]
          simp [not_mem_newLine, not_mem_membersText ih]

/-- The text of a document is the same where it is read from a file. -/
theorem unifyLineEnds_toText {document : Json} (hfaithful : Faithful document) :
    unifyLineEnds document.toText.toList = document.toText.toList := by
  refine unifyLineEnds_eq_self ?_
  rw [toText, String.toList_ofList]
  exact hfaithful.not_mem_print 0

end Json

end TaskQuery
