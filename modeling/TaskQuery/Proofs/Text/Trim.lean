import Mathlib.Data.List.DropRight
import Mathlib.Tactic.ByContra
import TaskQuery.Text.Basic

/-!
# What trimming leaves

`trim` takes the blanks off both ends of a text.  What it leaves is trimmed, it leaves
a trimmed text as it is, and blanks that are added at either end do not matter.
-/

namespace TaskQuery.Text

/-- A text with no blank at either end. -/
structure Trimmed (text : List Char) : Prop where
  head : ∀ c ∈ text.head?, isBlank c = false
  last : ∀ c ∈ text.getLast?, isBlank c = false

theorem trimmed_of_no_blank {text : List Char} (htext : ∀ c ∈ text, isBlank c = false) :
    Trimmed text where
  head := fun c hc => htext c (List.mem_of_mem_head? hc)
  last := fun c hc => htext c (List.mem_of_mem_getLast? hc)

theorem trimEnd_eq_rdropWhile (text : List Char) : trimEnd text = text.rdropWhile isBlank :=
  rfl

theorem trimEnd_append_blanks {back : List Char} (hback : ∀ c ∈ back, isBlank c = true)
    (text : List Char) : trimEnd (text ++ back) = trimEnd text := by
  have hreverse : ∀ c ∈ back.reverse, isBlank c = true :=
    fun c hc => hback c (List.mem_reverse.mp hc)
  rw [trimEnd, trimEnd, List.reverse_append, List.dropWhile_append_of_pos hreverse]

theorem exists_trimEnd (text : List Char) :
    ∃ back, text = trimEnd text ++ back ∧ ∀ c ∈ back, isBlank c = true :=
  ⟨text.rtakeWhile isBlank, (List.rdropWhile_append_rtakeWhile ..).symm,
    fun _ hc => List.mem_rtakeWhile_imp hc⟩

theorem trimEnd_isPrefix (text : List Char) : trimEnd text <+: text := by
  obtain ⟨back, hback, -⟩ := exists_trimEnd text
  exact ⟨back, hback.symm⟩

theorem trimEnd_trimEnd (text : List Char) : trimEnd (trimEnd text) = trimEnd text :=
  List.rdropWhile_idempotent isBlank text

/-- What is not blank at the end keeps all that stands in front of it. -/
theorem trimEnd_append_of_not_blank {back : List Char} (hback : ∃ c ∈ back, isBlank c = false)
    (front : List Char) : trimEnd (front ++ back) = front ++ trimEnd back := by
  have hkept : back.reverse.dropWhile isBlank ≠ [] := by
    intro hnil
    obtain ⟨c, hc, hblank⟩ := hback
    rw [List.dropWhile_eq_nil_iff] at hnil
    rw [hnil c (List.mem_reverse.mpr hc)] at hblank
    exact Bool.noConfusion hblank
  rw [trimEnd, trimEnd, List.reverse_append, List.dropWhile_append,
    if_neg (by simpa using hkept), List.reverse_append, List.reverse_reverse]

/-- A text that goes on has all that is left of its beginning. -/
theorem trimEnd_prefix_trimEnd_append (front back : List Char) :
    trimEnd front <+: trimEnd (front ++ back) := by
  by_cases hback : ∃ c ∈ back, isBlank c = false
  · rw [trimEnd_append_of_not_blank hback]
    exact (trimEnd_isPrefix front).trans (List.prefix_append ..)
  · have hblank : ∀ c ∈ back, isBlank c = true := by
      intro c hc
      by_contra hnot
      exact hback ⟨c, hc, (Bool.not_eq_true _).mp hnot⟩
    exact ⟨[], (List.append_nil _).trans (trimEnd_append_blanks hblank front).symm⟩

/-- Nothing is trimmed off a text that ends in a run without blanks. -/
theorem trimEnd_append_of_no_blank {run : List Char} (hne : run ≠ [])
    (hrun : ∀ c ∈ run, isBlank c = false) (front : List Char) :
    trimEnd (front ++ run) = front ++ run := by
  have hlast := hrun _ (List.getLast_mem hne)
  rw [trimEnd_append_of_not_blank ⟨_, List.getLast_mem hne, hlast⟩, trimEnd_eq_rdropWhile,
    List.rdropWhile_eq_self_iff.mpr fun _ => by simp [hlast]]

/-- What trimming leaves of a text that is not all blank ends in a character that is not. -/
theorem exists_trimEnd_eq_concat {text : List Char} (htext : ∃ c ∈ text, isBlank c = false) :
    ∃ front last, trimEnd text = front ++ [last] ∧ isBlank last = false := by
  have hne : text.rdropWhile isBlank ≠ [] := by
    intro hnil
    obtain ⟨c, hc, hblank⟩ := htext
    rw [List.rdropWhile_eq_nil_iff] at hnil
    rw [hnil c hc] at hblank
    exact Bool.noConfusion hblank
  refine ⟨_, _, (List.dropLast_concat_getLast hne).symm, ?_⟩
  simpa using List.rdropWhile_last_not isBlank text hne

/-- Trimming takes blanks away, and only at the ends. -/
theorem exists_trim (text : List Char) :
    ∃ front back, text = front ++ trim text ++ back ∧
      (∀ c ∈ front, isBlank c = true) ∧ ∀ c ∈ back, isBlank c = true := by
  obtain ⟨back, hback, hblank⟩ := exists_trimEnd (trimStart text)
  refine ⟨text.takeWhile isBlank, back, ?_, fun c hc => List.mem_takeWhile_imp hc, hblank⟩
  rw [List.append_assoc, trim, ← hback]
  exact List.takeWhile_append_dropWhile.symm

theorem trim_append_blanks {back : List Char} (hback : ∀ c ∈ back, isBlank c = true)
    (text : List Char) : trim (text ++ back) = trim text := by
  rw [trim, trim, trimStart, trimStart, List.dropWhile_append]
  split
  · -- nothing but blanks is left over, in front of `back` as in `back`
    rename_i hempty
    rw [List.isEmpty_iff.mp hempty, List.dropWhile_eq_nil_iff.mpr hback]
  · exact trimEnd_append_blanks hback _

theorem trim_blanks_append {front : List Char} (hfront : ∀ c ∈ front, isBlank c = true)
    (text : List Char) : trim (front ++ text) = trim text := by
  rw [trim, trim, trimStart, trimStart, List.dropWhile_append_of_pos hfront]

theorem trimmed_trim (text : List Char) : Trimmed (trim text) where
  head := by
    intro c hc
    obtain ⟨back, hback, -⟩ := exists_trimEnd (trimStart text)
    have hend : (trimEnd (trimStart text)).head? = some c := hc
    have hstart : (text.dropWhile isBlank).head? = some c := by
      change (trimStart text).head? = some c
      rw [hback, List.head?_append, hend]
      rfl
    have hnot := List.head?_dropWhile_not isBlank text
    rw [hstart] at hnot
    exact hnot
  last := by
    intro c hc
    have hne : (trimStart text).rdropWhile isBlank ≠ [] := by
      intro hnil
      rw [trim, trimEnd_eq_rdropWhile, hnil] at hc
      simp at hc
    have hnot := List.rdropWhile_last_not isBlank (trimStart text) hne
    rw [trim, trimEnd_eq_rdropWhile, List.getLast?_eq_some_getLast hne] at hc
    rw [← Option.some.inj (Option.mem_def.mp hc)]
    simpa using hnot

theorem Trimmed.trim_eq {text : List Char} (htrimmed : Trimmed text) : trim text = text := by
  have hstart : trimStart text = text := by
    cases text with
    | nil => rfl
    | cons c rest =>
        have hc : isBlank c = false := htrimmed.head c rfl
        rw [trimStart, List.dropWhile_cons_of_neg (by simp [hc])]
  rw [trim, hstart, trimEnd_eq_rdropWhile, List.rdropWhile_eq_self_iff]
  intro hne
  have hlast := htrimmed.last _ (List.getLast?_eq_some_getLast hne)
  simp [hlast]

end TaskQuery.Text
