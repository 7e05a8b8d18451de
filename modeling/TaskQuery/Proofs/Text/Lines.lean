import TaskQuery.Text.Basic

/-!
# Lines that are put together

A text that is put together from lines, a line feed after each, falls apart into the same lines
if none of them has a line end inside (`lines_flatMap`).
-/

namespace TaskQuery.Text

variable {line : List Char}

theorem isLineEnd_of_all {text : List Char} (hall : text.all (!isLineEnd ·) = true) :
    ∀ c ∈ text, isLineEnd c = false := by
  intro c hc
  exact (Bool.not_eq_true' _).mp (List.all_eq_true.mp hall c hc)

/-- A character that ends no line belongs to the first line. -/
theorem lines_cons {c : Char} (hc : isLineEnd c = false) (text : List Char) :
    lines (c :: text) = consToFirst c (lines text) := by
  have hreturn : c ≠ '\r' := by
    rintro rfl
    exact absurd hc (by decide)
  rw [lines, hc]
  · rfl
  · intro rest hsame _
    exact hreturn hsame

/-- A line without a line end inside reaches to the next line feed. -/
theorem lines_append_lineFeed (hline : ∀ c ∈ line, isLineEnd c = false) (rest : List Char) :
    lines (line ++ '\n' :: rest) = line :: lines rest := by
  induction line with
  | nil => rfl
  | cons c line ih =>
      obtain ⟨hc, hothers⟩ := List.forall_mem_cons.mp hline
      rw [List.cons_append, lines_cons hc, ih hothers]
      rfl

/-- A text without carriage returns has the line ends of a file already. -/
theorem unifyLineEnds_eq_self {text : List Char} (hreturn : '\r' ∉ text) :
    unifyLineEnds text = text := by
  induction text with
  | nil => rfl
  | cons c text ih =>
      obtain ⟨hc, hothers⟩ := not_or.mp (mt List.mem_cons.mpr hreturn)
      rw [unifyLineEnds, if_neg (Ne.symm hc), ih hothers]
      intro rest hsame
      exact absurd hsame.symm hc

/-- Pieces with a separator between them are the last piece behind the others, a separator after
each. -/
theorem intercalate_concat {α : Type} (separator : List α) (pieces : List (List α))
    (last : List α) :
    separator.intercalate (pieces ++ [last]) =
      (pieces.flatMap fun piece => piece ++ separator) ++ last := by
  induction pieces with
  | nil => simp
  | cons piece pieces ih =>
      rw [List.flatMap_cons, List.append_assoc, ← ih, List.cons_append]
      cases pieces with
      | nil => exact List.intercalate_cons_cons
      | cons next rest => exact List.intercalate_cons_cons

/-- More pieces do not change what stands in front of them. -/
theorem intercalate_isPrefix {α : Type} (separator : List α) (pieces more : List (List α)) :
    separator.intercalate pieces <+: separator.intercalate (pieces ++ more) := by
  induction pieces with
  | nil => exact List.nil_prefix
  | cons piece pieces ih =>
      cases pieces with
      | nil =>
          cases more with
          | nil => exact List.prefix_rfl
          | cons next rest =>
              rw [List.singleton_append, List.intercalate_singleton, List.intercalate_cons_cons,
                List.append_assoc]
              exact List.prefix_append ..
      | cons next rest =>
          rw [List.cons_append, List.cons_append, List.intercalate_cons_cons,
            List.intercalate_cons_cons, List.prefix_append_right_inj]
          exact ih

theorem lines_flatMap {all : List (List Char)}
    (hlines : ∀ line ∈ all, ∀ c ∈ line, isLineEnd c = false) :
    lines (all.flatMap fun line => line ++ ['\n']) = all := by
  induction all with
  | nil => rfl
  | cons line all ih =>
      obtain ⟨hline, hothers⟩ := List.forall_mem_cons.mp hlines
      rw [List.flatMap_cons, List.append_assoc, List.singleton_append,
        lines_append_lineFeed hline, ih hothers]

end TaskQuery.Text
