import Mathlib.Data.List.Infix
import TaskQuery.Match

/-!
# Containment

A term hits a task if its folded text is a part of one of the texts of the task, or the start
of one of their words (`Term.hits_anywhere_iff`, `Term.hits_wordStart_iff`).  This file says so in
terms of parts of lists, `<:+:` and `<+:`, and shows that folding respects them: although a
character may be folded into several, the folded form of a part is a part of the folded form,
since characters are folded one by one.
-/

namespace TaskQuery

open Text

/-! ## Parts of a text -/

theorem occursIn_eq_true_iff {needle text : List Char} :
    occursIn needle text = true ↔ needle <:+: text := by
  induction text with
  | nil => rw [occursIn, List.isEmpty_iff, List.infix_nil]
  | cons c rest ih =>
      rw [occursIn, Bool.or_eq_true, List.isPrefixOf_iff_prefix, ih, List.infix_cons_iff]

/-- The first piece of a text is where the text starts, and the others are parts of it. -/
theorem Text.splitAt_spec (isBreak : Char → Bool) (text : List Char) :
    ∃ piece pieces, splitAt isBreak text = piece :: pieces ∧ piece <+: text ∧
      ∀ other ∈ pieces, other <:+: text := by
  induction text with
  | nil => exact ⟨[], [], rfl, List.nil_prefix, by simp⟩
  | cons c rest ih =>
      obtain ⟨piece, pieces, hsplit, hpiece, hpieces⟩ := ih
      have hlater : ∀ other ∈ pieces, other <:+: c :: rest :=
        fun other hother => List.infix_cons (hpieces other hother)
      rw [splitAt, hsplit]
      by_cases hbreak : isBreak c = true
      · rw [if_pos hbreak]
        refine ⟨[], piece :: pieces, rfl, List.nil_prefix, List.forall_mem_cons.mpr ⟨?_, hlater⟩⟩
        exact List.infix_cons hpiece.isInfix
      · rw [if_neg hbreak]
        exact ⟨c :: piece, pieces, rfl, (List.prefix_cons_inj c).mpr hpiece, hlater⟩

theorem Text.infix_of_mem_words {word text : List Char} (hword : word ∈ words text) :
    word <:+: text := by
  obtain ⟨piece, pieces, hsplit, hpiece, hpieces⟩ := splitAt_spec isBlank text
  have hmem := (List.mem_filter.mp hword).1
  rw [hsplit] at hmem
  rcases List.mem_cons.mp hmem with rfl | hlater
  · exact hpiece.isInfix
  · exact hpieces word hlater

theorem Text.infix_folded {part text : String} (hpart : part.toList <:+: text.toList) :
    folded part <:+: folded text :=
  hpart.flatMap foldChar

theorem Text.prefix_folded {start text : String} (hstart : start.toList <+: text.toList) :
    folded start <+: folded text :=
  hstart.flatMap foldChar

/-! ## What a term hits -/

namespace Term

variable {term : Term} {entries : List (List Char)}

/-- A term that may stand anywhere hits the texts that contain it. -/
theorem hits_anywhere_iff (hanywhere : term.matchesWordStart = false) :
    term.hits entries = true ↔ ∃ entry ∈ entries, folded term.text <:+: entry := by
  unfold hits
  dsimp only
  rw [if_neg (Bool.eq_false_iff.mp hanywhere), List.any_eq_true]
  simp only [occursIn_eq_true_iff]

/-- A wildcard hits the texts that have a word which starts with it. -/
theorem hits_wordStart_iff (hstart : term.matchesWordStart = true) :
    term.hits entries = true ↔
      ∃ entry ∈ entries, ∃ word ∈ words entry, folded term.text <+: word := by
  unfold hits
  dsimp only
  rw [if_pos hstart, List.any_eq_true]
  simp only [List.any_eq_true, List.isPrefixOf_iff_prefix]

end Term

/-! ## The texts of a task -/

namespace Task

variable {task : Task} {sections : List Section}

/-- The texts of a task that somebody wrote: its title and description, the subject and the
sender of its email, and the title of its section. -/
def writtenTexts (task : Task) (sections : List Section) : List String :=
  [task.title, task.description] ++ task.emailSubject.toList ++ task.emailSender.toList ++
    (task.sectionTitle sections).toList

theorem searchText_eq (task : Task) (sections : List Section) :
    task.searchText sections =
      (task.writtenTexts sections).map folded ++
        (amountEntries task.amount ++ folded task.priority.displayName :: task.statusWords) := by
  unfold searchText writtenTexts foldedEntry
  simp only [List.map_append, List.append_assoc]
  rfl

theorem folded_mem_searchText {text : String} (htext : text ∈ task.writtenTexts sections) :
    folded text ∈ task.searchText sections := by
  rw [searchText_eq]
  exact List.mem_append_left _ (List.mem_map_of_mem htext)

end Task

end TaskQuery
