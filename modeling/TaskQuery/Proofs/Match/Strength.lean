import TaskQuery.Match
import TaskQuery.Proofs.Match.Containment

/-!
# Which matches are stronger

Of the ways to ask for a text some are stricter than others: a wildcard asks for more than a
plain term, a longer text for more than a part of it, and a filter on a text for more than a
plain term with the value of the filter (`Task.hits_ordered`).

## Strategy

Each way of matching is containment in one of the folded texts of the task, with a further
demand.  A word is a part of the text that it is a word of (`Text.infix_of_mem_words`), and a
filter looks at one of the texts that terms are looked for in
(`Task.folded_mem_searchText_of_comparedText?`).
-/

namespace TaskQuery

open Text

/-! ## Terms -/

namespace Term

/-- A term that asks for a text anywhere. -/
structure IsPlain (term : Term) (text : String) : Prop where
  text_eq : term.text = text
  noPhrase : term.exactPhrase = false
  noWildcard : term.wildcard = false

/-- A term that asks for a text as it stands between quotes. -/
structure IsPhrase (term : Term) (text : String) : Prop where
  text_eq : term.text = text
  phrase : term.exactPhrase = true

/-- A term that asks for a word which starts with a text. -/
structure IsWildcard (term : Term) (text : String) : Prop where
  text_eq : term.text = text
  noPhrase : term.exactPhrase = false
  wildcard : term.wildcard = true

variable {term other : Term} {entries : List (List Char)} {text part : String}

theorem IsPlain.hits_iff (hplain : term.IsPlain text) :
    term.hits entries = true ↔ ∃ entry ∈ entries, folded text <:+: entry := by
  have hanywhere : term.matchesWordStart = false := by
    rw [matchesWordStart, hplain.noWildcard, Bool.false_and]
  rw [hits_anywhere_iff hanywhere, hplain.text_eq]

theorem IsPhrase.hits_iff (hphrase : term.IsPhrase text) :
    term.hits entries = true ↔ ∃ entry ∈ entries, folded text <:+: entry := by
  have hanywhere : term.matchesWordStart = false := by
    rw [matchesWordStart, hphrase.phrase, Bool.not_true, Bool.and_false]
  rw [hits_anywhere_iff hanywhere, hphrase.text_eq]

theorem IsWildcard.hits_iff (hwildcard : term.IsWildcard text) :
    term.hits entries = true ↔
      ∃ entry ∈ entries, ∃ word ∈ words entry, folded text <+: word := by
  have hstart : term.matchesWordStart = true := by
    rw [matchesWordStart, hwildcard.wildcard, hwildcard.noPhrase]
    rfl
  rw [hits_wordStart_iff hstart, hwildcard.text_eq]

theorem IsPlain.hits_eq_of_isPhrase (hplain : term.IsPlain text) (hphrase : other.IsPhrase text) :
    term.hits entries = other.hits entries := by
  rw [Bool.eq_iff_iff, hplain.hits_iff, hphrase.hits_iff]

/-- The start of a word is a part of the text that the word stands in. -/
theorem IsPlain.hits_of_isWildcard (hplain : term.IsPlain text)
    (hwildcard : other.IsWildcard text) (hhit : other.hits entries = true) :
    term.hits entries = true := by
  obtain ⟨entry, hentry, word, hword, hstart⟩ := hwildcard.hits_iff.mp hhit
  exact hplain.hits_iff.mpr ⟨entry, hentry, hstart.isInfix.trans (infix_of_mem_words hword)⟩

theorem IsPlain.hits_of_part (hplain : term.IsPlain text) (hother : other.IsPlain part)
    (hpart : part.toList <:+: text.toList) (hhit : term.hits entries = true) :
    other.hits entries = true := by
  obtain ⟨entry, hentry, hinside⟩ := hplain.hits_iff.mp hhit
  exact hother.hits_iff.mpr ⟨entry, hentry, (infix_folded hpart).trans hinside⟩

theorem IsWildcard.hits_of_start (hwildcard : term.IsWildcard text)
    (hother : other.IsWildcard part) (hstart : part.toList <+: text.toList)
    (hhit : term.hits entries = true) : other.hits entries = true := by
  obtain ⟨entry, hentry, word, hword, hbefore⟩ := hwildcard.hits_iff.mp hhit
  exact hother.hits_iff.mpr ⟨entry, hentry, word, hword, (prefix_folded hstart).trans hbefore⟩

end Term

/-! ## Filters -/

/-- Whatever the comparison, the text contains the value. -/
theorem Comparison.infix_of_holdsText {comparison : Comparison} {text value : List Char}
    (hholds : comparison.holdsText text value = true) : value <:+: text := by
  cases comparison with
  | equals =>
      obtain rfl : text = value := eq_of_beq hholds
      exact List.infix_rfl
  | _ => exact occursIn_eq_true_iff.mp hholds

/-- A text that is equal to the value passes under any comparison. -/
theorem Comparison.holdsText_self (comparison : Comparison) (text : List Char) :
    comparison.holdsText text text = true := by
  cases comparison with
  | equals => exact beq_self_eq_true text
  | _ => exact occursIn_eq_true_iff.mpr List.infix_rfl

namespace Task

variable {task : Task} {sections : List Section} {now : DateTime}

/-- The text of a task that a filter on a field compares, if the field has one. -/
def comparedText? (task : Task) (sections : List Section) : Field → Option String
  | .title => some task.title
  | .description => some task.description
  | .priority => some task.priority.displayName
  | .sectionTitle => task.sectionTitle sections
  | .amount | .status | .dueDate => none

theorem folded_mem_searchText_of_comparedText? {field : Field} {text : String}
    (htext : task.comparedText? sections field = some text) :
    folded text ∈ task.searchText sections := by
  cases field with
  | title =>
      obtain rfl := Option.some.inj htext
      exact folded_mem_searchText (by simp [writtenTexts])
  | description =>
      obtain rfl := Option.some.inj htext
      exact folded_mem_searchText (by simp [writtenTexts])
  | sectionTitle =>
      have hsection : task.sectionTitle sections = some text := htext
      exact folded_mem_searchText (by simp [writtenTexts, hsection])
  | priority =>
      obtain rfl := Option.some.inj htext
      rw [searchText_eq]
      simp
  | amount | status | dueDate => cases htext

theorem statusWords_subset_searchText : task.statusWords ⊆ task.searchText sections := by
  intro word hword
  rw [searchText_eq]
  exact List.mem_append_right _ (List.mem_append_right _ (List.mem_cons_of_mem _ hword))

theorem passes_of_comparedText? {field : Field} {text : String}
    (htext : task.comparedText? sections field = some text) (comparison : Comparison)
    (value : String) :
    FieldFilter.passes ⟨field, comparison, value⟩ task sections now =
      .ok (comparison.holdsText (folded text) (folded value)) := by
  cases field with
  | title | description | priority =>
      obtain rfl := Option.some.inj htext
      rfl
  | sectionTitle =>
      have hsection : task.sectionTitle sections = some text := htext
      unfold FieldFilter.passes
      dsimp only
      rw [hsection]
  | amount | status | dueDate => cases htext

theorem passes_of_passes_equals {field : Field} {value : String}
    (hcompared : (task.comparedText? sections field).isSome = true)
    (hequals : FieldFilter.passes ⟨field, .equals, value⟩ task sections now = .ok true)
    (comparison : Comparison) :
    FieldFilter.passes ⟨field, comparison, value⟩ task sections now = .ok true := by
  obtain ⟨text, htext⟩ := Option.isSome_iff_exists.mp hcompared
  rw [passes_of_comparedText? htext] at hequals
  have hsame : folded text = folded value := eq_of_beq (Except.ok.inj hequals)
  rw [passes_of_comparedText? htext, hsame, Comparison.holdsText_self]

/-- What a filter compares its value with is one of the texts that terms are looked for in. -/
theorem exists_infix_of_passes {field : Field} {comparison : Comparison} {value : String}
    (hfield : (task.comparedText? sections field).isSome = true ∨ field = .status)
    (hpasses : FieldFilter.passes ⟨field, comparison, value⟩ task sections now = .ok true) :
    ∃ entry ∈ task.searchText sections, folded value <:+: entry := by
  rcases hfield with hcompared | hstatus
  · obtain ⟨text, htext⟩ := Option.isSome_iff_exists.mp hcompared
    rw [passes_of_comparedText? htext] at hpasses
    exact ⟨folded text, folded_mem_searchText_of_comparedText? htext,
      Comparison.infix_of_holdsText (Except.ok.inj hpasses)⟩
  · rw [hstatus] at hpasses
    have hword : folded value ∈ task.statusWords :=
      List.contains_iff_mem.mp (Except.ok.inj hpasses)
    exact ⟨_, statusWords_subset_searchText hword, List.infix_rfl⟩

/-- **How strong the matches are.**  A phrase hits what a plain term with its text hits, and a
wildcard no more than that.  A part of a text is hit where the text is, and so is the start of
a wildcard.  A filter that compares a text for equality passes only where it passes under every
comparison, and a filter on a text or on the state of the task passes only where its value is a
hit. -/
theorem hits_ordered (task : Task) (sections : List Section) (now : DateTime) (text part : String) :
    (∀ plain phrase : Term, plain.IsPlain text → phrase.IsPhrase text →
        plain.hits (task.searchText sections) = phrase.hits (task.searchText sections)) ∧
      (∀ plain wildcard : Term, plain.IsPlain text → wildcard.IsWildcard text →
        wildcard.hits (task.searchText sections) = true →
          plain.hits (task.searchText sections) = true) ∧
      (part.toList <:+: text.toList → ∀ whole piece : Term, whole.IsPlain text →
        piece.IsPlain part → whole.hits (task.searchText sections) = true →
          piece.hits (task.searchText sections) = true) ∧
      (part.toList <+: text.toList → ∀ whole start : Term, whole.IsWildcard text →
        start.IsWildcard part → whole.hits (task.searchText sections) = true →
          start.hits (task.searchText sections) = true) ∧
      (∀ field : Field, (task.comparedText? sections field).isSome = true →
        FieldFilter.passes ⟨field, .equals, text⟩ task sections now = .ok true →
          ∀ comparison : Comparison,
            FieldFilter.passes ⟨field, comparison, text⟩ task sections now = .ok true) ∧
      (∀ field : Field, (task.comparedText? sections field).isSome = true ∨ field = .status →
        ∀ comparison : Comparison,
          FieldFilter.passes ⟨field, comparison, text⟩ task sections now = .ok true →
            ∀ plain : Term, plain.IsPlain text →
              plain.hits (task.searchText sections) = true) := by
  refine ⟨?phrase, ?wildcard, ?piece, ?start, ?equals, ?filter⟩
  case phrase => exact fun plain phrase => Term.IsPlain.hits_eq_of_isPhrase
  case wildcard => exact fun plain wildcard => Term.IsPlain.hits_of_isWildcard
  case piece =>
    intro hpart whole piece hwhole hpiece
    exact hwhole.hits_of_part hpiece hpart
  case start =>
    intro hpart whole start hwhole hstart
    exact hwhole.hits_of_start hstart hpart
  case equals => exact fun field => passes_of_passes_equals
  case filter =>
    intro field hfield comparison hpasses plain hplain
    exact hplain.hits_iff.mpr (exists_infix_of_passes hfield hpasses)

/-- A street by three spellings, in the title and in the name of the section, and a word for
the state of the task. -/
theorem exists_hits_ordered :
    ∃ (task : Task) (sections : List Section) (now : DateTime)
      (plain phrase wildcard piece start state : Term),
      plain.IsPlain "Straße" ∧ phrase.IsPhrase "Straße" ∧ wildcard.IsWildcard "Straße" ∧
        piece.IsPlain "aß" ∧ start.IsWildcard "Stra" ∧ state.IsPlain "ToDo" ∧
        wildcard.hits (task.searchText sections) = true ∧
        plain.hits (task.searchText sections) = true ∧
        phrase.hits (task.searchText sections) = true ∧
        piece.hits (task.searchText sections) = true ∧
        start.hits (task.searchText sections) = true ∧
        FieldFilter.passes ⟨.sectionTitle, .equals, "Straße"⟩ task sections now = .ok true ∧
        FieldFilter.passes ⟨.sectionTitle, .lessThan, "Straße"⟩ task sections now = .ok true ∧
        FieldFilter.passes ⟨.status, .contains, "ToDo"⟩ task sections now = .ok true ∧
        state.hits (task.searchText sections) = true := by
  let task : Task := { id := "1", title := "Clean the STRASSENBAHN", sectionId := some "s" }
  let sections : List Section := [{ id := "s", title := "straSSe" }]
  let now : DateTime := .startOf ⟨2026, 1, 31, by decide⟩
  let plain : Term := { text := "Straße" }
  let phrase : Term := { text := "Straße", exactPhrase := true, wildcard := true, operator := .or }
  let wildcard : Term := { text := "Straße", wildcard := true, operator := .not }
  let piece : Term := { text := "aß" }
  let start : Term := { text := "Stra", wildcard := true }
  let state : Term := { text := "ToDo" }
  have hplain : plain.IsPlain "Straße" := ⟨rfl, rfl, rfl⟩
  have hwildcard : wildcard.IsWildcard "Straße" := ⟨rfl, rfl, rfl⟩
  have hpiece : piece.IsPlain "aß" := ⟨rfl, rfl, rfl⟩
  have hstart : start.IsWildcard "Stra" := ⟨rfl, rfl, rfl⟩
  have hstate : state.IsPlain "ToDo" := ⟨rfl, rfl, rfl⟩
  have hword : wildcard.hits (task.searchText sections) = true := by decide +kernel
  have hequals : FieldFilter.passes ⟨.sectionTitle, .equals, "Straße"⟩ task sections now =
      .ok true := by decide +kernel
  have htodo : FieldFilter.passes ⟨.status, .contains, "ToDo"⟩ task sections now = .ok true := by
    decide +kernel
  obtain ⟨hsame, hweaker, hpart, -, hevery, -⟩ := hits_ordered task sections now "Straße" "aß"
  obtain ⟨-, -, -, hshorter, -, -⟩ := hits_ordered task sections now "Straße" "Stra"
  obtain ⟨-, -, -, -, -, hvalue⟩ := hits_ordered task sections now "ToDo" ""
  have hhit := hweaker plain wildcard hplain hwildcard hword
  exact ⟨task, sections, now, plain, phrase, wildcard, piece, start, state, hplain, ⟨rfl, rfl⟩,
    hwildcard, hpiece, hstart, hstate, hword, hhit, hsame plain phrase hplain ⟨rfl, rfl⟩ ▸ hhit,
    hpart (by decide) plain piece hplain hpiece hhit,
    hshorter (by decide) wildcard start hwildcard hstart hword, hequals,
    hevery .sectionTitle rfl hequals .lessThan, htodo,
    hvalue .status (Or.inr rfl) .contains htodo state hstate⟩

end Task

end TaskQuery
