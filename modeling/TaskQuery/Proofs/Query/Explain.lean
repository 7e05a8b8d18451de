import Mathlib.Algebra.GroupWithZero.Nat
import Mathlib.Data.Sum.Basic
import TaskQuery.Proofs.Query.Writable
import TaskQuery.Proofs.Text.Lines
import TaskQuery.Proofs.Text.Quoted
import TaskQuery.Search.Command

/-!
# Explanations are faithful

An explanation says all that a query says: it has one line for each clause
(`Query.lines_explain`), and no two queries have the same explanation
(`Query.explain_injective`).  So what the explain command tells about several texts can be read
back: which texts they were, and what each was understood as (`explanations_injective`).

## Strategy

A line is read from its front.  What stands before a quoted text has a fixed width or ends at a
blank, the quoted text ends where `quote_append_inj` says, and the rest are remarks.  Terms,
filters and the line of the empty query start with different letters (`Clause.letter`).  No line
has a line end inside, whatever the texts, since quoted texts have none.

The texts of one command are told apart by the first letter of each log line: the heading of a
text starts with a `q`, the lines below it with a blank.
-/

namespace TaskQuery

open Text

/-- A part that ends at a mark which it does not contain is known from the whole. -/
theorem Text.append_mark_inj {mark : Char} {front other rest tail : List Char}
    (hfront : mark ∉ front) (hother : mark ∉ other)
    (heq : front ++ mark :: rest = other ++ mark :: tail) : front = other ∧ rest = tail := by
  have hcut : cutAt mark (front ++ mark :: rest) = (front, some rest) :=
    cutAt_eq_some_iff.mpr ⟨rfl, hfront⟩
  have hcut' : cutAt mark (front ++ mark :: rest) = (other, some tail) :=
    cutAt_eq_some_iff.mpr ⟨heq, hother⟩
  obtain ⟨hsame, hrest⟩ := Prod.mk.inj (hcut.symm.trans hcut')
  exact ⟨hsame, Option.some.inj hrest⟩

/-! ## The line of a term -/

theorem Operator.column_injective : Function.Injective Operator.column := by
  intro left right
  cases left <;> cases right <;> decide

theorem Operator.length_column (operator : Operator) : operator.column.toList.length = 3 := by
  cases operator <;> decide

/-- The letter that the line of a term with an operator starts with. -/
def Operator.letter : Operator → Char
  | .and => 'A'
  | .or => 'O'
  | .not => 'N'

theorem Operator.head?_column (operator : Operator) :
    operator.column.toList.head? = some operator.letter := by
  cases operator <;> decide

theorem Operator.letter_ne (operator : Operator) :
    operator.letter ≠ 'F' ∧ operator.letter ≠ '(' := by
  cases operator <;> decide

theorem Operator.isLineEnd_column (operator : Operator) :
    ∀ c ∈ operator.column.toList, isLineEnd c = false := by
  refine isLineEnd_of_all ?_
  cases operator <;> decide

namespace Term

theorem flags_eq_of_remarks_eq {term other : Term} (heq : term.remarks = other.remarks) :
    term.exactPhrase = other.exactPhrase ∧ term.wildcard = other.wildcard := by
  unfold remarks at heq
  revert heq
  cases term.exactPhrase <;> cases term.wildcard <;> cases other.exactPhrase <;>
    cases other.wildcard <;> decide

theorem isLineEnd_remarks (term : Term) : ∀ c ∈ term.remarks.toList, isLineEnd c = false := by
  refine isLineEnd_of_all ?_
  unfold remarks
  cases term.exactPhrase <;> cases term.wildcard <;> decide

theorem toList_explain (term : Term) :
    term.explain.toList =
      term.operator.column.toList ++ ' ' :: (quote term.text.toList ++ term.remarks.toList) := by
  unfold explain quoted
  simp only [String.toList_append, String.toList_ofList, List.append_assoc]
  rfl

theorem explain_injective : Function.Injective explain := by
  intro term other heq
  have hletters := congrArg String.toList heq
  rw [toList_explain, toList_explain] at hletters
  obtain ⟨hcolumn, hrest⟩ := List.append_inj hletters
    ((Operator.length_column _).trans (Operator.length_column _).symm)
  obtain ⟨htext, hremarks⟩ := quote_append_inj (List.cons.inj hrest).2
  have hoperator := Operator.column_injective (String.toList_injective hcolumn)
  obtain ⟨hphrase, hwildcard⟩ := flags_eq_of_remarks_eq (String.toList_injective hremarks)
  cases term
  cases other
  rw [mk.injEq]
  exact ⟨String.toList_injective htext, hphrase, hwildcard, hoperator⟩

end Term

/-! ## The line of a filter -/

theorem Field.name_injective : Function.Injective Field.name := by
  intro left right heq
  obtain ⟨-, -, -, hleft⟩ := name_spec left
  obtain ⟨-, -, -, hright⟩ := name_spec right
  rw [heq, hright] at hleft
  exact (Option.some.inj hleft).symm

theorem Field.space_notMem_name (field : Field) : ' ' ∉ field.name.toList := by
  obtain ⟨hmarks, -⟩ := name_spec field
  intro hspace
  exact absurd (hmarks ' ' hspace).1 (by decide)

theorem Field.isLineEnd_name (field : Field) :
    ∀ c ∈ field.name.toList, isLineEnd c = false := by
  refine isLineEnd_of_all ?_
  cases field <;> decide

theorem Comparison.name_injective : Function.Injective Comparison.name := by
  intro left right
  cases left <;> cases right <;> decide

theorem Comparison.space_notMem_name (comparison : Comparison) :
    ' ' ∉ comparison.name.toList := by
  cases comparison <;> decide

theorem Comparison.isLineEnd_name (comparison : Comparison) :
    ∀ c ∈ comparison.name.toList, isLineEnd c = false := by
  refine isLineEnd_of_all ?_
  cases comparison <;> decide

namespace FieldFilter

theorem toList_explain (filter : FieldFilter) :
    filter.explain.toList =
      "FILTER ".toList ++ (filter.field.name.toList ++ ' ' ::
        (filter.comparison.name.toList ++ ' ' :: quote filter.value.toList)) := by
  unfold explain quoted
  simp only [String.toList_append, String.toList_ofList, List.append_assoc]
  rfl

theorem explain_injective : Function.Injective explain := by
  intro filter other heq
  have hletters := congrArg String.toList heq
  rw [toList_explain, toList_explain] at hletters
  obtain ⟨hfield, hrest⟩ := append_mark_inj (Field.space_notMem_name _)
    (Field.space_notMem_name _) (List.append_cancel_left hletters)
  obtain ⟨hcomparison, hquote⟩ := append_mark_inj (Comparison.space_notMem_name _)
    (Comparison.space_notMem_name _) hrest
  obtain ⟨hvalue, -⟩ := quote_append_inj (congrArg (· ++ []) hquote)
  cases filter
  cases other
  rw [mk.injEq]
  exact ⟨Field.name_injective (String.toList_injective hfield),
    Comparison.name_injective (String.toList_injective hcomparison),
    String.toList_injective hvalue⟩

end FieldFilter

/-! ## The lines of a query -/

/-- A clause of a query: a term or a filter. -/
abbrev Clause := Term ⊕ FieldFilter

namespace Clause

/-- The line that explains a clause. -/
def explain : Clause → String :=
  Sum.elim Term.explain FieldFilter.explain

theorem explain_inl (term : Term) : explain (.inl term) = term.explain :=
  rfl

theorem explain_inr (filter : FieldFilter) : explain (.inr filter) = filter.explain :=
  rfl

/-- The letter that the line of a clause starts with. -/
def letter : Clause → Char
  | .inl term => term.operator.letter
  | .inr _ => 'F'

theorem head?_explain (clause : Clause) : clause.explain.toList.head? = some clause.letter := by
  cases clause with
  | inl term =>
      rw [explain_inl, term.toList_explain, List.head?_append, term.operator.head?_column]
      rfl
  | inr filter =>
      rw [explain_inr, filter.toList_explain]
      rfl

theorem letter_ne (clause : Clause) : clause.letter ≠ '(' := by
  cases clause with
  | inl term => exact term.operator.letter_ne.2
  | inr filter => exact (by decide : 'F' ≠ '(')

theorem explain_injective : Function.Injective explain := by
  apply Function.Injective.sumElim Term.explain_injective FieldFilter.explain_injective
  intro term filter heq
  have hfirst := head?_explain (.inl term)
  rw [explain_inl, heq, ← explain_inr, head?_explain] at hfirst
  exact term.operator.letter_ne.1 (Option.some.inj hfirst).symm

theorem isLineEnd_explain (clause : Clause) :
    ∀ c ∈ clause.explain.toList, isLineEnd c = false := by
  cases clause with
  | inl term =>
      rw [explain_inl, term.toList_explain, List.forall_mem_append, List.forall_mem_cons,
        List.forall_mem_append]
      exact ⟨term.operator.isLineEnd_column, by decide, fun _ => isLineEnd_of_mem_quote,
        term.isLineEnd_remarks⟩
  | inr filter =>
      rw [explain_inr, filter.toList_explain, List.forall_mem_append, List.forall_mem_append,
        List.forall_mem_cons, List.forall_mem_append, List.forall_mem_cons]
      exact ⟨isLineEnd_of_all (by decide), filter.field.isLineEnd_name, by decide,
        filter.comparison.isLineEnd_name, by decide, fun _ => isLineEnd_of_mem_quote⟩

end Clause

namespace Query

/-- The clauses of a query: its terms, then its filters. -/
def clauses (query : Query) : List Clause :=
  query.terms.map .inl ++ query.filters.map .inr

theorem clauses_injective : Function.Injective clauses := by
  intro query other heq
  have hterms := congrArg (List.filterMap Sum.getLeft?) heq
  have hfilters := congrArg (List.filterMap Sum.getRight?) heq
  unfold clauses at hterms hfilters
  simp only [List.filterMap_append, List.filterMap_map, Function.comp_def, Sum.getLeft?_inl,
    Sum.getLeft?_inr, Sum.getRight?_inl, Sum.getRight?_inr, List.filterMap_some,
    List.filterMap_none, List.append_nil, List.nil_append] at hterms hfilters
  cases query
  cases other
  rw [mk.injEq]
  exact ⟨hterms, hfilters⟩

theorem isEmpty_eq_isEmpty_clauses (query : Query) : query.isEmpty = query.clauses.isEmpty := by
  rcases query with ⟨_ | _, _ | _⟩ <;> rfl

/-- The line that explains the empty query. -/
def emptyLine : String :=
  "(empty query: matches every task)"

theorem explainLines_of_isEmpty {query : Query} (hempty : query.isEmpty = true) :
    query.explainLines = [emptyLine] :=
  if_pos hempty

theorem explainLines_of_not_isEmpty {query : Query} (hempty : query.isEmpty = false) :
    query.explainLines = query.clauses.map Clause.explain := by
  unfold explainLines clauses
  rw [if_neg (Bool.eq_false_iff.mp hempty), List.map_append, List.map_map, List.map_map]
  rfl

theorem length_explainLines (query : Query) :
    query.explainLines.length = max 1 query.clauses.length := by
  cases hempty : query.isEmpty with
  | true =>
      rw [explainLines_of_isEmpty hempty]
      rw [isEmpty_eq_isEmpty_clauses, List.isEmpty_iff] at hempty
      rw [hempty]
      rfl
  | false =>
      rw [explainLines_of_not_isEmpty hempty, List.length_map]
      rw [isEmpty_eq_isEmpty_clauses, List.isEmpty_eq_false_iff, ← List.length_pos_iff] at hempty
      omega

/-- No clause is explained by the line of the empty query. -/
theorem emptyLine_mem_explainLines_iff {query : Query} :
    emptyLine ∈ query.explainLines ↔ query.isEmpty = true := by
  constructor
  · intro hmem
    by_contra hempty
    rw [explainLines_of_not_isEmpty (Bool.eq_false_iff.mpr hempty)] at hmem
    obtain ⟨clause, -, hline⟩ := List.mem_map.mp hmem
    have hfirst := clause.head?_explain
    rw [hline] at hfirst
    exact clause.letter_ne (Option.some.inj hfirst).symm
  · intro hempty
    rw [explainLines_of_isEmpty hempty]
    exact List.mem_singleton_self emptyLine

theorem explainLines_injective : Function.Injective explainLines := by
  intro query other heq
  have hsame : query.isEmpty = other.isEmpty := by
    rw [Bool.eq_iff_iff, ← emptyLine_mem_explainLines_iff, heq, emptyLine_mem_explainLines_iff]
  apply clauses_injective
  cases hempty : other.isEmpty with
  | true =>
      rw [hempty, isEmpty_eq_isEmpty_clauses, List.isEmpty_iff] at hsame
      rw [isEmpty_eq_isEmpty_clauses, List.isEmpty_iff] at hempty
      rw [hsame, hempty]
  | false =>
      rw [explainLines_of_not_isEmpty (hsame.trans hempty), explainLines_of_not_isEmpty hempty]
        at heq
      exact List.map_injective_iff.mpr Clause.explain_injective heq

theorem isLineEnd_explainLines (query : Query) :
    ∀ line ∈ query.explainLines, ∀ c ∈ line.toList, isLineEnd c = false := by
  cases hempty : query.isEmpty with
  | true =>
      rw [explainLines_of_isEmpty hempty, List.forall_mem_singleton]
      exact isLineEnd_of_all (by decide)
  | false =>
      rw [explainLines_of_not_isEmpty hempty, List.forall_mem_map]
      exact fun clause _ => clause.isLineEnd_explain

/-- The lines of the text of an explanation are the lines that it was made of. -/
theorem lines_explain (query : Query) :
    lines query.explain.toList = query.explainLines.map String.toList := by
  have htext : query.explain.toList =
      (query.explainLines.map String.toList).flatMap fun line => line ++ ['\n'] := by
    unfold explain
    rw [String.toList_join, List.flatMap_map, List.flatMap_map]
    simp only [String.toList_append]
    rfl
  rw [htext]
  refine lines_flatMap (List.forall_mem_map.mpr ?_)
  exact query.isLineEnd_explainLines

theorem explain_injective : Function.Injective explain := by
  intro query other heq
  have hlines := lines_explain query
  rw [heq, lines_explain] at hlines
  exact explainLines_injective
    (List.map_injective_iff.mpr (fun _ _ => String.toList_injective) hlines.symm)

end Query

/-! ## What the explain command tells -/

/-- The log line in front of the explanation of a text. -/
def explanationHeading (text : String) : LogLine :=
  .info ("query=" ++ quoted text)

/-- The log lines below the heading, two blanks in front of each. -/
def Query.indentedLines (query : Query) : List LogLine :=
  query.explainLines.map fun line => .info ("  " ++ line)

/-- The log lines about texts, each with the query that it was understood as. -/
def explanations (readings : List (String × Query)) : List LogLine :=
  readings.flatMap fun reading => explanationHeading reading.1 :: reading.2.indentedLines

/-- Whether a log line starts as the heading of an explanation does. -/
def LogLine.isExplanationHeading (line : LogLine) : Bool :=
  line.message.toList.head? == some 'q'

theorem explainTexts_eq_explanations (texts : List String) :
    explainTexts texts = explanations (texts.map fun text => (text, Query.parse text)) := by
  have htext (text : String) :
      explainText text = explanationHeading text :: (Query.parse text).indentedLines := by
    unfold explainText Query.indentedLines
    rw [Query.lines_explain, List.map_map]
    simp only [Function.comp_def, String.ofList_toList]
    rfl
  unfold explainTexts explanations
  rw [List.flatMap_map]
  exact congrArg (texts.flatMap ·) (funext htext)

theorem level_of_mem_explanations {readings : List (String × Query)} {line : LogLine}
    (hline : line ∈ explanations readings) : line.level = .info := by
  obtain ⟨reading, -, hmem⟩ := List.mem_flatMap.mp hline
  rcases List.mem_cons.mp hmem with rfl | hbelow
  · rfl
  · obtain ⟨text, -, rfl⟩ := List.mem_map.mp hbelow
    rfl

theorem length_explanations (readings : List (String × Query)) :
    (explanations readings).length =
      (readings.map fun reading => 1 + max 1 reading.2.clauses.length).sum := by
  unfold explanations
  rw [List.length_flatMap]
  refine congrArg List.sum (List.map_congr_left fun reading _ => ?_)
  rw [List.length_cons, Query.indentedLines, List.length_map, Query.length_explainLines,
    Nat.add_comm]

/-! ### Reading it back -/

theorem quoted_injective : Function.Injective quoted := by
  intro text other heq
  have hletters : quote text.toList ++ [] = quote other.toList ++ [] := by
    rw [String.ofList_injective heq]
  exact String.toList_injective (quote_append_inj hletters).1

/-- A message is known from the log line that has a fixed text in front of it. -/
theorem info_append_injective (front : String) :
    Function.Injective fun text => LogLine.info (front ++ text) := by
  intro text other heq
  have hmessage : front ++ text = front ++ other := congrArg LogLine.message heq
  have hletters := congrArg String.toList hmessage
  rw [String.toList_append, String.toList_append] at hletters
  exact String.toList_injective (List.append_cancel_left hletters)

theorem explanationHeading_injective : Function.Injective explanationHeading :=
  (info_append_injective "query=").comp quoted_injective

theorem Query.indentedLines_injective : Function.Injective Query.indentedLines :=
  (List.map_injective_iff.mpr (info_append_injective "  ")).comp explainLines_injective

theorem isExplanationHeading_heading (text : String) :
    (explanationHeading text).isExplanationHeading = true := by
  unfold LogLine.isExplanationHeading explanationHeading LogLine.info
  rw [String.toList_append]
  rfl

theorem isExplanationHeading_of_mem_indentedLines {query : Query} {line : LogLine}
    (hline : line ∈ query.indentedLines) : line.isExplanationHeading = false := by
  obtain ⟨text, -, rfl⟩ := List.mem_map.mp hline
  unfold LogLine.isExplanationHeading LogLine.info
  rw [String.toList_append]
  rfl

/-- The lines below a heading reach to the next heading. -/
theorem takeWhile_append_explanations (query : Query) (readings : List (String × Query)) :
    (query.indentedLines ++ explanations readings).takeWhile (!·.isExplanationHeading) =
      query.indentedLines := by
  have hbelow : ∀ line ∈ query.indentedLines, (!line.isExplanationHeading) = true := by
    intro line hline
    rw [isExplanationHeading_of_mem_indentedLines hline]
    rfl
  have hnext : (explanations readings).takeWhile (!·.isExplanationHeading) = [] := by
    cases readings with
    | nil => rfl
    | cons reading readings =>
        refine List.takeWhile_cons_of_neg ?_
        rw [isExplanationHeading_heading]
        decide
  rw [List.takeWhile_append_of_pos hbelow, hnext, List.append_nil]

/-- Texts and queries are known from the log lines about them. -/
theorem explanations_injective : Function.Injective explanations := by
  intro readings
  induction readings with
  | nil =>
      intro others heq
      cases others with
      | nil => rfl
      | cons other others => exact absurd heq.symm (List.cons_ne_nil _ _)
  | cons reading readings ih =>
      intro others heq
      cases others with
      | nil => exact absurd heq (List.cons_ne_nil _ _)
      | cons other others =>
          obtain ⟨text, query⟩ := reading
          obtain ⟨text', query'⟩ := other
          obtain ⟨hheading, hbelow⟩ := List.cons.inj heq
          obtain rfl := explanationHeading_injective hheading
          have hsame : query.indentedLines = query'.indentedLines := by
            calc query.indentedLines
                = (query.indentedLines ++ explanations readings).takeWhile
                    (!·.isExplanationHeading) := (takeWhile_append_explanations _ _).symm
              _ = (query'.indentedLines ++ explanations others).takeWhile
                    (!·.isExplanationHeading) := congrArg _ hbelow
              _ = query'.indentedLines := takeWhile_append_explanations _ _
          obtain rfl := Query.indentedLines_injective hsame
          rw [ih (List.append_cancel_left hbelow)]

/-- An explanation has a line for each clause and says all that the query says: no two queries
have the same explanation.  The explain command shows these lines below a heading for each
text, and its log lines tell which texts it was given and what each was understood as. -/
theorem Query.explain_faithful :
    Function.Injective Query.explain ∧
      (∀ query : Query, query.isEmpty = false →
        lines query.explain.toList =
          query.terms.map (·.explain.toList) ++ query.filters.map (·.explain.toList)) ∧
      (∀ texts : List String,
        (explainTexts texts).length =
            (texts.map fun text => 1 + max 1 (Query.parse text).clauses.length).sum ∧
          ∀ line ∈ explainTexts texts, line.level = .info) ∧
      Function.Injective explainTexts ∧
      ∀ (texts : List String) (readings : List (String × Query)),
        explainTexts texts = explanations readings →
          readings = texts.map fun text => (text, Query.parse text) := by
  have hreadings (texts : List String) (readings : List (String × Query))
      (heq : explainTexts texts = explanations readings) :
      readings = texts.map fun text => (text, Query.parse text) :=
    explanations_injective (heq.symm.trans (explainTexts_eq_explanations texts))
  refine ⟨explain_injective, ?lines, ?counts, ?texts, hreadings⟩
  case lines =>
    intro query hempty
    rw [lines_explain, explainLines_of_not_isEmpty hempty, clauses]
    simp only [List.map_append, List.map_map]
    rfl
  case counts =>
    intro texts
    rw [explainTexts_eq_explanations, length_explanations, List.map_map]
    exact ⟨rfl, fun line => level_of_mem_explanations⟩
  case texts =>
    intro texts others heq
    have htexts := hreadings texts _ (heq.trans (explainTexts_eq_explanations others))
    exact List.map_injective_iff.mpr (fun _ _ hpair => congrArg Prod.fst hpair) htexts.symm

/-- Line ends, both quotes, a backslash and characters that cannot be seen; and the lines about
two texts, one of them empty. -/
theorem Query.exists_explain_faithful :
    ∃ (query : Query) (texts : List String) (readings : List (String × Query)),
      query.isEmpty = false ∧
      lines query.explain.toList =
        ["NOT 'it\\'s\\n\"\\u2028\\\\' [phrase]".toList,
          "OR  \"'\\x00\\U000e0001\" [prefix]".toList,
          "FILTER dueDate lessOrEqual 'a\\r\\nb'".toList] ∧
      explainTexts texts = explanations readings ∧
      readings = texts.map fun text => (text, Query.parse text) := by
  obtain ⟨-, hlines, -, -, hreadings⟩ := explain_faithful
  let unseen : String := String.ofList ['\'', '\x00', Char.ofNat 0xE0001]
  let query : Query := {
    terms := [⟨"it's\n\"\u2028\\", true, false, .not⟩, ⟨unseen, false, true, .or⟩]
    filters := [⟨.dueDate, .lessOrEqual, "a\r\nb"⟩] }
  have hnonempty : query.isEmpty = false := rfl
  let texts : List String := ["red\u2028-green", ""]
  let readings : List (String × Query) := [
    ("red\u2028-green", { terms := [{ text := "red" }, { text := "green", operator := .not }] }),
    ("", {})]
  have hlog : explainTexts texts = explanations readings := by decide +kernel
  exact ⟨query, texts, readings, hnonempty, (hlines query hnonempty).trans (by decide +kernel),
    hlog, hreadings texts readings hlog⟩

end TaskQuery
