import Mathlib.Control.Monad.Basic
import TaskQuery.Proofs.Match.Combination
import TaskQuery.Proofs.Outcome
import TaskQuery.Proofs.Search.Memory

/-!
# Search texts as sets of tasks

A search without a limit finds a part of the snapshot.  Putting search texts together then
works on these parts: a second text behind a first one intersects, a word with a dash takes
away, and a word behind `OR` adds.

## Strategy

`collect_eq_ok_iff` says once what an unlimited search finds: every task that the service
keeps is judged, by some truth function, and the results are the tasks of the snapshot that
are kept and judged true.  How the combined text judges a task is settled in
`TaskQuery.Proofs.Match.Combination` from how its parts do, so each law follows from an
equality of truth functions on the tasks of the snapshot, by `List.filter_congr`.
-/

namespace TaskQuery.SearchService

open Query

/-! ## What an unlimited search finds -/

/-- Whether a service looks at a task. -/
def keeps (service : SearchService) (task : Task) : Bool :=
  service.includeCompleted || !task.completed

/-- The tasks that a service keeps and a truth function accepts, in order. -/
def select (service : SearchService) (holds : Task → Bool) (tasks : List Task) : List Task :=
  tasks.filter fun task => service.keeps task && holds task

variable {service : SearchService} {now : DateTime}

theorem mem_select {holds : Task → Bool} {tasks : List Task} {task : Task} :
    task ∈ service.select holds tasks ↔
      task ∈ tasks ∧ service.keeps task = true ∧ holds task = true := by
  rw [select, List.mem_filter, Bool.and_eq_true]

theorem collect_cons_of_not_keeps {query : Query} {task : Task}
    (hkeeps : service.keeps task = false) (found : Nat) (tasks : List Task) :
    service.collect query now found (task :: tasks) = service.collect query now found tasks := by
  have hskipped : (!service.includeCompleted && task.completed) = true := by
    simpa [keeps] using hkeeps
  rw [collect, if_pos hskipped]

theorem not_skipped_of_keeps {task : Task} (hkeeps : service.keeps task = true) :
    ¬ (!service.includeCompleted && task.completed) = true := by
  rw [Bool.not_eq_true, ← Bool.not_eq_true']
  simpa [keeps] using hkeeps

theorem collect_cons_of_keeps {query : Query} {task : Task} (hlimit : service.limit = -1)
    (hkeeps : service.keeps task = true) (found : Nat) (tasks : List Task) :
    service.collect query now found (task :: tasks) = (do
      if ← query.matches task service.snapshot.sections now then
        let others ← service.collect query now (found + 1) tasks
        pure (task :: others)
      else service.collect query now found tasks) := by
  have hnever : service.isEnough (found + 1) = false := by simp [isEnough, hlimit]
  rw [collect, if_neg (not_skipped_of_keeps hkeeps), hnever]
  rfl

/-- Where every kept task is judged, the tasks judged true are found. -/
theorem collect_of_matches {query : Query} (hlimit : service.limit = -1) {holds : Task → Bool}
    {tasks : List Task}
    (hholds : ∀ task ∈ tasks, service.keeps task = true →
      query.matches task service.snapshot.sections now = .ok (holds task)) (found : Nat) :
    service.collect query now found tasks = .ok (service.select holds tasks) := by
  induction tasks generalizing found with
  | nil => rfl
  | cons task tasks ih =>
      have hrest := ih fun other hother => hholds other (List.mem_cons_of_mem task hother)
      cases hkeeps : service.keeps task with
      | false =>
          rw [collect_cons_of_not_keeps hkeeps, hrest, select, select,
            List.filter_cons_of_neg (by simp [hkeeps])]
      | true =>
          rw [collect_cons_of_keeps hlimit hkeeps]
          refine bind_eq_ok_iff.mpr ⟨holds task, hholds task (List.mem_cons_self ..) hkeeps, ?_⟩
          cases htask : holds task with
          | false =>
              rw [select, List.filter_cons_of_neg (by simp [htask])]
              exact hrest found
          | true =>
              rw [select, List.filter_cons_of_pos (by simp [hkeeps, htask])]
              exact bind_eq_ok_iff.mpr ⟨_, hrest (found + 1), rfl⟩

/-- Where an unlimited search has an answer, every kept task was judged. -/
theorem exists_matches_of_collect {query : Query} (hlimit : service.limit = -1)
    {tasks results : List Task} {found : Nat}
    (hcollect : service.collect query now found tasks = .ok results) :
    ∀ task ∈ tasks, service.keeps task = true →
      ∃ judged, query.matches task service.snapshot.sections now = .ok judged := by
  induction tasks generalizing found results with
  | nil => simp
  | cons task tasks ih =>
      cases hkeeps : service.keeps task with
      | false =>
          rw [collect_cons_of_not_keeps hkeeps] at hcollect
          intro other hother hkept
          rcases List.mem_cons.mp hother with rfl | hother
          · rw [hkeeps] at hkept
            exact absurd hkept Bool.false_ne_true
          · exact ih hcollect other hother hkept
      | true =>
          rw [collect_cons_of_keeps hlimit hkeeps] at hcollect
          obtain ⟨judged, hmatches, hcollect⟩ := bind_eq_ok_iff.mp hcollect
          -- whatever the judgement, the search of the other tasks has an answer
          have hothers : ∃ count others, service.collect query now count tasks = .ok others := by
            cases judged with
            | false => exact ⟨_, _, hcollect⟩
            | true =>
                obtain ⟨others, hrest, -⟩ := bind_eq_ok_iff.mp hcollect
                exact ⟨_, _, hrest⟩
          obtain ⟨count, others, hrest⟩ := hothers
          intro other hother hkept
          rcases List.mem_cons.mp hother with rfl | hother
          · exact ⟨judged, hmatches⟩
          · exact ih hrest other hother hkept

/-- An unlimited search judges every task that is kept, and finds those judged true. -/
theorem collect_eq_ok_iff {query : Query} (hlimit : service.limit = -1)
    {tasks results : List Task} {found : Nat} :
    service.collect query now found tasks = .ok results ↔
      ∃ holds : Task → Bool, results = service.select holds tasks ∧
        ∀ task ∈ tasks, service.keeps task = true →
          query.matches task service.snapshot.sections now = .ok (holds task) := by
  constructor
  · intro hcollect
    have hjudged := exists_matches_of_collect hlimit hcollect
    let holds : Task → Bool := fun task =>
      (query.matches task service.snapshot.sections now).toOption.getD false
    have hholds : ∀ task ∈ tasks, service.keeps task = true →
        query.matches task service.snapshot.sections now = .ok (holds task) := by
      intro task htask hkeeps
      obtain ⟨judged, hmatches⟩ := hjudged task htask hkeeps
      simp only [holds, hmatches]
      rfl
    refine ⟨holds, ?_, hholds⟩
    rw [collect_of_matches hlimit hholds] at hcollect
    exact (Except.ok.inj hcollect).symm
  · rintro ⟨holds, rfl, hholds⟩
    exact collect_of_matches hlimit hholds found

/-! ## What a search text finds -/

/-- The tasks that a search text finds, or why it finds none. -/
def results (service : SearchService) (text : String) (now : DateTime) :
    Except MatchFault (List Task) :=
  (service.search text now).1

/-- A query judges every task that is kept by this truth function. -/
def Judges (service : SearchService) (now : DateTime) (query : Query) (holds : Task → Bool) :
    Prop :=
  ∀ task ∈ service.snapshot.tasks, service.keeps task = true →
    query.matches task service.snapshot.sections now = .ok (holds task)

/-- A text finds tasks if its query judges every task that is kept, and then it finds the
ones judged true. -/
theorem results_eq_ok_iff (hlimit : service.limit = -1) {last : Option String}
    (hlast : service.Remembers last) {text : String} {found : List Task} :
    service.results text now = .ok found ↔
      ∃ holds : Task → Bool, found = service.select holds service.snapshot.tasks ∧
        service.Judges now (Query.parse text) holds := by
  rw [results, hlast.search_eq]
  have hunlimited : (service.remembering (some text)).limit = -1 := hlimit
  exact collect_eq_ok_iff hunlimited

/-- The tasks of the snapshot that are among the results are those that are kept and
judged true. -/
theorem decide_mem_select {holds : Task → Bool} {task : Task}
    (htask : task ∈ service.snapshot.tasks) :
    decide (task ∈ service.select holds service.snapshot.tasks) =
      (service.keeps task && holds task) := by
  rw [Bool.eq_iff_iff, decide_eq_true_iff, mem_select, Bool.and_eq_true]
  exact and_iff_right htask

/-! ## Sets of tasks -/

theorem select_and_eq (holds other : Task → Bool) :
    service.select (fun task => holds task && other task) service.snapshot.tasks =
      service.snapshot.tasks.filter fun task =>
        task ∈ service.select holds service.snapshot.tasks ∧
          task ∈ service.select other service.snapshot.tasks := by
  refine List.filter_congr fun task htask => ?_
  rw [Bool.decide_and, decide_mem_select htask, decide_mem_select htask]
  cases service.keeps task <;> simp

theorem select_or_eq (holds other : Task → Bool) :
    service.select (fun task => holds task || other task) service.snapshot.tasks =
      service.snapshot.tasks.filter fun task =>
        task ∈ service.select holds service.snapshot.tasks ∨
          task ∈ service.select other service.snapshot.tasks := by
  refine List.filter_congr fun task htask => ?_
  rw [Bool.decide_or, decide_mem_select htask, decide_mem_select htask]
  cases service.keeps task <;> simp

/-- Of the tasks judged true those with a property are the ones with both. -/
theorem filter_select {holds also other : Task → Bool} {tasks : List Task}
    (hsame : ∀ task ∈ tasks, service.keeps task = true →
      (also task && holds task) = other task) :
    (service.select holds tasks).filter also = service.select other tasks := by
  rw [select, select, List.filter_filter]
  refine List.filter_congr fun task htask => ?_
  have htask := hsame task htask
  cases hkeeps : service.keeps task with
  | false => simp
  | true =>
      rw [Bool.true_and, Bool.true_and]
      exact htask hkeeps

theorem filter_mem_select (holds other : Task → Bool) :
    (service.select holds service.snapshot.tasks).filter
        (· ∈ service.select other service.snapshot.tasks) =
      service.select (fun task => holds task && other task) service.snapshot.tasks := by
  refine filter_select fun task htask hkeeps => ?_
  rw [decide_mem_select htask, hkeeps, Bool.true_and, Bool.and_comm]

theorem filter_notMem_select (holds other : Task → Bool) :
    (service.select holds service.snapshot.tasks).filter
        (· ∉ service.select other service.snapshot.tasks) =
      service.select (fun task => holds task && !other task) service.snapshot.tasks := by
  refine filter_select fun task htask hkeeps => ?_
  rw [decide_not, decide_mem_select htask, hkeeps, Bool.true_and, Bool.and_comm]

/-- A weaker truth function selects more. -/
theorem select_sublist_of_imp {holds other : Task → Bool}
    (himp : ∀ task ∈ service.snapshot.tasks, service.keeps task = true →
      holds task = true → other task = true) :
    (service.select holds service.snapshot.tasks).Sublist
      (service.select other service.snapshot.tasks) := by
  have hboth : (service.select other service.snapshot.tasks).filter holds =
      service.select holds service.snapshot.tasks := by
    refine filter_select fun task htask hkeeps => ?_
    cases hholds : holds task with
    | false => rfl
    | true => exact himp task htask hkeeps hholds
  rw [← hboth]
  exact List.filter_sublist

/-! ## The laws -/

section Laws

variable {last : Option String} {a : String}

/-- A plain word finds the kept tasks that its term hits. -/
theorem judges_plainWord {word : String} {term : Term} (hword : PlainWord word term) :
    service.Judges now (Query.parse word)
      fun task => term.hits (task.searchText service.snapshot.sections) := by
  intro task _ _
  rw [hword.parse_eq]
  exact matches_singleton hword.operator_eq

/-- With a dash in front it finds the others. -/
theorem judges_dash {word : String} {term : Term} (hword : PlainWord word term) :
    service.Judges now (Query.parse ("-" ++ word))
      fun task => !term.hits (task.searchText service.snapshot.sections) := by
  intro task _ _
  rw [hword.parse_dash]
  exact matches_singleton_not rfl

/-- A text without alternatives behind a complete one is judged by itself. -/
theorem Judges.append {b : String} (ha : Complete a)
    (hor : ∀ term ∈ (Query.parse b).terms, term.operator ≠ .or) {holds other : Task → Bool}
    (hfirst : service.Judges now (Query.parse a) holds)
    (hsecond : service.Judges now (Query.parse b) other) :
    service.Judges now (Query.parse (a ++ " " ++ b)) fun task => holds task && other task := by
  intro task htask hkeeps
  rw [ha.parse_eq_append]
  exact matches_append hor (hfirst task htask hkeeps) (hsecond task htask hkeeps)

theorem results_append (hlimit : service.limit = -1) (hlast : service.Remembers last)
    (ha : Complete a) {b : String} (hor : ∀ term ∈ (Query.parse b).terms, term.operator ≠ .or)
    {inA inB : List Task} (hinA : service.results a now = .ok inA)
    (hinB : service.results b now = .ok inB) :
    service.results (a ++ " " ++ b) now =
      .ok (service.snapshot.tasks.filter fun task => task ∈ inA ∧ task ∈ inB) := by
  obtain ⟨holds, rfl, hfirst⟩ := (results_eq_ok_iff hlimit hlast).mp hinA
  obtain ⟨other, rfl, hsecond⟩ := (results_eq_ok_iff hlimit hlast).mp hinB
  rw [results_eq_ok_iff hlimit hlast, ← select_and_eq]
  exact ⟨_, rfl, hfirst.append ha hor hsecond⟩

theorem results_plainWord (hlimit : service.limit = -1) (hlast : service.Remembers last)
    {word : String} {term : Term} (hword : PlainWord word term) :
    service.results word now = .ok (service.select
      (fun task => term.hits (task.searchText service.snapshot.sections))
      service.snapshot.tasks) :=
  (results_eq_ok_iff hlimit hlast).mpr ⟨_, rfl, judges_plainWord hword⟩

/-- A plain word behind a complete text cuts what is found in two. -/
theorem results_append_word (hlimit : service.limit = -1) (hlast : service.Remembers last)
    (ha : Complete a) {word : String} {term : Term} (hword : PlainWord word term)
    {inA inWord : List Task} (hinA : service.results a now = .ok inA)
    (hinWord : service.results word now = .ok inWord) :
    service.results (a ++ " " ++ word) now = .ok (inA.filter (· ∈ inWord)) ∧
      service.results (a ++ " -" ++ word) now = .ok (inA.filter (· ∉ inWord)) := by
  obtain ⟨holds, rfl, hfirst⟩ := (results_eq_ok_iff hlimit hlast).mp hinA
  rw [results_plainWord hlimit hlast hword] at hinWord
  obtain rfl := Except.ok.inj hinWord
  have hand : ∀ other ∈ (Query.parse word).terms, other.operator ≠ .or := by
    intro other hother
    rw [hword.terms] at hother
    rw [List.mem_singleton.mp hother, hword.operator_eq]
    decide
  have hnot : ∀ other ∈ (Query.parse ("-" ++ word)).terms, other.operator ≠ .or := by
    intro other hother
    rw [hword.parse_dash] at hother
    rw [List.mem_singleton.mp hother]
    exact Operator.noConfusion
  have hdash : a ++ " -" ++ word = a ++ " " ++ ("-" ++ word) := by
    rw [← String.toList_inj]
    simp only [String.toList_append, List.append_assoc]
    rfl
  constructor
  · rw [results_eq_ok_iff hlimit hlast, filter_mem_select]
    exact ⟨_, rfl, hfirst.append ha hand (judges_plainWord hword)⟩
  · rw [hdash, results_eq_ok_iff hlimit hlast, filter_notMem_select]
    exact ⟨_, rfl, hfirst.append ha hnot (judges_dash hword)⟩

/-- A plain word behind `OR` loses nothing. -/
theorem results_append_or (hlimit : service.limit = -1) (hlast : service.Remembers last)
    (ha : Complete a) {word : String} {term : Term} (hword : PlainWord word term)
    {inEither : List Task} (hinEither : service.results (a ++ " OR " ++ word) now = .ok inEither) :
    ∃ inA, service.results a now = .ok inA ∧ inA.Sublist inEither := by
  obtain ⟨either, rfl, heither⟩ := (results_eq_ok_iff hlimit hlast).mp hinEither
  have hjudged : ∀ task ∈ service.snapshot.tasks, service.keeps task = true →
      ∃ x, (Query.parse a).matches task service.snapshot.sections now = .ok x ∧
        (x = true → either task = true) := by
    intro task htask hkeeps
    have hlonger := heither task htask hkeeps
    rw [ha.parse_or_eq_append hword] at hlonger
    exact matches_append_or rfl hlonger
  have hcollect : ∃ inA, service.results a now = .ok inA := by
    let holds : Task → Bool := fun task =>
      ((Query.parse a).matches task service.snapshot.sections now).toOption.getD false
    refine ⟨_, (results_eq_ok_iff hlimit hlast).mpr ⟨holds, rfl, fun task htask hkeeps => ?_⟩⟩
    obtain ⟨x, hx, -⟩ := hjudged task htask hkeeps
    simp only [holds, hx]
    rfl
  obtain ⟨inA, hinA⟩ := hcollect
  obtain ⟨holds, rfl, hholds⟩ := (results_eq_ok_iff hlimit hlast).mp hinA
  refine ⟨_, hinA, select_sublist_of_imp fun task htask hkeeps htrue => ?_⟩
  obtain ⟨x, hx, himp⟩ := hjudged task htask hkeeps
  rw [hholds task htask hkeeps] at hx
  obtain rfl := Except.ok.inj hx
  exact himp htrue

/-- Behind a text without filters a plain word behind `OR` adds what it finds. -/
theorem results_append_or_of_filters_eq_nil (hlimit : service.limit = -1)
    (hlast : service.Remembers last) (ha : Complete a) (hfilters : (Query.parse a).filters = [])
    {word : String} {term : Term} (hword : PlainWord word term) :
    ∃ inA inWord, service.results a now = .ok inA ∧ service.results word now = .ok inWord ∧
      service.results (a ++ " OR " ++ word) now =
        .ok (service.snapshot.tasks.filter fun task => task ∈ inA ∨ task ∈ inWord) := by
  have hfirst : service.Judges now (Query.parse a) fun task =>
      satisfiesTerms (Query.parse a).terms (task.searchText service.snapshot.sections) :=
    fun task _ _ => matches_of_filters_eq_nil hfilters
  refine ⟨_, _, (results_eq_ok_iff hlimit hlast).mpr ⟨_, rfl, hfirst⟩,
    results_plainWord hlimit hlast hword, ?_⟩
  rw [← select_or_eq, results_eq_ok_iff hlimit hlast]
  refine ⟨_, rfl, fun task _ _ => ?_⟩
  rw [ha.parse_or_eq_append hword]
  exact matches_append_or_of_filters_eq_nil rfl hfilters

end Laws

/-- **Search texts are sets of tasks.**  Without a limit every search finds a part of the
snapshot, in its order.  Behind a complete text, a text without alternatives intersects; a
plain word cuts what is found in two, the tasks that the word finds too and, with a dash in
front, the ones that it does not find; and a plain word behind `OR` loses nothing, and adds
what the word finds if the first text has no filters.  A combined text has an answer
wherever its parts do, but for `OR`, which may have the filters look at more tasks. -/
theorem results_setAlgebra {last : Option String} {a : String} (hlimit : service.limit = -1)
    (hlast : service.Remembers last) (ha : Complete a) :
    (∀ text found, service.results text now = .ok found →
        found.Sublist service.snapshot.tasks) ∧
      (∀ b inA inB, (∀ term ∈ (Query.parse b).terms, term.operator ≠ .or) →
        service.results a now = .ok inA → service.results b now = .ok inB →
        service.results (a ++ " " ++ b) now =
          .ok (service.snapshot.tasks.filter fun task => task ∈ inA ∧ task ∈ inB)) ∧
      (∀ word term inA, PlainWord word term → service.results a now = .ok inA →
        ∃ inWord, service.results word now = .ok inWord ∧
          service.results (a ++ " " ++ word) now = .ok (inA.filter (· ∈ inWord)) ∧
          service.results (a ++ " -" ++ word) now = .ok (inA.filter (· ∉ inWord)) ∧
          (inA.filter (· ∈ inWord) ++ inA.filter (· ∉ inWord)).Perm inA ∧
          (inA.filter (· ∈ inWord)).Disjoint (inA.filter (· ∉ inWord))) ∧
      (∀ word term inEither, PlainWord word term →
        service.results (a ++ " OR " ++ word) now = .ok inEither →
        ∃ inA, service.results a now = .ok inA ∧ inA.Sublist inEither) ∧
      (∀ word term, PlainWord word term → (Query.parse a).filters = [] →
        ∃ inA inWord, service.results a now = .ok inA ∧ service.results word now = .ok inWord ∧
          service.results (a ++ " OR " ++ word) now =
            .ok (service.snapshot.tasks.filter fun task => task ∈ inA ∨ task ∈ inWord)) := by
  refine ⟨fun text found hfound => ?_, fun b inA inB hor hinA hinB => ?_,
    fun word term inA hword hinA => ?_, fun word term inEither hword hinEither => ?_,
    fun word term hword hfilters => ?_⟩
  · obtain ⟨holds, rfl, -⟩ := (results_eq_ok_iff hlimit hlast).mp hfound
    exact List.filter_sublist
  · exact results_append hlimit hlast ha hor hinA hinB
  · obtain ⟨inWord, hinWord⟩ : ∃ inWord, service.results word now = .ok inWord :=
      ⟨_, results_plainWord hlimit hlast hword⟩
    obtain ⟨hwith, hwithout⟩ := results_append_word hlimit hlast ha hword hinA hinWord
    refine ⟨_, hinWord, hwith, hwithout, ?_, ?_⟩
    · simpa using List.filter_append_perm _ inA
    · intro task hmem hnotMem
      have hfound := (List.mem_filter.mp hmem).2
      have hnot := (List.mem_filter.mp hnotMem).2
      exact of_decide_eq_true hnot (of_decide_eq_true hfound)
  · exact results_append_or hlimit hlast ha hword hinEither
  · exact results_append_or_of_filters_eq_nil hlimit hlast ha hfilters hword

/-- A text with alternatives and a filter, cut by the start of a word: of the two notes that
it finds, one is about milk. -/
theorem exists_results_cut :
    ∃ (service : SearchService) (now : DateTime) (term : Term) (first second : Task),
      service.limit = -1 ∧ service.Remembers none ∧ Complete "coffee OR tea title:e" ∧
        PlainWord "mil*" term ∧
        service.results "coffee OR tea title:e" now = .ok [first, second] ∧
        service.results ("coffee OR tea title:e" ++ " -" ++ "mil*") now = .ok [first] := by
  let first : Task := { id := "1", title := "Green tea" }
  let second : Task := { id := "2", title := "Black tea with milk" }
  let service : SearchService :=
    { snapshot := { tasks := [first, { id := "3", title := "Milk" }, second] } }
  let now : DateTime := .startOf ⟨2026, 1, 31, by decide⟩
  have htokens : tokens "coffee OR tea title:e" = [.word "coffee".toList,
      .keyword .or "OR".toList, .word "tea".toList, .word "title:e".toList] := by
    decide +kernel
  have hlast : service.Remembers none := rfl
  have hcomplete : Complete "coffee OR tea title:e" := by
    constructor
    · rw [htokens]
      intro token htoken
      obtain rfl : Token.word "title:e".toList = token := Option.some.inj htoken
      exact id
    · rw [htokens]
      simp
  have hblank : "mil*".toList.all (!Text.isBlank ·) = true := by decide +kernel
  have hword : PlainWord "mil*" { text := "mil", wildcard := true } :=
    ⟨fun c hc => by simpa using List.all_eq_true.mp hblank c hc, by decide +kernel, rfl,
      by decide⟩
  have hfirst : service.results "coffee OR tea title:e" now = .ok [first, second] := by
    decide +kernel
  have hinWord : service.results "mil*" now = .ok [{ id := "3", title := "Milk" }, second] := by
    decide +kernel
  obtain ⟨inWord, hfound, -, hcut, -⟩ :=
    (results_setAlgebra rfl hlast hcomplete).2.2.1 "mil*" _ _ hword hfirst
  obtain rfl := Except.ok.inj (hinWord.symm.trans hfound)
  exact ⟨service, now, _, first, second, rfl, hlast, hcomplete, hword, hfirst, hcut⟩

end TaskQuery.SearchService
